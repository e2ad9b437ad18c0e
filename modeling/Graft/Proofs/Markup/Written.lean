import Graft.Proofs.Markup.Forest
import Graft.Proofs.Markup.WrittenTag

/-!
# Graft.Proofs.Markup.Written

Reading back what `render` writes. Texts that stand side by side become one; blanks in front of a
doctype, the line ends of a comment and a line feed that is written twice are the only other changes.

* `joinFrom`: a forest with neighbouring texts joined.
* `Node.reread`, `rereadAll`: what is read back.
* `Normal`, `Stable`: nodes that are read back as they are.
* `Reads`, `ReadsAll`: the tokens of a written node, and of written nodes.
* `writes_of_sound`: every sound node can be written, and is read with well-nested tags.
* `parse_render_reread`: what a forest is read back as.
* `parse_render`: a stable forest is read back with its texts joined.
-/

namespace Graft.Markup

/-! ## Joining texts -/

/-- The text read so far, if there is any. -/
def flush (pending : Bytes) : List Node := if pending.isEmpty then [] else [.text pending]

mutual

/-- A node with the neighbouring texts inside it joined. -/
def Node.joined : Node → Node
  | .element name attrs children => .element name attrs (joinFrom [] children)
  | node => node

/-- A forest with neighbouring texts joined, behind the text `pending`. -/
def joinFrom (pending : Bytes) : List Node → List Node
  | [] => flush pending
  | .text data :: rest => joinFrom (pending ++ data) rest
  | node :: rest => flush pending ++ node.joined :: joinFrom [] rest

end

theorem joinFrom_cons {node : Node} (h : ∀ data, node ≠ .text data) (pending : Bytes)
    (rest : List Node) :
    joinFrom pending (node :: rest) = flush pending ++ node.joined :: joinFrom [] rest := by
  cases node with
  | text data => exact absurd rfl (h data)
  | comment | doctype | element => rw [joinFrom]; simp

/-! ## What is read back -/

/-- Whether a line feed is written in front of the children of an element, so that none is lost. -/
def isFed (name : Bytes) (children : List Node) : Bool :=
  swallowsLineFeed name && startsWithLineFeed children

theorem isFed_nil (name : Bytes) : isFed name [] = false := by
  rw [isFed, show startsWithLineFeed [] = false from rfl, Bool.and_false]

/-- The line feed in front of the children, as it is read. -/
def feedNodes (name : Bytes) (children : List Node) : List Node :=
  if isFed name children then [.text [Byte.lf]] else []

mutual

def Node.reread : Node → Node
  | .text data => .text data
  | .comment data => .comment (normalizeLines data)
  | .doctype data => .doctype (data.dropWhile isBlankByte)
  | .element name attrs children =>
    .element name attrs (feedNodes name children ++ rereadAll children)

def rereadAll : List Node → List Node
  | [] => []
  | node :: rest => node.reread :: rereadAll rest

end

theorem rereadAll_cons (node : Node) (rest : List Node) :
    rereadAll (node :: rest) = node.reread :: rereadAll rest := by rw [rereadAll]

theorem reread_ne_text {node : Node} (h : ∀ data, node ≠ .text data) :
    ∀ data, node.reread ≠ .text data := by
  cases node with
  | text data => exact absurd rfl (h data)
  | comment | doctype | element => simp [Node.reread]

/-- Nodes that writing and reading leave alone. -/
inductive Normal : Node → Prop where
  | text {data : Bytes} : Normal (.text data)
  | comment {data : Bytes} (h : Byte.cr ∉ data) : Normal (.comment data)
  | doctype {data : Bytes} (h : ∀ c ∈ data.head?, isBlankByte c = false) : Normal (.doctype data)
  | element {name : Bytes} {attrs : List Attr} {children : List Node}
      (feed : isFed name children = false) (all : ∀ child ∈ children, Normal child) :
      Normal (.element name attrs children)

/-- Normal nodes that are not and do not hold a doctype. -/
inductive Stable : Node → Prop where
  | text {data : Bytes} : Stable (.text data)
  | comment {data : Bytes} (h : Byte.cr ∉ data) : Stable (.comment data)
  | element {name : Bytes} {attrs : List Attr} {children : List Node}
      (feed : (swallowsLineFeed name && startsWithLineFeed children) = false)
      (all : ∀ child ∈ children, Stable child) : Stable (.element name attrs children)

theorem normal_of_stable {node : Node} (h : Stable node) : Normal node := by
  induction h with
  | text => exact .text
  | comment h => exact .comment h
  | element feed _ ih => exact .element feed ih

theorem rereadAll_eq {nodes : List Node} (h : ∀ node ∈ nodes, node.reread = node) :
    rereadAll nodes = nodes := by
  induction nodes with
  | nil => rw [rereadAll]
  | cons node nodes ih =>
    rw [List.forall_mem_cons] at h
    rw [rereadAll_cons, h.1, ih h.2]

theorem reread_of_normal {node : Node} (h : Normal node) : node.reread = node := by
  induction h with
  | text => rw [Node.reread]
  | comment h => rw [Node.reread, normalizeLines_of_not_mem h]
  | @doctype data h =>
    rw [Node.reread]
    cases data with
    | nil => rfl
    | cons c data => rw [List.dropWhile_cons_of_neg (by simpa using h c rfl)]
  | element feed _ ih => rw [Node.reread, feedNodes, feed, rereadAll_eq ih]; rfl

/-! ## Runs of written nodes -/

/-- A written node is read as tokens of its own with well-nested tags. -/
structure Reads (node : Node) (text : Bytes) : Prop where
  starts : ∀ x, startsMarkup (text ++ x) = true
  run : ∀ x, ∃ ts, Steps .markup (text ++ x) ts .markup x ∧ (∀ type, Nested type ts) ∧
    ∀ b : Builder, ts.foldl Builder.take b = b.append node.reread.joined

/-- The same for written nodes behind the written text `pending`. -/
def ReadsAll (nodes : List Node) (text : Bytes) : Prop :=
  ∀ pending x, textRest x = x →
    ∃ ts, Steps .markup (escape pending ++ (text ++ x)) ts .markup x ∧
      (∀ type, Nested type ts) ∧
      ∀ b : Builder,
        ts.foldl Builder.take b = (joinFrom pending (rereadAll nodes)).foldl Builder.append b

theorem nesting_of_text {t : Token} {data : Bytes} (h : t.kind = .text data) (type : Bytes) :
    nesting type t = 0 := by
  rw [nesting, h]

theorem escape_ne_nil {s : Bytes} (h : s ≠ []) : escape s ≠ [] := by
  intro he
  have := decode_escape .text s
  rw [he] at this
  exact h this.symm

theorem run_flush (pending : Bytes) {x : Bytes} (hx : textRest x = x) :
    ∃ ts, Steps .markup (escape pending ++ x) ts .markup x ∧ (∀ type, Nested type ts) ∧
      ∀ b : Builder, ts.foldl Builder.take b = (flush pending).foldl Builder.append b := by
  by_cases hp : pending = []
  · subst hp
    exact ⟨[], .refl, fun type => nestedFrom_nil.2 rfl, fun b => rfl⟩
  · have hscan := scanMarkup_prepend (u := []) (lt_not_mem_escape pending) (escape_ne_nil hp) hx
    rw [List.append_nil, decodeText_escape] at hscan
    refine ⟨_, .of_scanMarkup hscan rfl, fun type => nested_singleton rfl, fun b => ?_⟩
    have hflush : flush pending = [.text pending] := by
      rw [flush, if_neg (by simpa using hp)]
    rw [hflush]
    exact take_text (t := ⟨escape pending, .text pending⟩) rfl b

theorem readsAll_nil : ReadsAll [] [] := by
  intro pending x hx
  obtain ⟨ts, hsteps, hn, hfold⟩ := run_flush pending hx
  exact ⟨ts, hsteps, hn, fun b => by rw [hfold, rereadAll, joinFrom]⟩

theorem ReadsAll.text {nodes : List Node} {text : Bytes} (h : ReadsAll nodes text) (data : Bytes) :
    ReadsAll (.text data :: nodes) (escape data ++ text) := by
  intro pending x hx
  obtain ⟨ts, hsteps, hn, hfold⟩ := h (pending ++ data) x hx
  rw [escape_append, List.append_assoc, ← List.append_assoc (escape data)] at hsteps
  refine ⟨ts, hsteps, hn, fun b => ?_⟩
  rw [hfold, rereadAll_cons, Node.reread, joinFrom]

theorem ReadsAll.cons {node : Node} {nodes : List Node} {text more : Bytes}
    (h : ReadsAll nodes more) (hnode : Reads node text) (hne : ∀ data, node ≠ .text data) :
    ReadsAll (node :: nodes) (text ++ more) := by
  intro pending x hx
  rw [List.append_assoc]
  obtain ⟨ts₁, hsteps₁, hn₁, hfold₁⟩ :=
    run_flush pending (textRest_of_startsMarkup (hnode.starts (more ++ x)))
  obtain ⟨ts₂, hsteps₂, hn₂, hfold₂⟩ := hnode.run (more ++ x)
  obtain ⟨ts₃, hsteps₃, hn₃, hfold₃⟩ := h [] x hx
  refine ⟨ts₁ ++ ts₂ ++ ts₃, (hsteps₁.trans hsteps₂).trans hsteps₃,
    fun type => ((hn₁ type).append (hn₂ type)).append (hn₃ type), fun b => ?_⟩
  rw [List.foldl_append, List.foldl_append, hfold₁, hfold₂, hfold₃, rereadAll_cons,
    joinFrom_cons (reread_ne_text hne), List.foldl_append, List.foldl_cons]

/-! ## Single nodes -/

theorem reads_comment (data : Bytes) (hz : Byte.nul ∉ data) :
    Reads (.comment data) (writtenComment data) where
  starts := by
    intro x
    simp only [writtenComment, List.append_assoc]
    rfl
  run := by
    intro x
    refine ⟨_, .of_scanMarkup (scan_comment data x) rfl, fun type => nested_singleton rfl, ?_⟩
    intro b
    rw [List.foldl_cons, List.foldl_nil, Builder.take]
    dsimp only
    rw [decodeComment_escapeComment hz, Node.reread, Node.joined]
    simp

theorem reads_doctype (data : Bytes) : Reads (.doctype data) (writtenDoctype data) where
  starts := by
    intro x
    simp only [writtenDoctype, List.append_assoc]
    rfl
  run := by
    intro x
    refine ⟨_, .of_scanMarkup (scan_doctype data x) rfl, fun type => nested_singleton rfl, ?_⟩
    intro b
    rw [List.foldl_cons, List.foldl_nil, Builder.take, Node.reread, Node.joined]
    simp

/-- The start tag of an element. -/
def startText (name : Bytes) (attrs : List Attr) : Bytes :=
  Byte.lt :: name ++ renderAttrs attrs ++ [Byte.gt]

theorem startsMarkup_startText {name : Bytes} (hn : IsTagName name) (attrs : List Attr) (x : Bytes) :
    startsMarkup (startText name attrs ++ x) = true := by
  obtain ⟨c, more, rfl, hc⟩ := hn.exists_cons
  simp [startText, startsMarkup, hc]

theorem startsMarkup_endText (name x : Bytes) : startsMarkup (endText name ++ x) = true := rfl

theorem foldl_append_frame (done : List Node) (name : Bytes) (attrs : List Attr)
    (children : List Node) (outer : List Frame) (nodes : List Node) :
    nodes.foldl Builder.append ⟨done, ⟨name, attrs, children⟩ :: outer⟩ =
      ⟨done, ⟨name, attrs, nodes.reverse ++ children⟩ :: outer⟩ := by
  induction nodes generalizing children with
  | nil => rfl
  | cons node nodes ih =>
    rw [List.foldl_cons, List.reverse_cons, List.append_assoc]
    exact ih (node :: children)

theorem reads_void {name : Bytes} {attrs : List Attr} (h : IsElement name attrs) :
    Reads (.element name attrs []) (Byte.lt :: name ++ renderAttrs attrs ++ [Byte.slash, Byte.gt]) where
  starts := by
    intro x
    obtain ⟨c, more, rfl, hc⟩ := h.isName.exists_cons
    simp [startsMarkup, hc]
  run := by
    intro x
    obtain ⟨t, ht, hslash, hraw⟩ := voidTag_written h.isName h.isKey
    rw [← hraw]
    have hmode : t.mode = .markup := by rw [ht.mode, if_pos hslash]
    refine ⟨[t], .of_scanMarkup (ht.scan x) hmode, fun type => nested_singleton ?_, fun b => ?_⟩
    · rw [nesting_openTag ht, hslash]
      rfl
    · have hread : (Node.element name attrs []).reread = .element name attrs [] := by
        rw [Node.reread, feedNodes, isFed_nil, rereadAll]
        rfl
      rw [List.foldl_cons, List.foldl_nil, take_openTag ht, hslash, decode_writtenPairs, hread,
        Node.joined, joinFrom]
      rfl

theorem run_element {name : Bytes} {attrs : List Attr} (h : IsElement name attrs)
    (hvoid : isVoid name = false) {mode' : Mode} {content x : Bytes} {ts : List Token}
    (hsteps : Steps (contentMode name) (content ++ (endText name ++ x)) ts mode' (endText name ++ x))
    (hstop : scan mode' (endText name ++ x) = .token ⟨endText name, .endTag name.lower⟩ x)
    (hn : ∀ type, Nested type ts) :
    ∃ us, Steps .markup (startText name attrs ++ content ++ endText name ++ x) us .markup x ∧
      (∀ type, Nested type us) ∧
      ∀ (b : Builder) (nodes : List Node),
        ts.foldl Builder.take (b.enter name attrs) =
          nodes.foldl Builder.append (b.enter name attrs) →
        us.foldl Builder.take b = b.append (.element name attrs nodes) := by
  obtain ⟨t, ht, hslash, hraw⟩ := openTag_written h.isName h.isKey
  have hclose := closeTag_written h.isName
  have hstart : scan .markup (startText name attrs ++ content ++ endText name ++ x) =
      .token t (content ++ (endText name ++ x)) := by
    have hscan := ht.scan (content ++ (endText name ++ x))
    rw [hraw] at hscan
    rw [scan]
    simpa only [startText, List.append_assoc] using hscan
  have hmode : t.mode = contentMode name := by rw [ht.mode, if_neg (by simp [hslash])]
  have hstopSteps : Steps mode' (endText name ++ x) [⟨endText name, .endTag name.lower⟩] .markup x :=
    .single hstop
  refine ⟨t :: (ts ++ [⟨endText name, .endTag name.lower⟩]),
    .cons hstart (hmode ▸ hsteps.trans hstopSteps), fun type => (hn type).wrap ?_ ?_, ?_⟩
  · rw [nesting_openTag ht]
    split <;> decide
  · rw [nesting_openTag ht, nesting_closeTag hclose]
    simp only [hslash, true_and]
    split <;> rfl
  · intro b nodes hfold
    have htake : b.take t = b.enter name attrs := by
      rw [take_openTag ht, hslash, hvoid, decode_writtenPairs]
      rfl
    rw [List.foldl_cons, htake, List.foldl_append, hfold, Builder.enter, foldl_append_frame,
      List.foldl_cons, List.foldl_nil,
      take_innermost hclose rfl (Fold.alike_lower name), List.append_nil,
      List.reverse_reverse]

/-- The line feed some elements begin with so that none is lost. -/
def feedText (name : Bytes) (children : List Node) : Bytes :=
  if isFed name children then [Byte.lf] else []

theorem escape_feedText (name : Bytes) (children : List Node) :
    escape (feedText name children) = feedText name children := by
  rw [feedText]
  split <;> rfl

theorem feedText_eq_nil {name : Bytes} {children : List Node} (h : isFed name children = false) :
    feedText name children = [] := by
  rw [feedText, h]
  rfl

theorem joinFrom_feedNodes (name : Bytes) (children nodes : List Node) :
    joinFrom [] (feedNodes name children ++ nodes) = joinFrom (feedText name children) nodes := by
  rw [feedNodes, feedText]
  split
  · rw [List.singleton_append, joinFrom, List.nil_append]
  · rfl

theorem lt_not_mem_feedText (name : Bytes) (children : List Node) :
    Byte.lt ∉ feedText name children := by
  rw [feedText]
  split <;> decide

theorem nul_not_mem_feedText (name : Bytes) (children : List Node) :
    Byte.nul ∉ feedText name children := by
  rw [feedText]
  split <;> decide

theorem reads_element {name : Bytes} {attrs : List Attr} {children : List Node} {inner : Bytes}
    (h : IsElement name attrs) (hvoid : isVoid name = false)
    (hraw : RawElement.ofName? name = none) (hinner : ReadsAll children inner) :
    Reads (.element name attrs children)
      (startText name attrs ++ (feedText name children ++ inner) ++ endText name) where
  starts := by
    intro x
    rw [List.append_assoc, List.append_assoc]
    exact startsMarkup_startText h.isName attrs _
  run := by
    intro x
    have hx : textRest (endText name ++ x) = endText name ++ x :=
      textRest_of_startsMarkup (startsMarkup_endText name x)
    obtain ⟨ts, hsteps, hn, hfold⟩ := hinner (feedText name children) (endText name ++ x) hx
    rw [escape_feedText, ← List.append_assoc] at hsteps
    have hmode : contentMode name = .markup := by rw [contentMode, hraw]
    have hsteps' : Steps (contentMode name) (feedText name children ++ inner ++ (endText name ++ x))
        ts .markup (endText name ++ x) := by rw [hmode]; exact hsteps
    obtain ⟨us, hus, hnested, hresult⟩ := run_element h hvoid hsteps'
      ((closeTag_written h.isName).scan x) hn
    refine ⟨us, hus, hnested, fun b => ?_⟩
    rw [hresult b (joinFrom (feedText name children) (rereadAll children)) (hfold _), Node.reread,
      Node.joined, joinFrom_feedNodes]

theorem run_raw {name : Bytes} {attrs : List Attr} {element : RawElement} (h : IsElement name attrs)
    (hp : name ≠ plaintextName) (hraw : RawElement.ofName? name = some element) {content : Bytes}
    (hc : Contained element content) (x : Bytes) :
    ∃ ts, Steps .markup (startText name attrs ++ content ++ endText name ++ x) ts .markup x ∧
      (∀ type, Nested type ts) ∧
      ∀ b : Builder, ts.foldl Builder.take b = b.append (.element name attrs
        (if content = [] then [] else [.text (decodeRaw element content)])) := by
  have hmode : contentMode name = .raw element := by rw [contentMode, hraw]
  have hname := RawElement.name_of_ofName? hraw
  have hvoid := isVoid_eq_false hraw
  have hplain : element ≠ .plaintext := by
    rintro rfl
    exact hp hname.symm
  have hclose := closeTag_written h.isName
  have hlower : name.lower = element.name := by rw [← hname, element.lower_name]
  by_cases hnil : content = []
  · subst hnil
    obtain ⟨us, hus, hnested, hresult⟩ := run_element h hvoid
      (.refl : Steps _ ([] ++ (endText name ++ x)) [] _ _)
      (hmode ▸ hclose.scan_raw hplain hlower x) (fun type => nestedFrom_nil.2 rfl)
    exact ⟨us, hus, hnested, fun b => hresult b [] rfl⟩
  · have hscan := scan_of_content hnil
      (hc (endText name ++ x) ((hclose.startsRawEnd_iff element x).2 hlower))
    have hsteps := Steps.single hscan
    rw [← hmode] at hsteps
    obtain ⟨us, hus, hnested, hresult⟩ := run_element h hvoid hsteps
      (hclose.scan x) (fun type => nested_singleton rfl)
    refine ⟨us, hus, hnested, fun b => ?_⟩
    rw [if_neg hnil]
    exact hresult b [.text (decodeRaw element content)]
      (take_text (t := ⟨content, .text (decodeRaw element content)⟩) rfl (b.enter name attrs))

theorem reads_raw {name : Bytes} {attrs : List Attr} {children : List Node} {element : RawElement}
    (h : IsElement name attrs) (hp : name ≠ plaintextName)
    (hraw : RawElement.ofName? name = some element) {content : Bytes} (hc : Contained element content)
    (hchildren : joinFrom (feedText name children) (rereadAll children) =
      if content = [] then [] else [.text (decodeRaw element content)]) :
    Reads (.element name attrs children) (startText name attrs ++ content ++ endText name) where
  starts := by
    intro x
    rw [List.append_assoc, List.append_assoc]
    exact startsMarkup_startText h.isName attrs _
  run := by
    intro x
    obtain ⟨ts, hsteps, hn, hfold⟩ := run_raw h hp hraw hc x
    refine ⟨ts, hsteps, hn, fun b => ?_⟩
    rw [hfold, Node.reread, Node.joined, joinFrom_feedNodes, hchildren]

theorem renderChildren_nil (literal : Bool) : renderChildren literal [] = .ok ⟨[], false⟩ := rfl

theorem renderChildren_cons (node : Node) (rest : List Node) :
    renderChildren false (node :: rest) =
      match node.render with
      | .error e => .error e
      | .ok first =>
        if first.stopped then .ok first
        else
          match renderChildren false rest with
          | .error e => .error e
          | .ok more => .ok ⟨first.text ++ more.text, more.stopped⟩ := rfl

theorem renderChildren_literal (data : Bytes) :
    renderChildren true [.text data] = .ok ⟨data, false⟩ := by
  rw [show renderChildren true [.text data] = .ok ⟨data ++ [], false⟩ from rfl, List.append_nil]

theorem renderChildren_text (data : Bytes) :
    renderChildren false [.text data] = .ok ⟨escape data, false⟩ := by
  rw [show renderChildren false [.text data] = .ok ⟨escape data ++ [], false⟩ from rfl,
    List.append_nil]

theorem render_text (data : Bytes) : (Node.text data).render = .ok ⟨escape data, false⟩ := rfl

theorem render_void {name : Bytes} (hvoid : isVoid name = true) (attrs : List Attr) :
    (Node.element name attrs []).render =
      .ok ⟨Byte.lt :: name ++ renderAttrs attrs ++ [Byte.slash, Byte.gt], false⟩ := by
  rw [Node.render]
  simp only [hvoid, if_true]
  rfl

theorem render_element {name : Bytes} {attrs : List Attr} {children : List Node} {inner : Bytes}
    (hvoid : isVoid name = false) (hp : name ≠ plaintextName)
    (h : renderChildren (isLiteral name) children = .ok ⟨inner, false⟩) :
    (Node.element name attrs children).render =
      .ok ⟨startText name attrs ++ (feedText name children ++ inner) ++ endText name, false⟩ := by
  have hr : (Node.element name attrs children).render =
      if isVoid name then
        if children.isEmpty then
          .ok ⟨Byte.lt :: name ++ renderAttrs attrs ++ ("/>" : Bytes), false⟩
        else .error (.voidChildren name)
      else
        match renderChildren (isLiteral name) children with
        | .error e => .error e
        | .ok inner =>
          let text := Byte.lt :: name ++ renderAttrs attrs ++ [Byte.gt] ++ feedText name children ++
            inner.text
          if inner.stopped || name == plaintextName then .ok ⟨text, true⟩
          else .ok ⟨text ++ "</" ++ name ++ [Byte.gt], false⟩ := rfl
  rw [hr, hvoid, h]
  simp only [Bool.false_eq_true, if_false, Bool.false_or, beq_iff_eq, if_neg hp, startText,
    List.append_assoc]
  rfl

theorem isLiteral_of_ofName? {name : Bytes} {element : RawElement}
    (h : RawElement.ofName? name = some element) : isLiteral name = !element.hasReferences := by
  rw [isLiteral, h]

theorem isFed_of_literal {name : Bytes} {element : RawElement}
    (h : RawElement.ofName? name = some element) (he : element.hasReferences = false)
    (children : List Node) : isFed name children = false := by
  have hs : swallowsLineFeed element.name = false := by
    revert he
    cases element <;> decide
  rw [isFed, ← RawElement.name_of_ofName? h, hs, Bool.false_and]

/-- The content of a raw element with one text is read back as that text, behind the line feed it may
have been given. -/
theorem content_of_rawData {name : Bytes} {element : RawElement}
    (hraw : RawElement.ofName? name = some element) (hp : name ≠ plaintextName) {data : Bytes}
    (hne : data ≠ []) (hd : RawData element data) :
    ∃ inner, renderChildren (isLiteral name) [.text data] = .ok ⟨inner, false⟩ ∧ inner ≠ [] ∧
      Contained element (feedText name [.text data] ++ inner) ∧
      decodeRaw element (feedText name [.text data] ++ inner) = feedText name [.text data] ++ data := by
  have hplain : element ≠ .plaintext := by
    rintro rfl
    exact hp (RawElement.name_of_ofName? hraw).symm
  rw [isLiteral_of_ofName? hraw]
  cases he : element.hasReferences with
  | false =>
    obtain ⟨hcr, hc⟩ := hd.literal he
    rw [feedText_eq_nil (isFed_of_literal hraw he _)]
    exact ⟨data, renderChildren_literal data, hne, hc, decodeRaw_literal he hd.zeros hcr⟩
  | true =>
    refine ⟨escape data, renderChildren_text data, escape_ne_nil hne,
      contained_of_lt_not_mem hplain ?_, ?_⟩
    · rw [List.mem_append, not_or]
      exact ⟨lt_not_mem_feedText _ _, lt_not_mem_escape data⟩
    · rw [← escape_feedText, ← escape_append, decodeRaw_escape he, escape_feedText]
      rw [List.mem_append, not_or]
      exact ⟨nul_not_mem_feedText _ _, hd.zeros⟩

/-! ## Forests -/

/-- A node that is a text, or is written as something read back. -/
def Writes (node : Node) : Prop :=
  (∃ data, node = .text data ∧ data ≠ []) ∨
    (∀ data, node ≠ .text data) ∧ ∃ text, node.render = .ok ⟨text, false⟩ ∧ Reads node text

theorem readsAll_of_writes {nodes : List Node} (h : ∀ node ∈ nodes, Writes node) :
    ∃ text, renderChildren false nodes = .ok ⟨text, false⟩ ∧ ReadsAll nodes text := by
  induction nodes with
  | nil => exact ⟨[], renderChildren_nil _, readsAll_nil⟩
  | cons node nodes ih =>
    rw [List.forall_mem_cons] at h
    obtain ⟨more, hmore, hreads⟩ := ih h.2
    rcases h.1 with ⟨data, rfl, _⟩ | ⟨hne, text, htext, hnode⟩
    · refine ⟨escape data ++ more, ?_, hreads.text data⟩
      simp [renderChildren_cons, render_text, hmore]
    · refine ⟨text ++ more, ?_, hreads.cons hnode hne⟩
      simp [renderChildren_cons, htext, hmore]

theorem writes_of_sound {node : Node} (h : Sound node) : Writes node := by
  induction h with
  | text h => exact .inl ⟨_, rfl, h⟩
  | comment h => exact .inr ⟨by simp, _, rfl, reads_comment _ h⟩
  | doctype => exact .inr ⟨by simp, _, rfl, reads_doctype _⟩
  | @element name attrs children tag hp hvoid hraw hall ih =>
    refine .inr ⟨by simp, ?_⟩
    by_cases hv : isVoid name = true
    · obtain rfl := hvoid hv
      exact ⟨_, render_void hv attrs, reads_void tag⟩
    have hv' : isVoid name = false := by simpa using hv
    cases hr : RawElement.ofName? name with
    | none =>
      obtain ⟨inner, hinner, hreads⟩ := readsAll_of_writes ih
      have hliteral : isLiteral name = false := by rw [isLiteral, hr]
      exact ⟨_, render_element hv' hp (by rw [hliteral]; exact hinner),
        reads_element tag hv' hr hreads⟩
    | some element =>
      rcases hraw element hr with rfl | ⟨data, rfl, hd⟩
      · have hplain : element ≠ .plaintext := by
          rintro rfl
          exact hp (RawElement.name_of_ofName? hr).symm
        have hfeed : feedText name [] = [] := feedText_eq_nil (isFed_nil name)
        refine ⟨_, render_element hv' hp (renderChildren_nil _), ?_⟩
        rw [hfeed]
        refine reads_raw tag hp hr (contained_of_lt_not_mem hplain (by simp)) ?_
        rw [hfeed, rereadAll, joinFrom]
        rfl
      · have hdata : data ≠ [] := by
          cases hall (.text data) (List.mem_singleton_self _) with
          | text h => exact h
        obtain ⟨inner, hinner, hne, hc, hdecode⟩ := content_of_rawData hr hp hdata hd
        refine ⟨_, render_element hv' hp hinner, reads_raw tag hp hr hc ?_⟩
        have happ (s : Bytes) {t : Bytes} (ht : t ≠ []) : s ++ t ≠ [] :=
          fun hnil => ht (List.append_eq_nil_iff.1 hnil).2
        rw [if_neg (happ _ hne), hdecode, rereadAll_cons, Node.reread, rereadAll, joinFrom, joinFrom,
          flush, if_neg (by simpa using happ (feedText name [.text data]) hdata)]

theorem render_of_renderChildren {nodes : List Node} {text : Bytes}
    (h : renderChildren false nodes = .ok ⟨text, false⟩) : render nodes = .ok text := by
  induction nodes generalizing text with
  | nil => cases h; rfl
  | cons node nodes ih =>
    rw [renderChildren_cons] at h
    rw [render]
    cases hn : node.render with
    | error e => rw [hn] at h; cases h
    | ok first =>
      rw [hn] at h
      dsimp only at h ⊢
      split at h
      · rename_i hstop
        cases h
        cases hstop
      · cases hmore : renderChildren false nodes with
        | error e => rw [hmore] at h; cases h
        | ok more =>
          rw [hmore] at h
          obtain ⟨text', stopped⟩ := more
          cases h
          rw [ih hmore]

theorem readsAll_of_sound {nodes : List Node} (h : ∀ node ∈ nodes, Sound node) :
    ∃ text, render nodes = .ok text ∧ ReadsAll nodes text := by
  obtain ⟨text, htext, hreads⟩ := readsAll_of_writes fun node hn => writes_of_sound (h node hn)
  refine ⟨text, ?_, hreads⟩
  exact render_of_renderChildren htext

theorem foldl_append_done (done nodes : List Node) :
    nodes.foldl Builder.append ⟨done, []⟩ = ⟨nodes.reverse ++ done, []⟩ := by
  induction nodes generalizing done with
  | nil => rfl
  | cons node nodes ih =>
    rw [List.foldl_cons, List.reverse_cons, List.append_assoc]
    exact ih (node :: done)

theorem parse_render_reread {nodes : List Node} {text : Bytes} (h : ∀ node ∈ nodes, Sound node)
    (hr : render nodes = .ok text) : parse text = joinFrom [] (rereadAll nodes) := by
  obtain ⟨text', htext, hreads⟩ := readsAll_of_sound h
  rw [hr] at htext
  cases htext
  obtain ⟨ts, hsteps, _, hfold⟩ := hreads [] [] rfl
  have htokens : tokens text = ts := by
    have := tokensFrom_of_steps hsteps
    rwa [tokensFrom_nil, List.append_nil, List.append_nil] at this
  rw [parse, htokens, hfold, Builder.empty, foldl_append_done, Builder.finish, List.append_nil]
  exact List.reverse_reverse _

theorem parse_render_normal {nodes : List Node} {text : Bytes} (h : ∀ node ∈ nodes, Sound node)
    (hn : ∀ node ∈ nodes, Normal node) (hr : render nodes = .ok text) :
    parse text = joinFrom [] nodes := by
  rw [parse_render_reread h hr, rereadAll_eq fun node hmem => reread_of_normal (hn node hmem)]

theorem parse_render {nodes : List Node} {text : Bytes} (h : ∀ node ∈ nodes, Sound node)
    (hs : ∀ node ∈ nodes, Stable node) (hr : render nodes = .ok text) :
    parse text = joinFrom [] nodes :=
  parse_render_normal h (fun node hn => normal_of_stable (hs node hn)) hr

end Graft.Markup
