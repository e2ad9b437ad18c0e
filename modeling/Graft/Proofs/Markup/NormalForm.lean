import Graft.Proofs.Markup.Edited
import Graft.Proofs.Markup.Joined

/-!
# Graft.Proofs.Markup.NormalForm

Reading any text, writing its tree, and reading and writing that once more. Both texts are the same
exactly if the tree is normal; a line feed that is written twice is written three times the next
time.

* `shaped_parse`: the tree of any text.
* `isEnded`: elements whose end tags are read as such where they are written.
* `Rewrites`, `RewritesAll`: a node written as it is, and as it is read back.
* `render_parse_iff`: when writing is a normal form.
-/

namespace Graft.Markup

/-! ## The tree of any text -/

/-- Data read in a raw element, with or without an end tag behind it. -/
structure ReadData (element : RawElement) (data : Bytes) : Prop where
  zeros : Byte.nul ∉ data
  literal : element.hasReferences = false → Byte.cr ∉ data ∧
    (element ≠ .script → element ≠ .plaintext → Contained element data)

/-- Without the states of a script, content that no end tag ends still ends at the next one. -/
theorem contained_of_rawRest {element : RawElement} (hs : element ≠ .script)
    (hp : element ≠ .plaintext) {data u : Bytes} (h : contentRest element (data ++ u) = u) :
    Contained element data := by
  intro x hx
  have hend := startsRawEnd_contentRest element (data ++ u)
  rw [h] at hend
  have hrest (s : Bytes) : contentRest element s = rawRest element.name s := by
    cases element with
    | script => exact absurd rfl hs
    | plaintext => exact absurd rfl hp
    | iframe | noembed | noframes | noscript | style | textarea | title | xmp => rfl
  rw [hrest] at h ⊢
  exact rawRest_swap element.lt_not_mem_name h hend (.inr hx)

theorem readData_decodeRaw {element : RawElement} {raw u : Bytes}
    (h : contentRest element (raw ++ u) = u) : ReadData element (decodeRaw element raw) where
  zeros := nul_not_mem_decodeRaw element raw
  literal := by
    intro he
    rw [decodeRaw_eq_cleaned he]
    exact ⟨cr_not_mem_replaceZeros (cr_not_mem_normalizeLines raw),
      fun hs hp => (contained_of_rawRest hs hp h).cleaned⟩

theorem shaped_parse (x : Bytes) : ∀ node ∈ parse x, Shaped (fun _ => True) ReadData node := by
  obtain ⟨mode, hsteps⟩ := steps_tokensFrom .markup x
  have hbegin : Building (fun _ => True) ReadData .markup x .empty := .markup .empty
  have hrun := hbegin.run hsteps (fun _ _ => trivial)
    (fun _ _ _ hc (_ : _ → True) => readData_decodeRaw hc) fun _ _ => trivial
  exact hrun.finish

/-! ## End tags -/

/-- Whether the content of a script ends where its end tag is written. -/
def endsScript : List Node → Bool
  | [.text data] => contentRest .script (data ++ endText scriptName) == endText scriptName
  | _ => true

mutual

/-- Whether nothing in a node takes the end tags behind it for text: no element is named
`plaintext`, and every script ends. -/
def isEnded : Node → Bool
  | .element name _ children =>
    name != plaintextName && (name != scriptName || endsScript children) && allEnded children
  | _ => true

def allEnded : List Node → Bool
  | [] => true
  | node :: rest => isEnded node && allEnded rest

end

theorem allEnded_iff (forest : List Node) :
    allEnded forest = true ↔ ∀ node ∈ forest, isEnded node = true := by
  induction forest with
  | nil => simp [allEnded]
  | cons node rest ih => rw [allEnded, Bool.and_eq_true, ih, List.forall_mem_cons]

theorem contained_of_endsScript {data : Bytes} (h : endsScript [.text data] = true) :
    Contained .script data :=
  contained_of_contentRest (beq_iff_eq.1 h) (by decide)

/-- The tree of a text whose elements end can be written and read back. -/
theorem sound_of_isEnded {node : Node} (h : Shaped (fun _ => True) ReadData node)
    (he : isEnded node = true) : Sound node := by
  refine h.strengthen (p := fun node => isEnded node = true) (fun {name _ children} he => ?_) he
  rw [isEnded, Bool.and_eq_true, Bool.and_eq_true, bne_iff_ne, Bool.or_eq_true, bne_iff_ne] at he
  obtain ⟨⟨hp, hscript⟩, hall⟩ := he
  refine ⟨hp, fun element data hraw hdata hd => ⟨hd.zeros, fun hl => ?_⟩, (allEnded_iff _).1 hall⟩
  obtain ⟨hcr, hc⟩ := hd.literal hl
  have hname := RawElement.name_of_ofName? hraw
  refine ⟨hcr, ?_⟩
  by_cases hs : element = .script
  · subst hs hdata
    exact contained_of_endsScript (hscript.resolve_left (· hname.symm))
  · refine hc hs ?_
    rintro rfl
    exact hp hname.symm

/-! ## Nodes written twice -/

theorem forall_rereadAll {p : Node → Prop} {nodes : List Node} (h : ∀ node ∈ nodes, p node.reread) :
    ∀ node ∈ rereadAll nodes, p node := by
  induction nodes with
  | nil => simp [rereadAll]
  | cons node nodes ih =>
    rw [List.forall_mem_cons] at h
    rw [rereadAll_cons, List.forall_mem_cons]
    exact ⟨h.1, ih h.2⟩

theorem filled_reread {node : Node} (h : Filled node) : Filled node.reread := by
  induction h with
  | text h => rw [Node.reread]; exact .text h
  | comment => rw [Node.reread]; exact .comment
  | doctype => rw [Node.reread]; exact .doctype
  | @element name attrs children _ ih =>
    rw [Node.reread]
    refine .element fun child hc => ?_
    rcases List.mem_append.1 hc with hc | hc
    · rw [feedNodes] at hc
      split at hc
      · rw [List.mem_singleton.1 hc]
        exact .text (by decide)
      · cases hc
    · exact forall_rereadAll ih child hc

theorem startsWithLineFeed_rereadAll (nodes : List Node) :
    startsWithLineFeed (rereadAll nodes) = startsWithLineFeed nodes := by
  cases nodes with
  | nil => rw [rereadAll]
  | cons node nodes =>
    rw [rereadAll_cons]
    cases node with
    | text data => rw [Node.reread]; cases data <;> rfl
    | comment | doctype | element => rw [Node.reread]; rfl

theorem feedText_reread (name : Bytes) (children : List Node) :
    feedText name (feedNodes name children ++ rereadAll children) = feedText name children := by
  cases h : isFed name children with
  | false =>
    have hnodes : feedNodes name children = [] := by
      rw [feedNodes, h]
      rfl
    rw [hnodes, List.nil_append, feedText_eq_nil h]
    refine feedText_eq_nil ?_
    rw [isFed, startsWithLineFeed_rereadAll]
    exact h
  | true =>
    rw [feedNodes, h, feedText, feedText, h]
    have hname : swallowsLineFeed name = true := (Bool.and_eq_true_iff.1 h).1
    rw [isFed, hname]
    rfl

/-- The two texts of a node: as it is, and as it is read back. They can only agree if the node is
normal. -/
structure Rewrites (node : Node) (text text' : Bytes) : Prop where
  written : node.render = .ok ⟨text, false⟩
  rewritten : node.reread.render = .ok ⟨text', false⟩
  normal : ∀ u v, text ++ u = text' ++ v → Normal node ∧ u = v
  starts : (∀ data, node ≠ .text data) → text.head? = some Byte.lt

/-- The same for neighbouring nodes. A line feed in front of the second text cannot be made up for
by the first. -/
structure RewritesAll (nodes : List Node) (text text' : Bytes) : Prop where
  written : renderChildren false nodes = .ok ⟨text, false⟩
  rewritten : renderChildren false (rereadAll nodes) = .ok ⟨text', false⟩
  normal : ∀ u v, text ++ u = text' ++ v → (∀ node ∈ nodes, Normal node) ∧ u = v
  feed : ∀ u v, text ++ Byte.lt :: u ≠ Byte.lf :: (text' ++ Byte.lt :: v)

theorem rewrites_same {node : Node} {text : Bytes} (h : node.render = .ok ⟨text, false⟩)
    (hn : Normal node) (hs : (∀ data, node ≠ .text data) → text.head? = some Byte.lt) :
    Rewrites node text text where
  written := h
  rewritten := by rw [reread_of_normal hn, h]
  normal := fun _ _ heq => ⟨hn, List.append_cancel_left heq⟩
  starts := hs

/-! ### Texts -/

theorem escape_singleton_cons {c : UInt8} {s t : Bytes} (h : escape [c] ++ s = Byte.lf :: t) :
    c = Byte.lf := by
  by_cases hb : isBlankByte c = true
  · rw [escape_cons_of_isBlankByte hb] at h
    exact (List.cons.inj h).1
  · obtain ⟨b, rest, hrest, hspace⟩ := escape_cons_of_not_isBlankByte (by simpa using hb) []
    rw [hrest] at h
    rw [(List.cons.inj h).1] at hspace
    cases hspace

theorem escape_shift {data s t : Bytes} (h : escape data ++ s = Byte.lf :: (escape data ++ t)) :
    s = Byte.lf :: t := by
  induction data with
  | nil => exact h
  | cons c data ih =>
    rw [escape_cons, List.append_assoc, List.append_assoc] at h
    obtain rfl := escape_singleton_cons h
    exact ih (List.cons.inj h).2

theorem rewritesAll_nil : RewritesAll [] [] [] where
  written := renderChildren_nil _
  rewritten := by rw [rereadAll, renderChildren_nil]
  normal := fun _ _ h => ⟨by simp, h⟩
  feed := by
    intro u v h
    exact absurd (List.cons.inj h).1 (by decide)

theorem RewritesAll.text {nodes : List Node} {text text' : Bytes}
    (h : RewritesAll nodes text text') (data : Bytes) :
    RewritesAll (.text data :: nodes) (escape data ++ text) (escape data ++ text') where
  written := by simp [renderChildren_cons, render_text, h.written]
  rewritten := by simp [rereadAll_cons, Node.reread, renderChildren_cons, render_text, h.rewritten]
  normal := by
    intro u v heq
    rw [List.append_assoc, List.append_assoc] at heq
    obtain ⟨hn, huv⟩ := h.normal u v (List.append_cancel_left heq)
    exact ⟨List.forall_mem_cons.2 ⟨.text, hn⟩, huv⟩
  feed := by
    intro u v heq
    rw [List.append_assoc, List.append_assoc] at heq
    exact h.feed u v (escape_shift heq)

theorem RewritesAll.cons {node : Node} {nodes : List Node} {first first' text text' : Bytes}
    (h : RewritesAll nodes text text') (hnode : Rewrites node first first')
    (hne : ∀ data, node ≠ .text data) :
    RewritesAll (node :: nodes) (first ++ text) (first' ++ text') where
  written := by simp [renderChildren_cons, hnode.written, h.written]
  rewritten := by simp [rereadAll_cons, renderChildren_cons, hnode.rewritten, h.rewritten]
  normal := by
    intro u v heq
    rw [List.append_assoc, List.append_assoc] at heq
    obtain ⟨hfirst, hmore⟩ := hnode.normal _ _ heq
    obtain ⟨hn, huv⟩ := h.normal u v hmore
    exact ⟨List.forall_mem_cons.2 ⟨hfirst, hn⟩, huv⟩
  feed := by
    intro u v heq
    obtain ⟨c, more, rfl⟩ : ∃ c more, first = c :: more := by
      cases first with
      | nil => cases hnode.starts hne
      | cons c more => exact ⟨c, more, rfl⟩
    have hc := hnode.starts hne
    rw [List.head?_cons, Option.some.injEq] at hc
    have hlf := (List.cons.inj heq).1
    rw [hc] at hlf
    exact absurd hlf (by decide)

/-! ### Comments and doctypes -/

/-- The first carriage return of a comment is not read back. -/
theorem cr_not_mem_of_escapeCommentFrom {mayEnd : Bool} {data u v : Bytes}
    (h : escapeCommentFrom mayEnd data ++ u = escapeCommentFrom mayEnd (normalizeLines data) ++ v) :
    Byte.cr ∉ data := by
  induction data generalizing mayEnd with
  | nil => simp
  | cons c data ih =>
    rw [normalizeLines_cons] at h
    split at h
    · rename_i hc
      subst hc
      obtain ⟨rest, hrest⟩ : ∃ rest,
          (if data.head? = some Byte.lf then normalizeLines data else Byte.lf :: normalizeLines data) =
            Byte.lf :: rest := by
        split
        · rename_i hlf
          obtain ⟨data, rfl⟩ := List.head?_eq_some_iff.1 hlf
          exact ⟨normalizeLines data, by rw [normalizeLines_cons, if_neg (by decide)]⟩
        · exact ⟨_, rfl⟩
      rw [hrest, escapeCommentFrom_of_ne (by decide) (by decide),
        escapeCommentFrom_of_ne (by decide) (by decide)] at h
      exact absurd (List.cons.inj h).1 (by decide)
    · rename_i hc
      rw [escapeCommentFrom, escapeCommentFrom, List.append_assoc, List.append_assoc] at h
      rw [List.mem_cons, not_or]
      exact ⟨Ne.symm hc, ih (List.append_cancel_left h)⟩

theorem rewrites_comment (data : Bytes) :
    Rewrites (.comment data) (writtenComment data) (writtenComment (normalizeLines data)) where
  written := rfl
  rewritten := by rw [Node.reread]; rfl
  normal := by
    intro u v h
    simp only [writtenComment, List.append_assoc] at h
    have hcr := cr_not_mem_of_escapeCommentFrom (List.append_cancel_left h)
    rw [normalizeLines_of_not_mem hcr] at h
    exact ⟨.comment hcr, by simpa using h⟩
  starts := fun _ => rfl

/-- A blank in front of a doctype is not read back. -/
theorem not_isBlankByte_of_escape {data u v : Bytes}
    (h : escape data ++ u = escape (data.dropWhile isBlankByte) ++ Byte.gt :: v) :
    ∀ c ∈ data.head?, isBlankByte c = false := by
  intro c hc
  obtain ⟨more, rfl⟩ := List.head?_eq_some_iff.1 hc
  refine Bool.eq_false_iff.2 fun hblank => ?_
  have hspace : Byte.isSpace c = true := (Bool.and_eq_true_iff.1 hblank).1
  rw [escape_cons_of_isBlankByte hblank] at h
  cases hd : (c :: more).dropWhile isBlankByte with
  | nil =>
    rw [hd] at h
    rw [(List.cons.inj h).1] at hspace
    cases hspace
  | cons d rest =>
    have hnot : isBlankByte d = false := by
      have := List.head?_dropWhile_not isBlankByte (c :: more)
      rw [hd] at this
      simpa using this
    obtain ⟨b, written, hwritten, hb⟩ := escape_cons_of_not_isBlankByte hnot rest
    rw [hd, hwritten] at h
    rw [(List.cons.inj h).1, hb] at hspace
    cases hspace

theorem rewrites_doctype (data : Bytes) :
    Rewrites (.doctype data) (writtenDoctype data) (writtenDoctype (data.dropWhile isBlankByte)) where
  written := rfl
  rewritten := by rw [Node.reread]; rfl
  normal := by
    intro u v h
    simp only [writtenDoctype, List.append_assoc] at h
    have hhead := not_isBlankByte_of_escape (List.append_cancel_left h)
    have hn : Normal (.doctype data) := .doctype hhead
    have hread := reread_of_normal hn
    rw [Node.reread, Node.doctype.injEq] at hread
    rw [hread] at h
    exact ⟨hn, by simpa using h⟩
  starts := fun _ => rfl

/-! ### Elements -/

theorem rewrites_element {name : Bytes} {attrs : List Attr} {children : List Node}
    {inner inner' : Bytes} (hvoid : isVoid name = false) (hp : name ≠ plaintextName)
    (hl : isLiteral name = false) (h : RewritesAll children inner inner') :
    Rewrites (.element name attrs children)
      (startText name attrs ++ (feedText name children ++ inner) ++ endText name)
      (startText name attrs ++ (feedText name children ++ (feedText name children ++ inner')) ++
        endText name) where
  written := render_element hvoid hp (by rw [hl]; exact h.written)
  rewritten := by
    have hinner : renderChildren (isLiteral name) (feedNodes name children ++ rereadAll children) =
        .ok ⟨feedText name children ++ inner', false⟩ := by
      rw [hl, feedNodes, feedText]
      split
      · simp [renderChildren_cons, render_text, h.rewritten]
        rfl
      · exact h.rewritten
    rw [Node.reread, render_element hvoid hp hinner, feedText_reread]
  normal := by
    intro u v heq
    simp only [List.append_assoc] at heq
    have hinner := List.append_cancel_left (List.append_cancel_left heq)
    cases hfed : isFed name children with
    | true =>
      rw [feedText, hfed] at hinner
      exact absurd hinner (h.feed _ _)
    | false =>
      rw [feedText_eq_nil hfed] at hinner
      obtain ⟨hall, hend⟩ := h.normal _ _ hinner
      exact ⟨.element hfed hall, List.append_cancel_left hend⟩
  starts := fun _ => rfl

theorem rewritesAll_of_rewrites {nodes : List Node}
    (h : ∀ node ∈ nodes, ∃ text text', Rewrites node text text') :
    ∃ text text', RewritesAll nodes text text' := by
  induction nodes with
  | nil => exact ⟨[], [], rewritesAll_nil⟩
  | cons node nodes ih =>
    rw [List.forall_mem_cons] at h
    obtain ⟨text, text', hall⟩ := ih h.2
    obtain ⟨first, first', hfirst⟩ := h.1
    cases node with
    | text data => exact ⟨_, _, hall.text data⟩
    | comment | doctype | element => exact ⟨_, _, hall.cons hfirst (by simp)⟩

theorem rewrites_of_sound {node : Node} (h : Sound node) : ∃ text text', Rewrites node text text' := by
  induction h with
  | text => exact ⟨_, _, rewrites_same (render_text _) .text fun hne => absurd rfl (hne _)⟩
  | comment => exact ⟨_, _, rewrites_comment _⟩
  | doctype => exact ⟨_, _, rewrites_doctype _⟩
  | @element name attrs children tag hp hvoid hraw hall ih =>
    by_cases hv : isVoid name = true
    · obtain rfl := hvoid hv
      exact ⟨_, _, rewrites_same (render_void hv attrs) (.element (isFed_nil name) (by simp))
        fun _ => rfl⟩
    have hv' : isVoid name = false := by simpa using hv
    cases hl : isLiteral name with
    | false =>
      obtain ⟨inner, inner', hinner⟩ := rewritesAll_of_rewrites ih
      exact ⟨_, _, rewrites_element hv' hp hl hinner⟩
    | true =>
      cases hr : RawElement.ofName? name with
      | none => rw [isLiteral, hr] at hl; cases hl
      | some element =>
        have hrefs : element.hasReferences = false := by
          simpa [isLiteral_of_ofName? hr] using hl
        obtain ⟨data, hdata, hn⟩ : ∃ data, renderChildren true children = .ok ⟨data, false⟩ ∧
            ∀ child ∈ children, Normal child := by
          rcases hraw element hr with rfl | ⟨data, rfl, _⟩
          · exact ⟨[], renderChildren_nil _, by simp⟩
          · exact ⟨data, renderChildren_literal data, List.forall_mem_singleton.2 .text⟩
        exact ⟨_, _, rewrites_same (render_element hv' hp (by rw [hl]; exact hdata))
          (.element (isFed_of_literal hr hrefs children) hn) fun _ => rfl⟩

/-! ## The normal form -/

/-- Writing a forest, reading it and writing it again gives the same text exactly if the forest is
normal. -/
theorem render_parse_iff {nodes : List Node} {text : Bytes} (h : ∀ node ∈ nodes, Sound node)
    (hr : render nodes = .ok text) :
    render (parse text) = .ok text ↔ ∀ node ∈ nodes, Normal node := by
  have hfilled := forall_rereadAll fun node hn => filled_reread (filled_of_sound (h node hn))
  rw [parse_render_reread h hr, render_joinFrom hfilled]
  constructor
  · intro hagain
    obtain ⟨first, second, hall⟩ := rewritesAll_of_rewrites fun node hn => rewrites_of_sound (h node hn)
    have hfirst := render_of_renderChildren hall.written
    have hsecond := render_of_renderChildren hall.rewritten
    rw [hr] at hfirst
    rw [hagain, hfirst] at hsecond
    refine (hall.normal [] [] ?_).1
    rw [Except.ok.inj hsecond]
  · intro hn
    rw [rereadAll_eq fun node hmem => reread_of_normal (hn node hmem), hr]

end Graft.Markup
