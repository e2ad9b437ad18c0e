import Graft.Markup.Render
import Graft.Proofs.Markup.Content
import Graft.Proofs.Markup.Run

/-!
# Graft.Proofs.Markup.Forest

What the forest of a source looks like. The builder keeps an invariant over every run: names and
keys are names and keys, void elements are empty, and a raw element holds at most one text. What is
known of the names and of the texts in raw elements depends on the run.

* `Shaped`: nodes as they are read, with names and raw texts of some kind.
* `Sound`: nodes that can be written and read back.
* `Building`: the builder in the course of a run.
* `Building.step`, `Building.run`: one token, and a whole run.
* `sound_of_steps`: a run that does not end in the content of a raw element.
-/

namespace Graft.Markup

/-- Data that can be written into a raw element and read back. -/
structure RawData (element : RawElement) (data : Bytes) : Prop where
  zeros : Byte.nul ∉ data
  literal : element.hasReferences = false → Byte.cr ∉ data ∧ Contained element data

/-- The name and the keys of an element. -/
structure IsElement (name : Bytes) (attrs : List Attr) : Prop where
  isName : IsTagName name
  isKey : ∀ a ∈ attrs, IsKey a.key

/-- Nodes as they are read. Names are `named`, and a text that is the content of a raw element is
`held` by it. -/
inductive Shaped (named : Bytes → Prop) (held : RawElement → Bytes → Prop) : Node → Prop where
  | text {data : Bytes} (h : data ≠ []) : Shaped named held (.text data)
  | comment {data : Bytes} (h : Byte.nul ∉ data) : Shaped named held (.comment data)
  | doctype {data : Bytes} : Shaped named held (.doctype data)
  | element {name : Bytes} {attrs : List Attr} {children : List Node}
      (tag : IsElement name attrs) (name_named : named name) (void : isVoid name = true → children = [])
      (raw : ∀ element, RawElement.ofName? name = some element →
        children = [] ∨ ∃ data, children = [.text data] ∧ held element data)
      (all : ∀ child ∈ children, Shaped named held child) :
      Shaped named held (.element name attrs children)

/-- Nodes that can be written and read back. -/
abbrev Sound : Node → Prop := Shaped (· ≠ plaintextName) RawData

section

variable {named : Bytes → Prop} {held : RawElement → Bytes → Prop}

theorem shaped_childless {name : Bytes} {attrs : List Attr} (h : IsElement name attrs)
    (hn : named name) : Shaped named held (.element name attrs []) :=
  .element h hn (fun _ => rfl) (fun _ _ => .inl rfl) (by simp)

theorem isVoid_eq_false {name : Bytes} {element : RawElement}
    (h : RawElement.ofName? name = some element) : isVoid name = false := by
  rw [← RawElement.name_of_ofName? h]
  cases element <;> decide

/-! ## The builder -/

variable (named held) in
/-- An element still open whose content is markup. -/
structure ShapedFrame (frame : Frame) : Prop where
  tag : IsElement frame.name frame.attrs
  name_named : named frame.name
  void : isVoid frame.name = false
  raw : RawElement.ofName? frame.name = none
  all : ∀ child ∈ frame.children, Shaped named held child

variable (named held) in
/-- A forest under construction with markup everywhere. -/
structure ShapedBuilder (b : Builder) : Prop where
  done : ∀ node ∈ b.done, Shaped named held node
  frames : ∀ frame ∈ b.frames, ShapedFrame named held frame

namespace ShapedBuilder

variable {b : Builder} {node : Node} {name : Bytes} {attrs : List Attr}

theorem empty : ShapedBuilder named held .empty :=
  ⟨by simp [Builder.empty], by simp [Builder.empty]⟩

theorem append (h : ShapedBuilder named held b) (hn : Shaped named held node) :
    ShapedBuilder named held (b.append node) := by
  unfold Builder.append
  split
  · exact ⟨List.forall_mem_cons.2 ⟨hn, h.done⟩, h.frames⟩
  · rename_i frame outer hf
    have hframes := h.frames
    rw [hf, List.forall_mem_cons] at hframes
    obtain ⟨hframe, houter⟩ := hframes
    refine ⟨h.done, List.forall_mem_cons.2
      ⟨⟨hframe.tag, hframe.name_named, hframe.void, hframe.raw, ?_⟩, houter⟩⟩
    exact List.forall_mem_cons.2 ⟨hn, hframe.all⟩

theorem enter (h : ShapedBuilder named held b) (ht : IsElement name attrs) (hn : named name)
    (hv : isVoid name = false) (hr : RawElement.ofName? name = none) :
    ShapedBuilder named held (b.enter name attrs) :=
  ⟨h.done, List.forall_mem_cons.2 ⟨⟨ht, hn, hv, hr, by simp⟩, h.frames⟩⟩

theorem leave (h : ShapedBuilder named held b) : ShapedBuilder named held b.leave := by
  unfold Builder.leave
  split
  · exact h
  · rename_i frame outer hf
    have hframes := h.frames
    rw [hf, List.forall_mem_cons] at hframes
    obtain ⟨hframe, houter⟩ := hframes
    refine ShapedBuilder.append ⟨h.done, houter⟩ (.element hframe.tag hframe.name_named ?_ ?_ ?_)
    · rw [hframe.void]
      intro hv
      cases hv
    · rw [hframe.raw]
      intro element he
      cases he
    · intro child hc
      exact hframe.all child (List.mem_reverse.1 hc)

theorem leaveMany (h : ShapedBuilder named held b) (n : Nat) :
    ShapedBuilder named held (b.leaveMany n) := by
  induction n generalizing b with
  | zero => exact h
  | succ n ih => exact ih h.leave

theorem finish (h : ShapedBuilder named held b) : ∀ node ∈ b.finish, Shaped named held node := by
  intro node hn
  exact (h.leaveMany _).done node (List.mem_reverse.1 hn)

end ShapedBuilder

variable (named held) in
/-- The builder in the course of a run. Only the innermost open element may be raw; behind its
content stands its end tag, or nothing. -/
inductive Building : Mode → Bytes → Builder → Prop where
  | markup {s : Bytes} {b : Builder} (h : ShapedBuilder named held b) : Building .markup s b
  | opened {s : Bytes} {b : Builder} {element : RawElement} {attrs : List Attr}
      (h : ShapedBuilder named held b) (tag : IsElement element.name attrs)
      (hn : named element.name) : Building (.raw element) s (b.enter element.name attrs)
  | filled {s : Bytes} {b : Builder} {element : RawElement} {attrs : List Attr} {data : Bytes}
      (h : ShapedBuilder named held b) (tag : IsElement element.name attrs)
      (hn : named element.name) (hne : data ≠ []) (hd : held element data)
      (hs : s = [] ∨ startsRawEnd element.name s = true) :
      Building .markup s ((b.enter element.name attrs).append (.text data))

theorem closedBy_innermost {name lowered : Bytes} {attrs : List Attr} {children : List Node}
    {outer : List Frame} (h : Fold.alike name lowered = true) :
    Builder.closedBy lowered (⟨name, attrs, children⟩ :: outer) = 1 := by
  rw [Builder.closedBy, List.findIdx?_cons, if_pos h]

theorem take_text {t : Token} {data : Bytes} (h : t.kind = .text data) (b : Builder) :
    b.take t = b.append (.text data) := by
  rw [Builder.take, h]

theorem take_openTag {t : Token} {name : Bytes} {attrs : List (Bytes × Bytes)}
    (h : OpenTag t name attrs) (b : Builder) :
    b.take t =
      if endsWithSlash t.raw || isVoid name then
        b.append (.element name (attrs.map fun a => ⟨a.1, decodeValue a.2⟩) [])
      else b.enter name (attrs.map fun a => ⟨a.1, decodeValue a.2⟩) := by
  rw [Builder.take, h.kind]
  split
  all_goals
    rename_i hk
    split at hk <;> cases hk
  · rename_i hslash
    simp only [h.spelledName, h.spelledAttrs, hslash, Bool.false_or]
  · rename_i hslash
    simp only [h.spelledName, h.spelledAttrs, hslash, Bool.true_or, if_true]

theorem take_closeTag {t : Token} {name : Bytes} (h : CloseTag t name) (b : Builder) :
    b.take t = b.leaveMany (Builder.closedBy name.lower b.frames) := by
  rw [Builder.take, h.kind]

theorem take_innermost {t : Token} {name : Bytes} (h : CloseTag t name) {b : Builder}
    {inner : Bytes} {attrs : List Attr} {children : List Node} {outer : List Frame}
    (hb : b.frames = ⟨inner, attrs, children⟩ :: outer)
    (ha : Fold.alike inner name.lower = true) :
    b.take t = { b with frames := outer }.append (.element inner attrs children.reverse) := by
  rw [take_closeTag h, hb, closedBy_innermost ha]
  simp only [Builder.leaveMany, Builder.leave, hb]

theorem decodeRaw_eq_cleaned {element : RawElement} (he : element.hasReferences = false)
    (raw : Bytes) : decodeRaw element raw = cleaned raw := by
  rw [decodeRaw]
  simp only [he, Bool.false_eq_true, if_false]
  rfl

theorem rawData_decodeRaw {element : RawElement} {raw u : Bytes}
    (h : contentRest element (raw ++ u) = u) (hu : u ≠ []) :
    RawData element (decodeRaw element raw) where
  zeros := nul_not_mem_decodeRaw element raw
  literal := by
    intro he
    rw [decodeRaw_eq_cleaned he]
    exact ⟨cr_not_mem_replaceZeros (cr_not_mem_normalizeLines raw),
      (contained_of_contentRest h hu).cleaned⟩

theorem isElement_of_openTag {t : Token} {name : Bytes} {attrs : List (Bytes × Bytes)}
    (h : OpenTag t name attrs) : IsElement name (attrs.map fun a => ⟨a.1, decodeValue a.2⟩) where
  isName := h.isName
  isKey := by
    intro a ha
    obtain ⟨b, hb, rfl⟩ := List.mem_map.1 ha
    exact h.isKey b hb

theorem shaped_raw {element : RawElement} {attrs : List Attr} (tag : IsElement element.name attrs)
    (hn : named element.name) {children : List Node}
    (hc : children = [] ∨ ∃ data, data ≠ [] ∧ children = [.text data] ∧ held element data) :
    Shaped named held (.element element.name attrs children.reverse) := by
  refine .element tag hn ?_ ?_ ?_
  · intro hv
    rw [isVoid_eq_false element.ofName?_name] at hv
    cases hv
  · intro element' he
    rw [element.ofName?_name] at he
    cases he
    rcases hc with rfl | ⟨data, _, rfl, hd⟩
    · exact .inl rfl
    · exact .inr ⟨data, rfl, hd⟩
  · intro child hmem
    rcases hc with rfl | ⟨data, hne, rfl, _⟩
    · cases hmem
    · rw [List.mem_singleton.1 (List.mem_reverse.1 hmem)]
      exact .text hne

theorem ShapedBuilder.take_raw {t : Token} {name : Bytes} {element : RawElement} {b : Builder}
    {attrs : List Attr} (h : ShapedBuilder named held b) (tag : IsElement element.name attrs)
    (hnamed : named element.name) (ht : CloseTag t name) (hn : name.lower = element.name)
    {children : List Node}
    (hc : children = [] ∨ ∃ data, data ≠ [] ∧ children = [.text data] ∧ held element data) :
    ShapedBuilder named held
      (Builder.take ⟨b.done, ⟨element.name, attrs, children⟩ :: b.frames⟩ t) := by
  rw [take_innermost ht rfl (by rw [hn]; exact Fold.alike_refl _)]
  exact ShapedBuilder.append ⟨h.done, h.frames⟩ (shaped_raw tag hnamed hc)

/-- One token keeps the invariant, if the text of a raw element is one that it holds. -/
theorem Building.step {mode : Mode} {u : Bytes} {t : Token} {b : Builder}
    (h : Building named held mode (t.raw ++ u) b) (hscan : scan mode (t.raw ++ u) = .token t u)
    (hp : named (tagName t))
    (hraw : ∀ element, mode = .raw element → contentRest element (t.raw ++ u) = u →
      t.kind = .text (decodeRaw element t.raw) → held element (decodeRaw element t.raw)) :
    Building named held t.mode u (b.take t) := by
  have hne := scan_raw_ne_nil hscan
  cases h with
  | markup h =>
    cases scanned_of_scanMarkup hscan with
    | text _ _ hk =>
      rw [take_text hk, Token.mode, hk]
      exact .markup (h.append (.text (decodeText_ne_nil hne)))
    | cut _ hk =>
      rw [take_text hk, Token.mode, hk]
      exact .markup (h.append (.text (decodeText_ne_nil hne)))
    | comment _ _ hk =>
      rw [Builder.take, Token.mode, hk]
      exact .markup (h.append (.comment (nul_not_mem_decodeComment _)))
    | doctype _ _ hk =>
      rw [Builder.take, Token.mode, hk]
      exact .markup (h.append .doctype)
    | closeTag ht =>
      rw [take_closeTag ht, ht.mode]
      exact .markup (h.leaveMany _)
    | @openTag name attrs ht =>
      have helement := isElement_of_openTag ht
      have hname : named name := ht.tagName ▸ hp
      rw [take_openTag ht, ht.mode, contentMode]
      by_cases hslash : endsWithSlash t.raw = true
      · simp only [hslash, Bool.true_or, if_true]
        exact .markup (h.append (shaped_childless helement hname))
      simp only [hslash, Bool.false_or, Bool.false_eq_true, if_false]
      cases hr : RawElement.ofName? name with
      | none =>
        by_cases hv : isVoid name = true
        · rw [if_pos hv]
          exact .markup (h.append (shaped_childless helement hname))
        · rw [if_neg hv]
          exact .markup (h.enter helement hname (by simpa using hv) hr)
      | some element =>
        rw [if_neg (by rw [isVoid_eq_false hr]; decide)]
        obtain rfl := RawElement.name_of_ofName? hr
        exact .opened h helement hname
  | @opened _ b element attrs h tag hn =>
    rcases scan_raw_cases hscan with ⟨hc, hk⟩ | ⟨_, name, ht, hname⟩
    · have hend := startsRawEnd_contentRest element (t.raw ++ u)
      rw [hc] at hend
      rw [take_text hk, Token.mode, hk]
      exact .filled h tag hn (decodeRaw_ne_nil hne) (hraw element rfl hc hk) hend
    · rw [ht.mode]
      exact .markup (h.take_raw tag hn ht hname (.inl rfl))
  | @filled _ b element attrs data h tag hn hdata hd hs =>
    have hs' := hs.resolve_left fun hnil => hne (List.append_eq_nil_iff.1 hnil).1
    obtain ⟨name, ht, hname⟩ := closeTag_of_startsRawEnd hscan hs'
    rw [ht.mode]
    exact .markup (h.take_raw tag hn ht hname (.inr ⟨data, hdata, rfl, hd⟩))

theorem Building.run {loose : Prop} {mode mode' : Mode} {s rest : Bytes} {ts : List Token}
    {b : Builder} (h : Steps mode s ts mode' rest) (hb : Building named held mode s b)
    (hp : ∀ t ∈ ts, named (tagName t))
    (hheld : ∀ element raw u, contentRest element (raw ++ u) = u → (u = [] → loose) →
      held element (decodeRaw element raw))
    (hraw : ∀ element, EndsInRaw element mode ts → loose) :
    Building named held mode' rest (ts.foldl Builder.take b) := by
  induction ts generalizing mode s b with
  | nil =>
    cases h
    exact hb
  | cons t ts ih =>
    obtain ⟨hscan, hrest⟩ := h.cases_cons
    have happ := h.append
    rw [slices_cons, List.append_assoc] at happ
    rw [← happ] at hb
    refine ih hrest (hb.step hscan (hp t (List.mem_cons_self ..)) ?_)
      (fun t' ht' => hp t' (List.mem_cons_of_mem _ ht')) fun element he => hraw element (.inr he)
    intro element hmode hc hk
    refine hheld element t.raw _ hc fun hnil => hraw element (.inl ⟨hmode, ?_, _, hk⟩)
    cases ts with
    | nil => rfl
    | cons t' ts' =>
      have hne := scan_raw_ne_nil hrest.cases_cons.1
      rw [slices_cons, List.append_assoc] at hnil
      exact absurd (List.append_eq_nil_iff.1 hnil).1 hne

theorem finish_enter (b : Builder) (name : Bytes) (attrs : List Attr) (children : List Node) :
    Builder.finish ⟨b.done, ⟨name, attrs, children⟩ :: b.frames⟩ =
      (b.append (.element name attrs children.reverse)).finish := by
  have hframes : (b.append (.element name attrs children.reverse)).frames.length =
      b.frames.length := by
    unfold Builder.append
    split
    · rename_i h
      rw [h]
    · rename_i h
      rw [h]
      rfl
  rw [Builder.finish, Builder.finish, hframes]
  rfl

theorem Building.finish {mode : Mode} {s : Bytes} {b : Builder} (h : Building named held mode s b) :
    ∀ node ∈ b.finish, Shaped named held node := by
  cases h with
  | markup h => exact h.finish
  | opened h tag hn =>
    have hclosed := (h.append (shaped_raw tag hn (.inl rfl))).finish
    rw [← finish_enter] at hclosed
    exact hclosed
  | filled h tag hn hne hd _ =>
    have hclosed := (h.append (shaped_raw tag hn (.inr ⟨_, hne, rfl, hd⟩))).finish
    rw [← finish_enter] at hclosed
    exact hclosed

theorem sound_of_steps {mode mode' : Mode} {s rest : Bytes} {ts : List Token} {b : Builder}
    (h : Steps mode s ts mode' rest) (hb : Building named RawData mode s b)
    (hp : ∀ t ∈ ts, named (tagName t)) (hraw : ∀ element, ¬ EndsInRaw element mode ts) :
    ∀ node ∈ (ts.foldl Builder.take b).finish, Shaped named RawData node :=
  (hb.run h hp (fun _ _ _ hc hu => rawData_decodeRaw hc hu) hraw).finish

end

end Graft.Markup
