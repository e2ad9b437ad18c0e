import Graft.Proofs.Markup.Edited
import Graft.Proofs.Markup.NormalForm

/-!
# Graft.Proofs.Markup.Lacking

Elements of a name that a forest lacks do not come up when it is written and read back.

* `lacks_element`, `addressesFrom_of_lacks`: nothing of the name is found.
* `lacks_rereadAll`, `lacks_joinFrom`: what reading back keeps.
* `lacks_parse_render`: a forest that was written and read back.
-/

namespace Graft.Markup

variable {name : Bytes}

theorem lacks_leaf {node : Node} (h : ∀ n attrs children, node ≠ .element n attrs children) :
    Lacks name node := ⟨0, addressesAt_leaf h⟩

theorem addressesFrom_of_lacks (forest : List Node) :
    (∀ node ∈ forest, Lacks name node) → ∀ i, addressesFrom name i forest = [] := by
  induction forest using forestInduction with
  | nil => intro _ i; rw [addressesFrom]
  | leaf node rest hleaf ih =>
    intro h i
    rw [List.forall_mem_cons] at h
    rw [addressesFrom, ih h.2, List.append_nil, addressesAt_leaf hleaf]
  | element n attrs children rest ihc ih =>
    intro h i
    rw [List.forall_mem_cons] at h
    obtain ⟨hne, hchildren⟩ := h.1.element
    rw [addressesFrom, ih h.2, List.append_nil, addressesAt, ihc hchildren, if_neg hne]
    rfl

theorem lacks_element {n : Bytes} {attrs : List Attr} {children : List Node} (hne : n ≠ name)
    (h : ∀ child ∈ children, Lacks name child) : Lacks name (.element n attrs children) := by
  refine ⟨0, ?_⟩
  rw [addressesAt, addressesFrom_of_lacks children h, if_neg hne]
  rfl

theorem addresses_eq_nil_iff {forest : List Node} :
    addresses name forest = [] ↔ ∀ node ∈ forest, Lacks name node :=
  ⟨lacks_of_addressesFrom, fun h => addressesFrom_of_lacks forest h 0⟩

theorem lacks_of_shaped {named : Bytes → Prop} {held : RawElement → Bytes → Prop} {node : Node}
    (hn : ¬ named name) (h : Shaped named held node) : Lacks name node := by
  induction h with
  | text | comment | doctype => exact lacks_leaf (by simp)
  | element _ hname _ _ _ ih =>
    refine lacks_element ?_ ih
    rintro rfl
    exact hn hname

/-! ## Reading back -/

theorem lacks_feedNodes (n : Bytes) (children : List Node) :
    ∀ node ∈ feedNodes n children, Lacks name node := by
  intro node hn
  unfold feedNodes at hn
  split at hn
  · rw [List.mem_singleton.1 hn]
    exact lacks_leaf (by simp)
  · cases hn

theorem lacks_rereadAll (forest : List Node) :
    (∀ node ∈ forest, Lacks name node) → ∀ node ∈ rereadAll forest, Lacks name node := by
  induction forest using forestInduction with
  | nil => simp [rereadAll]
  | leaf node rest hleaf ih =>
    intro h
    rw [List.forall_mem_cons] at h
    rw [rereadAll_cons, List.forall_mem_cons]
    refine ⟨lacks_leaf fun n attrs children => ?_, ih h.2⟩
    cases node with
    | element n attrs children => exact absurd rfl (hleaf n attrs children)
    | text | comment | doctype => simp [Node.reread]
  | element n attrs children rest ihc ih =>
    intro h
    rw [List.forall_mem_cons] at h
    obtain ⟨hne, hchildren⟩ := h.1.element
    rw [rereadAll_cons, List.forall_mem_cons, Node.reread]
    refine ⟨lacks_element hne fun child hc => ?_, ih h.2⟩
    rcases List.mem_append.1 hc with hc | hc
    · exact lacks_feedNodes n children child hc
    · exact ihc hchildren child hc

theorem lacks_flush (pending : Bytes) : ∀ node ∈ flush pending, Lacks name node := by
  intro node hn
  unfold flush at hn
  split at hn
  · cases hn
  · rw [List.mem_singleton.1 hn]
    exact lacks_leaf (by simp)

theorem lacks_joinFrom (forest : List Node) :
    (∀ node ∈ forest, Lacks name node) → ∀ pending, ∀ node ∈ joinFrom pending forest,
      Lacks name node := by
  have cons {node : Node} {rest : List Node} (hne : ∀ data, node ≠ .text data)
      (hnode : Lacks name node.joined)
      (ih : ∀ pending, ∀ other ∈ joinFrom pending rest, Lacks name other) (pending : Bytes) :
      ∀ other ∈ joinFrom pending (node :: rest), Lacks name other := by
    rw [joinFrom_cons hne]
    intro other ho
    rcases List.mem_append.1 ho with ho | ho
    · exact lacks_flush pending other ho
    · rcases List.mem_cons.1 ho with rfl | ho
      · exact hnode
      · exact ih [] other ho
  induction forest using forestInduction with
  | nil => exact fun _ => lacks_flush
  | leaf node rest hleaf ih =>
    intro h
    rw [List.forall_mem_cons] at h
    cases node with
    | text data => exact fun pending => ih h.2 (pending ++ data)
    | comment data => exact cons (by simp) (by rw [joined_leaf hleaf]; exact h.1) (ih h.2)
    | doctype data => exact cons (by simp) (by rw [joined_leaf hleaf]; exact h.1) (ih h.2)
    | element n attrs children => exact absurd rfl (hleaf n attrs children)
  | element n attrs children rest ihc ih =>
    intro h
    rw [List.forall_mem_cons] at h
    obtain ⟨hne, hchildren⟩ := h.1.element
    exact cons (by simp) (lacks_element hne (ihc hchildren [])) (ih h.2)

/-- What a forest lacks is not in it either when it is written and read back. -/
theorem lacks_parse_render {forest : List Node} {text : Bytes} (hs : ∀ node ∈ forest, Sound node)
    (h : ∀ node ∈ forest, Lacks name node) (hr : render forest = .ok text) :
    ∀ node ∈ parse text, Lacks name node := by
  rw [parse_render_reread hs hr]
  exact lacks_joinFrom _ (lacks_rereadAll forest h) []

end Graft.Markup
