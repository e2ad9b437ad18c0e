import Graft.Markup.Edit
import Graft.Proofs.Markup.Forest

/-!
# Graft.Proofs.Markup.Edited

Forests stay as they are read when an element that is neither void nor raw is changed in its place.

* `Shaped.strengthen`: more is known of a node, if more is known of each element in it.
* `Lacks`: nodes without an element of a name.
* `shaped_get?`, `shaped_childrenAt`: what stands at an address.
* `shaped_modify`: changing an element that may have any children.
-/

namespace Graft.Markup

variable {named named' : Bytes → Prop} {held held' : RawElement → Bytes → Prop}

theorem Shaped.strengthen {p : Node → Prop}
    (hp : ∀ {name attrs children}, p (.element name attrs children) → named' name ∧
      (∀ element data, RawElement.ofName? name = some element → children = [.text data] →
        held element data → held' element data) ∧ ∀ child ∈ children, p child)
    {node : Node} (h : Shaped named held node) (hn : p node) : Shaped named' held' node := by
  induction h with
  | text h => exact .text h
  | comment h => exact .comment h
  | doctype => exact .doctype
  | element tag _ void raw _ ih =>
    obtain ⟨hname, hheld, hchildren⟩ := hp hn
    refine .element tag hname void (fun element he => ?_) fun child hc =>
      ih child hc (hchildren child hc)
    rcases raw element he with hnil | ⟨data, hdata, hd⟩
    · exact .inl hnil
    · exact .inr ⟨data, hdata, hheld element data he hdata hd⟩

/-! ## Elements of a name -/

/-- Nodes without an element of a name. -/
def Lacks (name : Bytes) (node : Node) : Prop := ∃ i, addressesAt name i node = []

theorem lacks_of_addressesFrom {name : Bytes} {forest : List Node} {i : Nat}
    (h : addressesFrom name i forest = []) : ∀ node ∈ forest, Lacks name node := by
  induction forest generalizing i with
  | nil => simp
  | cons node rest ih =>
    rw [addressesFrom, List.append_eq_nil_iff] at h
    exact List.forall_mem_cons.2 ⟨⟨i, h.1⟩, ih h.2⟩

theorem Lacks.element {name n : Bytes} {attrs : List Attr} {children : List Node}
    (h : Lacks name (.element n attrs children)) :
    n ≠ name ∧ ∀ child ∈ children, Lacks name child := by
  obtain ⟨i, h⟩ := h
  rw [addressesAt] at h
  split at h
  · cases h
  · rename_i hne
    exact ⟨hne, lacks_of_addressesFrom (List.map_eq_nil_iff.1 h)⟩

/-! ## Addresses -/

theorem shaped_children {node : Node} (h : Shaped named held node) :
    ∀ child ∈ node.children, Shaped named held child := by
  cases h with
  | text | comment | doctype => simp [Node.children]
  | element _ _ _ _ all => exact all

theorem shaped_get? {address : Address} {forest : List Node} {node : Node}
    (h : ∀ node ∈ forest, Shaped named held node) (hget : get? address forest = some node) :
    Shaped named held node := by
  induction address generalizing forest with
  | nil => cases hget
  | cons i address ih =>
    cases address with
    | nil => exact h node (List.mem_of_getElem? hget)
    | cons j address =>
      rw [get?] at hget
      split at hget
      · rename_i parent hparent
        exact ih (shaped_children (h parent (List.mem_of_getElem? hparent))) hget
      · cases hget

theorem shaped_childrenAt {address : Address} {forest : List Node}
    (h : ∀ node ∈ forest, Shaped named held node) :
    ∀ node ∈ childrenAt address forest, Shaped named held node := by
  unfold childrenAt
  split
  · rename_i parent hparent
    exact shaped_children (shaped_get? h hparent)
  · simp

/-- Whether an element of a name stands at an address. -/
def standsAt (name : Bytes) (address : Address) (forest : List Node) : Bool :=
  (get? address forest).any (Node.isElement name)

theorem exists_of_isElement {name : Bytes} {node : Node} (h : node.isElement name = true) :
    ∃ attrs children, node = .element name attrs children := by
  cases node with
  | element n attrs children =>
    rw [Node.isElement, beq_iff_eq] at h
    subst h
    exact ⟨attrs, children, rfl⟩
  | text | comment | doctype => cases h

/-- The first of the outermost elements of a name has none of them before it. -/
theorem topLevel_eq_cons_iff {name : Bytes} {node : Node} {forest more : List Node} :
    topLevel (.named name) forest = node :: more ↔ ∃ before behind,
      forest = before ++ node :: behind ∧ (∀ other ∈ before, other.isElement name = false) ∧
        node.isElement name = true ∧ topLevel (.named name) behind = more := by
  simp only [topLevel, List.filter_eq_cons_iff, NameTest.accepts, Bool.not_eq_true]

theorem not_standsAt_nil (name : Bytes) (address : Address) : standsAt name address [] = false := by
  match address with
  | [] | [_] | _ :: _ :: _ => rfl

theorem not_standsAt_text (name : Bytes) (address : Address) (data : Bytes) :
    standsAt name address [.text data] = false := by
  match address with
  | [] | [0] | [_ + 1] | (_ + 1) :: _ :: _ => rfl
  | 0 :: j :: address => exact not_standsAt_nil name (j :: address)

theorem forall_modify {p : Node → Prop} {forest : List Node} {i : Nat} {f : Node → Node}
    (h : ∀ node ∈ forest, p node) (hf : ∀ node, forest[i]? = some node → p (f node)) :
    ∀ node ∈ forest.modify i f, p node := by
  intro node hn
  obtain ⟨j, hj⟩ := List.mem_iff_getElem?.1 hn
  rw [List.getElem?_modify] at hj
  obtain ⟨old, hold, rfl⟩ := Option.map_eq_some_iff.1 hj
  split
  · rename_i hij
    subst hij
    exact hf old hold
  · exact h old (List.mem_of_getElem? hold)

/-- Changing an element of a name keeps a forest shaped, if it keeps the element shaped. -/
theorem shaped_modify {f : Node → Node} {name : Bytes}
    (hf : ∀ attrs children, Shaped named held (.element name attrs children) →
      Shaped named held (f (.element name attrs children))) {address : Address} {forest : List Node}
    (h : ∀ node ∈ forest, Shaped named held node) (hat : standsAt name address forest = true) :
    ∀ node ∈ modify f address forest, Shaped named held node := by
  induction address generalizing forest with
  | nil => exact h
  | cons i address ih =>
    cases address with
    | nil =>
      refine forall_modify h fun node hnode => ?_
      rw [standsAt, get?, hnode, Option.any_some] at hat
      obtain ⟨attrs, children, rfl⟩ := exists_of_isElement hat
      exact hf attrs children (h _ (List.mem_of_getElem? hnode))
    | cons j address =>
      refine forall_modify h fun node hnode => ?_
      have hinner : standsAt name (j :: address) node.children = true := by
        rw [standsAt, get?, hnode] at hat
        exact hat
      cases h node (List.mem_of_getElem? hnode) with
      | text h => exact .text h
      | comment h => exact .comment h
      | doctype => exact .doctype
      | element tag hname void raw all =>
        -- an element with another one inside is neither void nor raw
        refine .element tag hname (fun hv => ?_) (fun element he => ?_) (ih all hinner)
        · rw [Node.children, void hv, not_standsAt_nil] at hinner
          cases hinner
        · rw [Node.children] at hinner
          rcases raw element he with rfl | ⟨data, rfl, _⟩
          · rw [not_standsAt_nil] at hinner
            cases hinner
          · rw [not_standsAt_text] at hinner
            cases hinner

theorem Shaped.withChildren {name : Bytes} {attrs : List Attr} {children children' : List Node}
    (h : Shaped named held (.element name attrs children)) (hv : isVoid name = false)
    (hr : RawElement.ofName? name = none) (hc : ∀ child ∈ children', Shaped named held child) :
    Shaped named held (.element name attrs children') := by
  cases h with
  | element tag hname _ _ _ =>
    refine .element tag hname (fun hv' => ?_) (fun element he => ?_) hc
    · rw [hv] at hv'
      cases hv'
    · rw [hr] at he
      cases he

end Graft.Markup
