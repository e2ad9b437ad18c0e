import Graft.Proofs.Markup.NormalForm

/-!
# Graft.Proofs.Extend.Within

Nodes at any depth of a forest.

* `Within`: a node that stands somewhere in a forest.
* `within_iff`, `Markup.mem_addresses_iff`: such nodes by their addresses.
* `EmptyVoids`, `writable_iff`: what can be written, told from the nodes at any depth.
* `Markup.writable_parse`, `Markup.writable_modify`: forests as they are read, and as they are changed.
-/

namespace Graft

namespace Markup

/-! ## Addresses -/

theorem get?_nil_forest (address : Address) : get? address [] = none := by
  match address with
  | [] | [_] | _ :: _ :: _ => rfl

theorem get?_cons {address : Address} (h : address ≠ []) (i : Nat) (forest : List Node) :
    get? (i :: address) forest = forest[i]?.bind fun node => get? address node.children := by
  obtain ⟨j, address, rfl⟩ := List.exists_cons_of_ne_nil h
  rw [get?]
  cases forest[i]? <;> rfl

theorem mem_addressesAt {name : Bytes} {address : Address} {i : Nat} {node : Node} :
    address ∈ addressesAt name i node ↔
      address = [i] ∧ node.isElement name = true ∨
        ∃ below ∈ addressesFrom name 0 node.children, address = i :: below := by
  cases node with
  | element n attrs children =>
    have hmap : address ∈ (addressesFrom name 0 children).map (i :: ·) ↔
        ∃ below ∈ addressesFrom name 0 children, address = i :: below := by
      simp only [List.mem_map, eq_comm]
    simp only [addressesAt, Node.isElement, Node.children, beq_iff_eq]
    split
    · rename_i hname
      simp only [List.mem_cons, hmap, hname, and_true]
    · rename_i hname
      simp only [hmap, hname, and_false, false_or]
  | text | comment | doctype =>
    simp [addressesAt_leaf, Node.isElement, Node.children, addressesFrom]

theorem mem_addressesFrom {name : Bytes} {address : Address} {forest : List Node} {k : Nat} :
    address ∈ addressesFrom name k forest ↔
      ∃ i node, forest[i]? = some node ∧ address ∈ addressesAt name (k + i) node := by
  induction forest generalizing k with
  | nil => simp [addressesFrom]
  | cons first rest ih =>
    rw [addressesFrom, List.mem_append, ih]
    constructor
    · rintro (h | ⟨i, node, hnode, h⟩)
      · exact ⟨0, first, rfl, h⟩
      · exact ⟨i + 1, node, hnode, by rwa [Nat.add_assoc, Nat.add_comm 1] at h⟩
    · rintro ⟨i, node, hnode, h⟩
      cases i with
      | zero =>
        cases hnode
        exact .inl h
      | succ i => exact .inr ⟨i, node, hnode, by rwa [Nat.add_assoc, Nat.add_comm 1]⟩

theorem mem_addresses_iff {name : Bytes} {address : Address} {forest : List Node} :
    address ∈ addresses name forest ↔ standsAt name address forest = true := by
  unfold addresses
  induction address generalizing forest with
  | nil =>
    simp only [mem_addressesFrom (k := 0), standsAt, get?, Option.any_none, Bool.false_eq_true,
      iff_false]
    rintro ⟨i, node, _, h⟩
    rcases mem_addressesAt.1 h with ⟨h, _⟩ | ⟨_, _, h⟩ <;> cases h
  | cons i address ih =>
    have hat (j : Nat) (node : Node) : i :: address ∈ addressesAt name j node ↔
        i = j ∧ (address = [] ∧ node.isElement name = true ∨
          standsAt name address node.children = true) := by
      rw [mem_addressesAt, ← ih]
      constructor
      · rintro (⟨h, helement⟩ | ⟨below, hbelow, h⟩) <;> cases h
        · exact ⟨rfl, .inl ⟨rfl, helement⟩⟩
        · exact ⟨rfl, .inr hbelow⟩
      · rintro ⟨rfl, ⟨rfl, helement⟩ | hbelow⟩
        · exact .inl ⟨rfl, helement⟩
        · exact .inr ⟨address, hbelow, rfl⟩
    have hsome : i :: address ∈ addressesFrom name 0 forest ↔ ∃ node, forest[i]? = some node ∧
        (address = [] ∧ node.isElement name = true ∨ standsAt name address node.children = true) := by
      simp only [mem_addressesFrom, hat, Nat.zero_add]
      constructor
      · rintro ⟨_, node, hnode, rfl, h⟩
        exact ⟨node, hnode, h⟩
      · rintro ⟨node, hnode, h⟩
        exact ⟨i, node, hnode, rfl, h⟩
    rw [hsome, standsAt]
    by_cases hnil : address = []
    · subst hnil
      simp [get?, standsAt, Option.any_eq_true]
    · simp only [hnil, false_and, false_or, standsAt, get?_cons hnil, Option.any_eq_true,
        Option.bind_eq_some_iff]
      constructor
      · rintro ⟨parent, hparent, node, hnode, helement⟩
        exact ⟨node, ⟨parent, hparent, hnode⟩, helement⟩
      · rintro ⟨node, ⟨parent, hparent, hnode⟩, helement⟩
        exact ⟨parent, hparent, node, hnode, helement⟩

/-! ## Void elements -/

theorem writable_parse (x : Bytes) : ∀ node ∈ parse x, Writable node :=
  fun node hn => writable_of_shaped (shaped_parse x node hn)

theorem Writable.withChildren {node : Node} {children : List Node} (h : Writable node)
    (hv : node.children = [] → children = []) (hc : ∀ child ∈ children, Writable child) :
    Writable (node.withChildren children) := by
  cases h with
  | text => exact .text
  | comment => exact .comment
  | doctype => exact .doctype
  | element void _ => exact .element (fun hvoid => hv (void hvoid)) hc

theorem modify_nil (f : Node → Node) (address : Address) : modify f address [] = [] := by
  match address with
  | [] => rfl
  | [_] | _ :: _ :: _ => simp [modify]

/-- A change of one node keeps a forest writable, if it keeps nodes writable. -/
theorem writable_modify {f : Node → Node} (hf : ∀ node, Writable node → Writable (f node))
    {address : Address} {forest : List Node} (h : ∀ node ∈ forest, Writable node) :
    ∀ node ∈ modify f address forest, Writable node := by
  induction address generalizing forest with
  | nil => exact h
  | cons i address ih =>
    cases address with
    | nil => exact forall_modify h fun node hnode => hf node (h node (List.mem_of_getElem? hnode))
    | cons j address =>
      refine forall_modify h fun node hnode => ?_
      have hw := h node (List.mem_of_getElem? hnode)
      refine hw.withChildren (fun hnil => by rw [hnil, modify_nil]) (ih fun child hc => ?_)
      cases node with
      | element name attrs children => exact hw.children child hc
      | text | comment | doctype => cases hc

end Markup

namespace Extend

open Markup

/-! ## At any depth -/

/-- A node that stands somewhere in a forest. -/
inductive Within (node : Node) : List Node → Prop where
  | here {forest : List Node} (h : node ∈ forest) : Within node forest
  | inside {forest children : List Node} {name : Bytes} {attrs : List Attr}
      (h : .element name attrs children ∈ forest) (hc : Within node children) : Within node forest

theorem Within.behind {first node : Node} {rest : List Node} (h : Within node rest) :
    Within node (first :: rest) := by
  cases h with
  | here h => exact .here (List.mem_cons_of_mem _ h)
  | inside h hc => exact .inside (List.mem_cons_of_mem _ h) hc

theorem within_of_get? {address : Address} {forest : List Node} {node : Node}
    (h : get? address forest = some node) : Within node forest := by
  induction address generalizing forest with
  | nil => cases h
  | cons i address ih =>
    by_cases hnil : address = []
    · subst hnil
      exact .here (List.mem_of_getElem? h)
    · rw [get?_cons hnil] at h
      obtain ⟨parent, hparent, hget⟩ := Option.bind_eq_some_iff.1 h
      cases parent with
      | element name attrs children => exact .inside (List.mem_of_getElem? hparent) (ih hget)
      | text | comment | doctype =>
        simp only [Node.children, get?_nil_forest] at hget
        cases hget

theorem within_iff {forest : List Node} {node : Node} :
    Within node forest ↔ ∃ address, get? address forest = some node := by
  refine ⟨fun h => ?_, fun ⟨_, h⟩ => within_of_get? h⟩
  induction h with
  | here h =>
    obtain ⟨i, hi⟩ := List.mem_iff_getElem?.1 h
    exact ⟨[i], hi⟩
  | inside h _ ih =>
    obtain ⟨i, hi⟩ := List.mem_iff_getElem?.1 h
    obtain ⟨address, hget⟩ := ih
    have hne : address ≠ [] := by
      rintro rfl
      cases hget
    exact ⟨i :: address, by rw [get?_cons hne, hi]; exact hget⟩

theorem Within.writable {forest : List Node} {node : Node} (h : Within node forest)
    (hw : ∀ node ∈ forest, Writable node) : Writable node := by
  induction h with
  | here h => exact hw node h
  | inside h _ ih => exact ih (hw _ h).children

/-- No void element at any depth has children. -/
def EmptyVoids (forest : List Node) : Prop :=
  ∀ name attrs children, Within (.element name attrs children) forest → isVoid name = true →
    children = []

theorem writable_iff {forest : List Node} : (∀ node ∈ forest, Writable node) ↔ EmptyVoids forest := by
  constructor
  · intro h name attrs children hin
    cases hin.writable h with
    | element void _ => exact void
  · induction forest using forestInduction with
    | nil => simp
    | leaf node rest hleaf ih =>
      intro h
      refine List.forall_mem_cons.2 ⟨?_, ih fun name attrs children hin => h _ _ _ hin.behind⟩
      cases node with
      | text => exact .text
      | comment => exact .comment
      | doctype => exact .doctype
      | element name attrs children => exact absurd rfl (hleaf name attrs children)
    | element name attrs children rest ihc ih =>
      intro h
      have hfirst : .element name attrs children ∈ .element name attrs children :: rest :=
        List.mem_cons_self ..
      refine List.forall_mem_cons.2 ⟨?_, ih fun name attrs children hin => h _ _ _ hin.behind⟩
      exact .element (h _ _ _ (.here hfirst)) (ihc fun _ _ _ hin => h _ _ _ (.inside hfirst hin))

end Extend

end Graft
