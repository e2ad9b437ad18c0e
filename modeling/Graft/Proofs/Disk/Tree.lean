import Graft.Disk
import Graft.Proofs.Path.Spelled

/-!
# Graft.Proofs.Disk.Tree

Trees of files, directories and links. What stands at a path is told from the entries; what lies
above an entry is a directory.

* `Disk.Tree`: disks whose entries form a tree.
* `Tree.mem`, `Tree.above_prefix`: its entries, and what lies above them.
* `Disk.mem_children`, `Disk.pairwise_children`: the names in a directory.
-/

namespace Graft.Disk

open Graft.Path (IsName)

/-- A tree: each entry has a name that an entry can have, lies in a directory, and has its path for
itself. -/
structure Tree (d : Disk) : Prop where
  named : ∀ x ∈ d.entries, x.1 ≠ [] ∧ ∀ n ∈ x.1, IsName n
  closed : ∀ x ∈ d.entries, d.item? x.1.dropLast = some .directory
  distinct : (d.entries.map Prod.fst).Nodup

instance (d : Disk) : Decidable d.Tree :=
  decidable_of_iff
    ((∀ x ∈ d.entries, x.1 ≠ [] ∧ ∀ n ∈ x.1, IsName n) ∧
      (∀ x ∈ d.entries, d.item? x.1.dropLast = some .directory) ∧ (d.entries.map Prod.fst).Nodup)
    ⟨fun ⟨h1, h2, h3⟩ => ⟨h1, h2, h3⟩, fun ⟨h1, h2, h3⟩ => ⟨h1, h2, h3⟩⟩

/-! ## Entries -/

@[simp] theorem item?_nil (d : Disk) : d.item? [] = some .directory := rfl

theorem item?_of_ne_nil (d : Disk) {S : List Bytes} (h : S ≠ []) :
    d.item? S = d.entries.lookup S := by simp [item?, h]

theorem mem_of_lookup {S : List Bytes} {e : Entry} {entries : List (List Bytes × Entry)}
    (h : entries.lookup S = some e) : (S, e) ∈ entries := by
  obtain ⟨before, after, rfl, _⟩ := List.lookup_eq_some_iff.1 h
  simp

theorem lookup_of_mem {S : List Bytes} {e : Entry} {entries : List (List Bytes × Entry)}
    (hd : (entries.map Prod.fst).Nodup) (h : (S, e) ∈ entries) : entries.lookup S = some e := by
  induction entries with
  | nil => cases h
  | cons x entries ih =>
    obtain ⟨S', e'⟩ := x
    rw [List.map_cons, List.nodup_cons] at hd
    rcases List.mem_cons.1 h with heq | h
    · cases heq
      exact List.lookup_cons_self
    · have hne : S ≠ S' := fun heq => hd.1 (List.mem_map.2 ⟨(S, e), h, heq⟩)
      have hbeq : (S == S') = false := by simpa using hne
      rw [List.lookup_cons, hbeq]
      exact ih hd.2 h

namespace Tree

variable {d : Disk} {S X : List Bytes} {n : Bytes} {e : Entry}

theorem mem (hd : d.Tree) (hS : S ≠ []) : (S, e) ∈ d.entries ↔ d.item? S = some e := by
  rw [item?_of_ne_nil d hS]
  exact ⟨lookup_of_mem hd.distinct, mem_of_lookup⟩

theorem isName (hd : d.Tree) (h : d.item? S = some e) (hn : n ∈ S) : IsName n := by
  by_cases hS : S = []
  · subst hS
    cases hn
  · exact (hd.named (S, e) ((hd.mem hS).2 h)).2 n hn

theorem above (hd : d.Tree) (h : d.item? (S ++ [n]) = some e) : d.item? S = some .directory := by
  have := hd.closed (S ++ [n], e) ((hd.mem (by simp)).2 h)
  simpa using this

theorem above_prefix (hd : d.Tree) (h : d.item? (S ++ X) = some e) (hX : X ≠ []) :
    d.item? S = some .directory := by
  induction X generalizing S with
  | nil => exact absurd rfl hX
  | cons n X ih =>
    have hsplit : S ++ n :: X = (S ++ [n]) ++ X := by simp
    rw [hsplit] at h
    by_cases hX : X = []
    · rw [hX, List.append_nil] at h
      exact hd.above h
    · exact hd.above (ih h hX)

end Tree

/-! ## The names in a directory -/

section

variable {d : Disk} {spot : List Bytes} {name : Bytes} {e : Entry}

theorem child_eq_some_iff (spot : List Bytes) (x : List Bytes × Entry) (y : Bytes × Entry) :
    (match x.1.getLast? with
      | some name => if x.1.dropLast = spot then some (name, x.2) else none
      | none => none) = some y ↔ x = (spot ++ [y.1], y.2) := by
  obtain ⟨key, e⟩ := x
  obtain ⟨name, e'⟩ := y
  rcases List.eq_nil_or_concat key with rfl | ⟨key, last, rfl⟩
  · simp
  · simp only [List.concat_eq_append, List.getLast?_append, List.getLast?_singleton,
      Option.some_or, List.dropLast_concat]
    constructor
    · intro h
      split at h
      · rename_i hspot
        cases h
        rw [hspot]
      · cases h
    · intro h
      obtain ⟨hkey, rfl⟩ := Prod.mk.inj h
      obtain ⟨rfl, hlast⟩ := List.append_inj' hkey rfl
      cases hlast
      simp

theorem mem_children (hd : d.Tree) :
    (name, e) ∈ d.children spot ↔ d.item? (spot ++ [name]) = some e := by
  have hmem : (name, e) ∈ d.children spot ↔ ∃ x ∈ d.entries, x = (spot ++ [name], e) := by
    rw [children, List.mem_filterMap]
    exact exists_congr fun x => and_congr_right fun _ => child_eq_some_iff spot x (name, e)
  rw [hmem, ← hd.mem (by simp)]
  simp

theorem pairwise_children (hd : d.Tree) (spot : List Bytes) :
    (d.children spot).Pairwise fun x y => x.1 ≠ y.1 := by
  have hkeys : d.entries.Pairwise fun x y => x.1 ≠ y.1 := List.pairwise_map.1 hd.distinct
  rw [children, List.pairwise_filterMap]
  refine hkeys.imp fun {x x'} hne y hy y' hy' heq => hne ?_
  rw [(child_eq_some_iff spot x y).1 hy, (child_eq_some_iff spot x' y').1 hy', heq]

end

end Graft.Disk
