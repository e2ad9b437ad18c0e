import Graft.Text.Bytes

/-!
# Graft.Proofs.Text.Order

Texts in ascending bytewise order.

* `le_trans`, `le_total`, `le_antisymm`: the bytewise order.
* `pairwise_sort`, `sort_perm`: sorting.
-/

namespace Graft.Bytes

theorem le_cons (a b : UInt8) (s t : Bytes) :
    le (a :: s) (b :: t) = true ↔ a < b ∨ a = b ∧ le s t = true := by
  rw [le]
  split
  · rename_i h
    subst h
    refine ⟨fun hle => .inr ⟨rfl, hle⟩, ?_⟩
    rintro (hlt | ⟨_, hle⟩)
    · exact absurd hlt (UInt8.lt_irrefl a)
    · exact hle
  · rename_i h
    rw [decide_eq_true_iff]
    exact ⟨.inl, fun hor => hor.resolve_right fun heq => h heq.1⟩

theorem le_refl (s : Bytes) : le s s = true := by
  induction s with
  | nil => rfl
  | cons a s ih => rw [le, if_pos rfl, ih]

theorem le_append_left (front s t : Bytes) : le (front ++ s) (front ++ t) = le s t := by
  induction front with
  | nil => rfl
  | cons a front ih => rw [List.cons_append, List.cons_append, le, if_pos rfl, ih]

theorem not_le_cons {a b : UInt8} (h : a < b) (s t : Bytes) : le (b :: t) (a :: s) = false := by
  have hne : b ≠ a := fun heq => UInt8.lt_irrefl a (heq ▸ h)
  rw [le, if_neg hne, decide_eq_false_iff_not]
  exact UInt8.not_lt.2 (UInt8.le_of_lt h)

theorem le_trans {s t u : Bytes} (h₁ : le s t = true) (h₂ : le t u = true) : le s u = true := by
  induction s generalizing t u with
  | nil => rfl
  | cons a s ih =>
    cases t with
    | nil => cases h₁
    | cons b t =>
      cases u with
      | nil => cases h₂
      | cons c u =>
        rw [le_cons] at h₁ h₂ ⊢
        rcases h₁ with hab | ⟨rfl, hst⟩
        · rcases h₂ with hbc | ⟨rfl, _⟩
          · exact .inl (UInt8.lt_trans hab hbc)
          · exact .inl hab
        · rcases h₂ with hbc | ⟨rfl, htu⟩
          · exact .inl hbc
          · exact .inr ⟨rfl, ih hst htu⟩

theorem le_total (s t : Bytes) : (le s t || le t s) = true := by
  induction s generalizing t with
  | nil => rfl
  | cons a s ih =>
    cases t with
    | nil => rfl
    | cons b t =>
      rw [Bool.or_eq_true, le_cons, le_cons]
      by_cases heq : a = b
      · subst heq
        exact (Bool.or_eq_true_iff.1 (ih t)).imp (fun h => .inr ⟨rfl, h⟩) fun h => .inr ⟨rfl, h⟩
      · rcases Nat.lt_or_gt_of_ne fun h => heq (UInt8.toNat_inj.1 h) with hlt | hlt
        · exact .inl (.inl (UInt8.lt_iff_toNat_lt.2 hlt))
        · exact .inr (.inl (UInt8.lt_iff_toNat_lt.2 hlt))

/-- A text that does not come later comes strictly before. -/
theorem lt_of_not_le {s t : Bytes} (h : le t s = false) : le s t = true ∧ s ≠ t := by
  refine ⟨?_, ?_⟩
  · simpa [h] using le_total s t
  · rintro rfl
    rw [le_refl] at h
    cases h

theorem le_antisymm {s t : Bytes} (h₁ : le s t = true) (h₂ : le t s = true) : s = t := by
  induction s generalizing t with
  | nil =>
    cases t with
    | nil => rfl
    | cons b t => cases h₂
  | cons a s ih =>
    cases t with
    | nil => cases h₁
    | cons b t =>
      rw [le_cons] at h₁ h₂
      rcases h₁ with hab | ⟨rfl, hst⟩
      · rcases h₂ with hba | ⟨rfl, _⟩
        · exact absurd (UInt8.lt_trans hab hba) (UInt8.lt_irrefl a)
        · exact absurd hab (UInt8.lt_irrefl b)
      · rcases h₂ with hlt | ⟨_, hts⟩
        · exact absurd hlt (UInt8.lt_irrefl a)
        · rw [ih hst hts]

theorem sort_perm (texts : List Bytes) : (sort texts).Perm texts := List.mergeSort_perm texts le

theorem pairwise_sort (texts : List Bytes) : (sort texts).Pairwise fun s t => le s t = true :=
  @List.pairwise_mergeSort _ le (fun _ _ _ hst htu => le_trans hst htu) le_total texts

theorem sort_eq {texts texts' : List Bytes} (h : texts.Perm texts')
    (hsorted : texts'.Pairwise fun s t => le s t = true) : sort texts = texts' :=
  List.Perm.eq_of_pairwise (fun _ _ _ _ => le_antisymm) (pairwise_sort texts) hsorted
    ((sort_perm texts).trans h)

/-- The order texts come in does not matter. -/
theorem sort_congr {texts texts' : List Bytes} (h : texts.Perm texts') : sort texts = sort texts' :=
  sort_eq (h.trans (sort_perm texts').symm) (pairwise_sort texts')

end Graft.Bytes
