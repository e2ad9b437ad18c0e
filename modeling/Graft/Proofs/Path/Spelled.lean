import Graft.Path
import Mathlib.Data.List.Flatten

/-!
# Graft.Proofs.Path.Spelled

Paths and the segments they are spelled from. A clean path is the spelling of its segments, and the
operations on clean paths are operations on lists of names.

* `split_joinWith`: cutting undoes joining.
* `IsName`, `Normal`: names, and the segments of clean paths.
* `segments_spell`, `normal_segments`: a spelling and its segments.
* `clean_absolute`, `clean_clean`, `clean_sublist`: what cleaning comes to.
* `join_names`, `dir_spell`, `relative?_spell`, `base_spell`: the operations.
-/

namespace Graft

namespace Bytes

variable {sep : UInt8}

/-! ## Cutting and joining -/

theorem split_ne_nil (s : Bytes) : s.split sep ≠ [] := by
  cases s with
  | nil => simp [split]
  | cons c s =>
    rw [split]
    split
    · simp
    · split <;> simp

theorem split_cons_sep (s : Bytes) : split sep (sep :: s) = [] :: split sep s := by
  rw [split]
  split
  · rename_i h
    exact absurd h (split_ne_nil s)
  · rename_i piece rest h
    rw [if_pos rfl, h]

theorem split_append_sep (s t : Bytes) :
    split sep (s ++ sep :: t) = split sep s ++ split sep t := by
  induction s with
  | nil => rw [List.nil_append, split_cons_sep]; rfl
  | cons c s ih =>
    rw [List.cons_append, split, ih]
    conv => rhs; rw [split]
    cases h : split sep s with
    | nil => exact absurd h (split_ne_nil s)
    | cons piece rest =>
      dsimp only [List.cons_append]
      split <;> rfl

theorem split_of_not_mem {s : Bytes} (h : sep ∉ s) : split sep s = [s] := by
  induction s with
  | nil => rfl
  | cons c s ih =>
    rw [List.mem_cons, not_or] at h
    rw [split, ih h.2]
    exact if_neg (Ne.symm h.1)

theorem not_mem_of_mem_split {s piece : Bytes} (h : piece ∈ split sep s) : sep ∉ piece := by
  induction s generalizing piece with
  | nil =>
    rw [split, List.mem_singleton] at h
    rw [h]
    exact List.not_mem_nil
  | cons c s ih =>
    rw [split] at h
    cases hs : split sep s with
    | nil => exact absurd hs (split_ne_nil s)
    | cons first rest =>
      rw [hs] at h ih
      dsimp only at h
      split at h
      · rcases List.mem_cons.1 h with rfl | h
        · exact List.not_mem_nil
        · exact ih h
      · rename_i hc
        rcases List.mem_cons.1 h with rfl | h
        · have := ih List.mem_cons_self
          exact fun hmem => (List.mem_cons.1 hmem).elim (fun heq => hc heq.symm) this
        · exact ih (List.mem_cons_of_mem _ h)

theorem joinWith_cons_cons (sep a b : Bytes) (rest : List Bytes) :
    joinWith sep (a :: b :: rest) = a ++ (sep ++ joinWith sep (b :: rest)) := by
  simp [joinWith]

theorem joinWith_singleton (sep a : Bytes) : joinWith sep [a] = a := by simp [joinWith]

theorem joinWith_append (sep : Bytes) {as bs : List Bytes} (ha : as ≠ []) (hb : bs ≠ []) :
    joinWith sep (as ++ bs) = joinWith sep as ++ (sep ++ joinWith sep bs) := by
  induction as with
  | nil => exact absurd rfl ha
  | cons a as ih =>
    cases as with
    | nil =>
      cases bs with
      | nil => exact absurd rfl hb
      | cons b bs =>
        rw [joinWith_singleton, List.singleton_append, joinWith_cons_cons]
    | cons a' as =>
      have := ih (List.cons_ne_nil _ _)
      rw [List.cons_append] at this ⊢
      rw [List.cons_append, joinWith_cons_cons, this, joinWith_cons_cons]
      simp only [List.append_assoc]

theorem split_joinWith {pieces : List Bytes} (hne : pieces ≠ []) (h : ∀ p ∈ pieces, sep ∉ p) :
    split sep (joinWith [sep] pieces) = pieces := by
  induction pieces with
  | nil => exact absurd rfl hne
  | cons a rest ih =>
    have ha : split sep a = [a] := split_of_not_mem (h a List.mem_cons_self)
    cases rest with
    | nil => rw [joinWith_singleton, ha]
    | cons b rest =>
      rw [joinWith_cons_cons, List.singleton_append, split_append_sep, ha,
        ih (List.cons_ne_nil _ _) fun p hp => h p (List.mem_cons_of_mem _ hp)]
      rfl

theorem joinWith_split (s : Bytes) : joinWith [sep] (split sep s) = s := by
  induction s with
  | nil => rfl
  | cons c s ih =>
    rw [split]
    cases hs : split sep s with
    | nil => exact absurd hs (split_ne_nil s)
    | cons piece rest =>
      rw [hs] at ih
      dsimp only
      split
      · rename_i hc
        rw [joinWith_cons_cons, ih, ← hc]
        rfl
      · cases rest with
        | nil =>
          rw [joinWith_singleton] at ih ⊢
          rw [ih]
        | cons next rest =>
          rw [joinWith_cons_cons] at ih ⊢
          rw [← ih]
          rfl

end Bytes

namespace Path

open Bytes

/-! ## Names -/

/-- A name that an entry of a directory can have. -/
def IsName (s : Bytes) : Prop := s ≠ [] ∧ s ≠ current ∧ s ≠ parent ∧ Byte.slash ∉ s

instance : DecidablePred IsName := fun s =>
  inferInstanceAs (Decidable (s ≠ [] ∧ s ≠ current ∧ s ≠ parent ∧ Byte.slash ∉ s))

theorem IsName.ne_nil {s : Bytes} (h : IsName s) : s ≠ [] := h.1

theorem IsName.ne_parent {s : Bytes} (h : IsName s) : s ≠ parent := h.2.2.1

theorem IsName.no_slash {s : Bytes} (h : IsName s) : Byte.slash ∉ s := h.2.2.2

/-- The segments of a clean path: names, behind steps up unless the path starts at the root. -/
def Normal (rooted : Bool) (X : List Bytes) : Prop :=
  ∃ k names, X = List.replicate k parent ++ names ∧ (rooted = true → k = 0) ∧
    ∀ n ∈ names, IsName n

theorem Normal.of_names {X : List Bytes} (h : ∀ n ∈ X, IsName n) (rooted : Bool) :
    Normal rooted X := ⟨0, X, rfl, fun _ => rfl, h⟩

theorem Normal.names {X : List Bytes} (h : Normal true X) : ∀ n ∈ X, IsName n := by
  obtain ⟨k, names, rfl, hk, hn⟩ := h
  rw [hk rfl]
  simpa using hn

theorem Normal.append {rooted : Bool} {X N : List Bytes} (h : Normal rooted X)
    (hN : ∀ n ∈ N, IsName n) : Normal rooted (X ++ N) := by
  obtain ⟨k, names, rfl, hk, hn⟩ := h
  refine ⟨k, names ++ N, List.append_assoc _ _ _, hk, fun n hmem => ?_⟩
  exact (List.mem_append.1 hmem).elim (hn n) (hN n)

theorem not_mem_parent : Byte.slash ∉ parent := by decide

theorem Normal.no_slash {rooted : Bool} {X : List Bytes} (h : Normal rooted X) :
    ∀ s ∈ X, Byte.slash ∉ s := by
  obtain ⟨k, names, rfl, _, hn⟩ := h
  intro s hs
  rcases List.mem_append.1 hs with hs | hs
  · rw [List.eq_of_mem_replicate hs]
    exact not_mem_parent
  · exact (hn s hs).no_slash

theorem Normal.ne_nil {rooted : Bool} {X : List Bytes} (h : Normal rooted X) :
    ∀ s ∈ X, s ≠ [] := by
  obtain ⟨k, names, rfl, _, hn⟩ := h
  intro s hs
  rcases List.mem_append.1 hs with hs | hs
  · rw [List.eq_of_mem_replicate hs]
    decide
  · exact (hn s hs).ne_nil

/-! ## Evaluation -/

/-- A segment that leads nowhere else. -/
def Idle (segment : Bytes) : Prop := segment = [] ∨ segment = current

instance : DecidablePred Idle := fun segment =>
  inferInstanceAs (Decidable (segment = [] ∨ segment = current))

section

variable {rooted : Bool} {done : List Bytes} {s : Bytes}

theorem advance_idle (h : Idle s) : advance rooted done s = done := if_pos h

theorem advance_step (h : ¬ Idle s) (hp : s ≠ parent) : advance rooted done s = s :: done :=
  (if_neg h).trans (if_neg hp)

theorem advance_name (h : IsName s) : advance rooted done s = s :: done :=
  advance_step (not_or.2 ⟨h.1, h.2.1⟩) h.ne_parent

theorem advance_parent {names : List Bytes} (h : ∀ n ∈ names, n ≠ parent) :
    advance true names.reverse parent = names.dropLast.reverse := by
  rcases List.eq_nil_or_concat names with rfl | ⟨names, n, rfl⟩
  · rfl
  · have hplain : ¬ (parent = [] ∨ parent = current) := by decide
    have hn : n ≠ parent := h n (by simp)
    simp [advance, hplain, hn]

end

theorem foldl_advance_names {rooted : Bool} {X : List Bytes} (h : ∀ n ∈ X, IsName n)
    (done : List Bytes) : X.foldl (advance rooted) done = X.reverse ++ done := by
  induction X generalizing done with
  | nil => rfl
  | cons s X ih =>
    rw [List.foldl_cons, advance_name (h s List.mem_cons_self),
      ih fun n hn => h n (List.mem_cons_of_mem _ hn)]
    simp

theorem foldl_advance_parents (k j : Nat) :
    (List.replicate k parent).foldl (advance false) (List.replicate j parent) =
      List.replicate (k + j) parent := by
  induction k generalizing j with
  | zero => rw [Nat.zero_add]; rfl
  | succ k ih =>
    rw [List.replicate_succ, List.foldl_cons]
    have hstep :
        advance false (List.replicate j parent) parent = List.replicate (j + 1) parent := by
      unfold advance
      rw [if_neg (by decide), if_pos rfl]
      cases j with
      | zero => rfl
      | succ j => simp [List.replicate_succ]
    rw [hstep, ih, Nat.add_right_comm, Nat.add_assoc]

theorem Normal.foldl_advance {rooted : Bool} {X : List Bytes} (h : Normal rooted X) :
    X.foldl (advance rooted) [] = X.reverse := by
  obtain ⟨k, names, rfl, hk, hn⟩ := h
  rw [List.foldl_append, foldl_advance_names hn, List.reverse_append, List.reverse_replicate]
  cases rooted with
  | true => rw [hk rfl]; rfl
  | false =>
    have := foldl_advance_parents k 0
    rw [List.replicate_zero, Nat.add_zero] at this
    rw [this]

theorem Normal.evaluate {rooted : Bool} {X : List Bytes} (h : Normal rooted X) :
    evaluate rooted X = X := by rw [Path.evaluate, h.foldl_advance, List.reverse_reverse]

theorem normal_advance {rooted : Bool} {done : List Bytes} {s : Bytes}
    (h : Normal rooted done.reverse) (hs : Byte.slash ∉ s) :
    Normal rooted (advance rooted done s).reverse := by
  obtain ⟨k, names, heq, hk, hn⟩ := h
  have hdone : done = names.reverse ++ List.replicate k parent := by
    rw [← List.reverse_reverse done, heq, List.reverse_append, List.reverse_replicate]
  unfold advance
  split
  · exact ⟨k, names, heq, hk, hn⟩
  rename_i hplain
  rw [not_or] at hplain
  split
  · rename_i hparent
    subst hparent
    subst hdone
    rcases List.eq_nil_or_concat names with rfl | ⟨names, last, rfl⟩
    · cases k with
      | zero =>
        cases rooted with
        | true => exact ⟨0, [], rfl, fun _ => rfl, by simp⟩
        | false => exact ⟨1, [], rfl, by simp, by simp⟩
      | succ k =>
        have hroot : rooted ≠ true := fun h => absurd (hk h) (Nat.succ_ne_zero k)
        refine ⟨k + 2, [], ?_, fun h => absurd h hroot, by simp⟩
        show (if parent = parent then parent :: List.replicate (k + 1) parent
          else List.replicate k parent).reverse = _
        rw [if_pos rfl, List.append_nil, ← List.replicate_succ, List.reverse_replicate]
    · have hlast : last ≠ parent := (hn last (by simp)).ne_parent
      refine ⟨k, names, ?_, hk, fun n hmem => hn n (by simp [hmem])⟩
      simp [hlast]
  · rename_i hparent
    have hname : IsName s := ⟨hplain.1, hplain.2, hparent, hs⟩
    rw [List.reverse_cons, heq]
    exact Normal.append ⟨k, names, rfl, hk, hn⟩ (by simpa using hname)

theorem normal_foldl_advance {rooted : Bool} {X : List Bytes} (hX : ∀ s ∈ X, Byte.slash ∉ s)
    {done : List Bytes} (h : Normal rooted done.reverse) :
    Normal rooted (X.foldl (advance rooted) done).reverse := by
  induction X generalizing done with
  | nil => exact h
  | cons s X ih =>
    exact ih (fun s hs => hX s (List.mem_cons_of_mem _ hs))
      (normal_advance h (hX s List.mem_cons_self))

theorem foldl_advance_of_no_parent {rooted : Bool} {X : List Bytes} (h : parent ∉ X)
    (done : List Bytes) :
    X.foldl (advance rooted) done = (X.filter fun s => ¬ Idle s).reverse ++ done := by
  induction X generalizing done with
  | nil => rfl
  | cons s X ih =>
    rw [List.mem_cons, not_or] at h
    rw [List.foldl_cons]
    by_cases hs : Idle s
    · rw [advance_idle hs, ih h.2, List.filter_cons_of_neg (by simpa using hs)]
    · rw [advance_step hs (Ne.symm h.1), ih h.2, List.filter_cons_of_pos (by simpa using hs)]
      simp

/-- From the root, evaluation only leaves segments out. -/
theorem foldl_advance_sublist (X done : List Bytes) :
    (X.foldl (advance true) done).reverse.Sublist (done.reverse ++ X) := by
  induction X generalizing done with
  | nil => simp
  | cons s X ih =>
    have hstep : (advance true done s).reverse.Sublist (done.reverse ++ [s]) := by
      unfold advance
      split
      · exact List.sublist_append_left ..
      split
      · cases done with
        | nil => exact List.nil_sublist _
        | cons last rest =>
          dsimp only
          split
          · simp
          · rw [List.reverse_cons, List.append_assoc]
            exact List.sublist_append_left ..
      · simp
    rw [List.foldl_cons, List.append_cons]
    exact (ih _).trans (hstep.append_right X)

theorem normal_segments (p : Bytes) : Normal (isAbsolute p) (segments p) :=
  normal_foldl_advance (fun _ => not_mem_of_mem_split) (Normal.of_names (by simp) _)

/-- Going on from a directory by a segment more, or by the segments evaluated with it. -/
theorem foldl_advance_reverse {D : List Bytes} (hD : Normal false D.reverse) (done : List Bytes)
    (s : Bytes) :
    (advance false D s).reverse.foldl (advance true) done =
      advance true (D.reverse.foldl (advance true) done) s := by
  by_cases hplain : s = [] ∨ s = current
  · simp [advance, hplain]
  by_cases hparent : s = parent
  · subst hparent
    cases D with
    | nil => simp [advance, hplain]
    | cons last rest =>
      by_cases hlast : last = parent
      · subst hlast
        simp [advance, hplain]
      · have hname : IsName last := by
          obtain ⟨k, names, heq, _, hn⟩ := hD
          have hmem : last ∈ List.replicate k parent ++ names := by
            rw [← heq]
            simp
          rcases List.mem_append.1 hmem with hmem | hmem
          · exact absurd (List.eq_of_mem_replicate hmem) hlast
          · exact hn last hmem
        rw [List.reverse_cons, List.foldl_append, List.foldl_cons, List.foldl_nil,
          advance_name hname]
        simp [advance, hplain, hlast]
  · have hcons (rooted : Bool) (done : List Bytes) : advance rooted done s = s :: done := by
      simp [advance, hplain, hparent]
    rw [hcons, List.reverse_cons, List.foldl_append]
    rfl

/-- What was evaluated from the current directory leads the same way as what it was evaluated
from. -/
theorem foldl_advance_evaluate {X : List Bytes} (hX : ∀ s ∈ X, Byte.slash ∉ s) (done : List Bytes) :
    (evaluate false X).foldl (advance true) done = X.foldl (advance true) done := by
  suffices h : ∀ D, Normal false D.reverse →
      (X.foldl (advance false) D).reverse.foldl (advance true) done =
        X.foldl (advance true) (D.reverse.foldl (advance true) done) from
    h [] (.of_names (by simp) _)
  induction X with
  | nil => exact fun _ _ => rfl
  | cons s X ih =>
    intro D hD
    have hs := hX s List.mem_cons_self
    rw [List.foldl_cons, List.foldl_cons, ← foldl_advance_reverse hD]
    exact ih (fun s hs => hX s (List.mem_cons_of_mem _ hs)) _ (normal_advance hD hs)

/-! ## Spellings -/

section

variable {rooted : Bool} {X N : List Bytes}

theorem spell_true (X : List Bytes) : spell true X = Byte.slash :: joinWith [Byte.slash] X := rfl

theorem spell_false (h : X ≠ []) : spell false X = joinWith [Byte.slash] X := by
  simp [spell, h]

theorem spell_ne_nil (h : Normal rooted X) : spell rooted X ≠ [] := by
  cases rooted with
  | true => simp [spell]
  | false =>
    by_cases hX : X = []
    · subst hX
      decide
    · rw [spell_false hX]
      intro heq
      have := split_joinWith hX h.no_slash
      rw [heq] at this
      exact h.ne_nil [] (by rw [← this]; simp [split]) rfl

theorem isAbsolute_spell (h : Normal rooted X) : isAbsolute (spell rooted X) = rooted := by
  cases rooted with
  | true => rfl
  | false =>
    cases X with
    | nil => decide
    | cons s X =>
      have hs := h.no_slash s List.mem_cons_self
      have hne := h.ne_nil s List.mem_cons_self
      rw [spell_false (List.cons_ne_nil _ _)]
      cases s with
      | nil => exact absurd rfl hne
      | cons c s =>
        have hc : c ≠ Byte.slash := fun hc => hs (by simp [hc])
        cases X with
        | nil => simp [joinWith_singleton, isAbsolute, hc]
        | cons t X => simp [joinWith_cons_cons, isAbsolute, hc]

/-- A spelling is cut into its segments; the root stands in front as an empty one. -/
theorem split_spell (h : Normal rooted X) (hX : X ≠ []) :
    (spell rooted X).split Byte.slash = (if rooted then [[]] else []) ++ X := by
  cases rooted with
  | true =>
    rw [spell_true, split_cons_sep, split_joinWith hX h.no_slash]
    rfl
  | false =>
    rw [spell_false hX, split_joinWith hX h.no_slash]
    rfl

theorem segments_spell (h : Normal rooted X) : segments (spell rooted X) = X := by
  rw [segments, isAbsolute_spell h]
  by_cases hX : X = []
  · subst hX
    cases rooted <;> decide
  · rw [split_spell h hX]
    cases rooted with
    | true =>
      have : evaluate true ([[]] ++ X) = evaluate true X := by simp [evaluate, advance]
      exact this.trans h.evaluate
    | false => exact h.evaluate

theorem clean_spell (h : Normal rooted X) : clean (spell rooted X) = spell rooted X := by
  rw [clean, isAbsolute_spell h, segments_spell h]

theorem clean_clean (p : Bytes) : clean (clean p) = clean p := clean_spell (normal_segments p)

theorem clean_ne_nil (p : Bytes) : clean p ≠ [] := spell_ne_nil (normal_segments p)

theorem clean_absolute {p : Bytes} (h : isAbsolute p = true) :
    (∀ n ∈ segments p, IsName n) ∧ clean p = spell true (segments p) := by
  have hnormal := normal_segments p
  rw [h] at hnormal
  exact ⟨hnormal.names, by rw [clean, h]⟩

theorem segments_clean (p : Bytes) : segments (clean p) = segments p :=
  segments_spell (normal_segments p)

theorem isAbsolute_clean (p : Bytes) : isAbsolute (clean p) = isAbsolute p :=
  isAbsolute_spell (normal_segments p)

theorem spell_sublist {X Y : List Bytes} (h : X.Sublist Y) : (spell true X).Sublist (spell true Y) := by
  have hflat {X : List Bytes} (hX : X ≠ []) : spell true X = X.flatMap (Byte.slash :: ·) := by
    rw [spell_true]
    induction X with
    | nil => exact absurd rfl hX
    | cons s X ih =>
      cases X with
      | nil => simp [joinWith_singleton]
      | cons t X =>
        rw [joinWith_cons_cons, List.flatMap_cons, ← ih (List.cons_ne_nil t X)]
        rfl
  by_cases hX : X = []
  · subst hX
    rw [spell_true]
    exact (List.nil_sublist _).cons_cons _
  · have hY : Y ≠ [] := by
      rintro rfl
      exact hX (List.sublist_nil.1 h)
    rw [hflat hX, hflat hY]
    exact h.flatMap _

theorem clean_sublist {p : Bytes} (h : isAbsolute p = true) : (clean p).Sublist p := by
  cases p with
  | nil => cases h
  | cons c p =>
    obtain rfl : c = Byte.slash := by simpa [isAbsolute] using h
    have hsegments : (segments (Byte.slash :: p)).Sublist (split Byte.slash p) := by
      have hsub := foldl_advance_sublist (split Byte.slash p) []
      rw [segments, h, split_cons_sep, evaluate, List.foldl_cons, advance_idle (.inl rfl)]
      exact hsub
    have hspell := spell_sublist hsegments
    rwa [spell_true (split Byte.slash p), joinWith_split, ← h] at hspell

/-- One path behind another goes on where the first ends. -/
theorem segments_append {a : Bytes} (ha : a ≠ []) (b : Bytes) :
    segments (a ++ Byte.slash :: b) =
      ((b.split Byte.slash).foldl (advance (isAbsolute a)) (segments a).reverse).reverse := by
  have habs : isAbsolute (a ++ Byte.slash :: b) = isAbsolute a := by
    cases a with
    | nil => exact absurd rfl ha
    | cons c a => rfl
  rw [segments, habs, split_append_sep, evaluate, List.foldl_append, segments, evaluate,
    List.reverse_reverse]

theorem join_eq {a : Bytes} (ha : a ≠ []) (b : Bytes) :
    join a b = clean (a ++ Byte.slash :: b) := by simp [join, ha]

theorem isAbsolute_join {a : Bytes} (ha : a ≠ []) (b : Bytes) :
    isAbsolute (join a b) = isAbsolute a := by
  rw [join_eq ha, isAbsolute_clean]
  cases a with
  | nil => exact absurd rfl ha
  | cons c a => rfl

theorem join_names {a : Bytes} (ha : a ≠ []) (hne : N ≠ []) (hN : ∀ n ∈ N, IsName n) :
    join a (spell false N) = spell (isAbsolute a) (segments a ++ N) := by
  have hsplit := split_spell (Normal.of_names hN false) hne
  have hsegments : segments (a ++ Byte.slash :: spell false N) = segments a ++ N := by
    rw [segments_append ha, hsplit]
    simp [foldl_advance_names hN]
  have habs := isAbsolute_join ha (spell false N)
  rw [join_eq ha, isAbsolute_clean] at habs
  rw [join_eq ha, clean, habs, hsegments]

/-! ## Parents -/

theorem spell_append (hX : X ≠ []) (hN : N ≠ []) :
    spell rooted (X ++ N) = spell rooted X ++ Byte.slash :: joinWith [Byte.slash] N := by
  cases rooted with
  | true => simp [spell_true, joinWith_append _ hX hN]
  | false =>
    have hXN : X ++ N ≠ [] := by simp [hX]
    simp [spell_false hX, spell_false hXN, joinWith_append _ hX hN]

theorem upToSlash_append {p n : Bytes} (hn : Byte.slash ∉ n) :
    upToSlash (p ++ Byte.slash :: n) = p ++ [Byte.slash] := by
  have hrev : ∀ c ∈ n.reverse, (c != Byte.slash) = true := by
    intro c hc
    have : c ≠ Byte.slash := fun h => hn (h ▸ List.mem_reverse.1 hc)
    simpa using this
  rw [upToSlash, List.reverse_append, List.reverse_cons, List.append_assoc,
    List.dropWhile_append_of_pos hrev]
  simp

theorem clean_append_slash {p : Bytes} (hp : p ≠ []) : clean (p ++ [Byte.slash]) = clean p := by
  have habs : isAbsolute (p ++ [Byte.slash]) = isAbsolute p := by
    cases p with
    | nil => exact absurd rfl hp
    | cons c p => rfl
  have hsegments : segments (p ++ [Byte.slash]) = segments p := by
    rw [segments_append hp]
    simp [split, advance]
  rw [clean, clean, habs, hsegments]

theorem dir_spell {n : Bytes} (h : Normal rooted X) (hn : IsName n) :
    dir (spell rooted (X ++ [n])) = spell rooted X := by
  by_cases hX : X = []
  · subst hX
    rw [List.nil_append]
    have hslash : ∀ c ∈ n.reverse, (c != Byte.slash) = true := by
      intro c hc
      have : c ≠ Byte.slash := fun h => hn.no_slash (h ▸ List.mem_reverse.1 hc)
      simpa using this
    cases rooted with
    | true =>
      rw [spell_true, joinWith_singleton, dir]
      have := upToSlash_append (p := []) hn.no_slash
      rw [List.nil_append, List.nil_append] at this
      rw [this]
      decide
    | false =>
      have hnil : (n.reverse ++ []).dropWhile (· != Byte.slash) = [] :=
        List.dropWhile_append_of_pos hslash
      rw [List.append_nil] at hnil
      rw [spell_false (List.cons_ne_nil _ _), joinWith_singleton, dir, upToSlash, hnil]
      decide
  · rw [spell_append hX (List.cons_ne_nil _ _), joinWith_singleton, dir,
      upToSlash_append hn.no_slash, clean_append_slash (spell_ne_nil h), clean_spell h]

end

/-! ## Bases and relative paths -/

theorem dropCommon_append (R N : List Bytes) : dropCommon R (R ++ N) = ([], N) := by
  induction R with
  | nil => cases N <;> rfl
  | cons s R ih => simpa [dropCommon] using ih

theorem exists_dropCommon (A B : List Bytes) :
    ∃ common, A = common ++ (dropCommon A B).1 ∧ B = common ++ (dropCommon A B).2 := by
  induction A generalizing B with
  | nil => exact ⟨[], by cases B <;> exact ⟨rfl, rfl⟩⟩
  | cons a A ih =>
    cases B with
    | nil => exact ⟨[], rfl, rfl⟩
    | cons b B =>
      rw [dropCommon]
      split
      · rename_i hab
        obtain ⟨common, hA, hB⟩ := ih B
        exact ⟨a :: common, congrArg (a :: ·) hA, by rw [hab]; exact congrArg (b :: ·) hB⟩
      · exact ⟨[], rfl, rfl⟩

theorem relative?_spell {R N : List Bytes} (hR : ∀ n ∈ R, IsName n) (hN : ∀ n ∈ N, IsName n) :
    relative? (spell true R) (spell true (R ++ N)) = some (spell false N) := by
  have hR := Normal.of_names hR true
  rw [relative?, isAbsolute_spell hR, isAbsolute_spell (hR.append hN), segments_spell hR,
    segments_spell (hR.append hN), dropCommon_append]
  simp

theorem isAbsolute_dir {p : Bytes} (h : isAbsolute p = true) : isAbsolute (dir p) = true := by
  rw [dir, isAbsolute_clean]
  cases p with
  | nil => cases h
  | cons c p =>
    obtain rfl : c = Byte.slash := by simpa [isAbsolute] using h
    rw [upToSlash, List.reverse_cons, List.dropWhile_append]
    split <;> simp [isAbsolute]

theorem clean_base (origin target : Bytes) : clean (base origin target) = base origin target := by
  rw [base]
  split
  · exact clean_clean target
  · have hne : dir origin ≠ [] := clean_ne_nil _
    rw [join_eq hne, clean_clean]

theorem base_spell {origin : Bytes} (h : isAbsolute origin = true) (target : Bytes) :
    ∃ X, (∀ n ∈ X, IsName n) ∧ base origin target = spell true X := by
  have hclean {p : Bytes} (hp : isAbsolute p = true) :
      ∃ X, (∀ n ∈ X, IsName n) ∧ clean p = spell true X := ⟨_, clean_absolute hp⟩
  rw [base]
  split
  · rename_i ht
    exact hclean ht
  · have hne : dir origin ≠ [] := clean_ne_nil _
    have hjoin := isAbsolute_join hne target
    rw [join_eq hne, isAbsolute_clean] at hjoin
    rw [join_eq hne]
    exact hclean (hjoin.trans (isAbsolute_dir h))

end Path

end Graft
