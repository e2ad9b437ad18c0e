import Graft.Proofs.Path.Spelled

/-!
# Graft.Proofs.Path.Evaluated

Where a path leads, told from its segments alone: a name goes down, `..` goes back up and stays at the
root, an empty segment and `.` go nowhere.

* `proceed`: the place that segments lead to from a place.
* `placeOf`, `basePlace`: the places of an absolute path and of a base.
* `Canonical`: absolute paths in their only clean spelling.
* `clean_eq_spell`, `base_eq_spell`: cleaned paths and bases are spelled from their places.
-/

namespace Graft.Path

open Bytes

/-- Where segments lead from a place. `..` drops the last name and stays at the root. -/
def proceed (place : List Bytes) : List Bytes → List Bytes
  | [] => place
  | s :: rest =>
    if s = [] ∨ s = current then proceed place rest
    else if s = parent then proceed place.dropLast rest
    else proceed (place ++ [s]) rest

def placeOf (p : Bytes) : List Bytes := proceed [] (p.split Byte.slash)

/-- The place of the directory of an absolute path: the last segment is left out. -/
def dirPlace (p : Bytes) : List Bytes := proceed [] (p.split Byte.slash).dropLast

/-- The place of a base: from the root if its target is absolute, from the directory of the component
otherwise. -/
def basePlace (origin target : Bytes) : List Bytes :=
  proceed (if isAbsolute target then [] else dirPlace origin) (target.split Byte.slash)

/-- An absolute path without an empty segment, `.` or `..`; only the root ends with a slash. -/
structure Canonical (p : Bytes) : Prop where
  absolute : isAbsolute p = true
  fixed : clean p = p
  segments : p ≠ [Byte.slash] → ∀ s ∈ (p.split Byte.slash).tail, IsName s
  trailing : p.getLast? = some Byte.slash → p = [Byte.slash]

/-! ## Places -/

section

variable {place X : List Bytes}

theorem foldl_advance_eq_proceed (hplace : ∀ n ∈ place, IsName n) (hX : ∀ s ∈ X, Byte.slash ∉ s) :
    X.foldl (advance true) place.reverse = (proceed place X).reverse := by
  induction X generalizing place with
  | nil => rfl
  | cons s X ih =>
    have hrest : ∀ s ∈ X, Byte.slash ∉ s := fun t ht => hX t (List.mem_cons_of_mem _ ht)
    rw [List.foldl_cons, proceed]
    split
    · rename_i hidle
      rw [advance_idle hidle, ih hplace hrest]
    rename_i hidle
    split
    · rename_i hparent
      subst hparent
      rw [advance_parent fun n hn => (hplace n hn).ne_parent]
      exact ih (fun n hn => hplace n (List.dropLast_subset _ hn)) hrest
    · rename_i hparent
      rw [not_or] at hidle
      have hname : IsName s := ⟨hidle.1, hidle.2, hparent, hX s List.mem_cons_self⟩
      have hnext : ∀ n ∈ place ++ [s], IsName n := by
        intro n hn
        rcases List.mem_append.1 hn with hn | hn
        · exact hplace n hn
        · rwa [List.mem_singleton.1 hn]
      have hturned : s :: place.reverse = (place ++ [s]).reverse := by simp
      rw [advance_name hname, hturned, ih hnext hrest]

theorem evaluate_eq_proceed (hX : ∀ s ∈ X, Byte.slash ∉ s) : evaluate true X = proceed [] X := by
  have hroot : ∀ n ∈ ([] : List Bytes), IsName n := by simp
  have h : X.foldl (advance true) [] = (proceed [] X).reverse := foldl_advance_eq_proceed hroot hX
  rw [evaluate, h, List.reverse_reverse]

theorem proceed_names (hplace : ∀ n ∈ place, IsName n) (hX : ∀ s ∈ X, Byte.slash ∉ s) :
    ∀ n ∈ proceed place X, IsName n := by
  have hnormal : Normal true place.reverse.reverse := by
    rw [List.reverse_reverse]
    exact .of_names hplace true
  have h := normal_foldl_advance hX hnormal
  rw [foldl_advance_eq_proceed hplace hX, List.reverse_reverse] at h
  exact h.names

end

theorem segments_eq_placeOf {p : Bytes} (h : isAbsolute p = true) : segments p = placeOf p := by
  rw [segments, h, placeOf]
  exact evaluate_eq_proceed fun _ => not_mem_of_mem_split

theorem dirPlace_names (p : Bytes) : ∀ n ∈ dirPlace p, IsName n :=
  proceed_names (by simp) fun _ hs => not_mem_of_mem_split (List.dropLast_subset _ hs)

theorem placeOf_names (p : Bytes) : ∀ n ∈ placeOf p, IsName n :=
  proceed_names (by simp) fun _ => not_mem_of_mem_split

theorem basePlace_names (origin target : Bytes) : ∀ n ∈ basePlace origin target, IsName n := by
  refine proceed_names ?_ fun _ => not_mem_of_mem_split
  split
  · simp
  · exact dirPlace_names origin

theorem segments_upToSlash {p : Bytes} (h : isAbsolute p = true) :
    segments (upToSlash p) = dirPlace p := by
  have hmem : Byte.slash ∈ p.reverse := by
    cases p with
    | nil => cases h
    | cons c p =>
      obtain rfl : c = Byte.slash := by simpa [isAbsolute] using h
      simp
  -- the last slash is the first one from behind
  obtain ⟨n, front, hp, hn⟩ := List.eq_append_cons_of_mem hmem
  have hp : p = front.reverse ++ Byte.slash :: n.reverse := by
    rw [← List.reverse_reverse p, hp]
    simp
  have hn : Byte.slash ∉ n.reverse := by simpa using hn
  have hup := upToSlash_append (p := front.reverse) hn
  have habs : isAbsolute (front.reverse ++ [Byte.slash]) = true := by
    rw [hp] at h
    cases hf : front.reverse with
    | nil => rfl
    | cons c f =>
      rw [hf] at h
      exact h
  have hcut : split Byte.slash (front.reverse ++ [Byte.slash]) =
      split Byte.slash front.reverse ++ [[]] := split_append_sep _ []
  have hslashes : ∀ s ∈ split Byte.slash front.reverse, Byte.slash ∉ s :=
    fun _ => not_mem_of_mem_split
  rw [hp, hup, dirPlace, split_append_sep, split_of_not_mem hn, List.dropLast_concat, segments, habs,
    hcut, ← evaluate_eq_proceed hslashes, evaluate, evaluate, List.foldl_append, List.foldl_cons,
    List.foldl_nil, advance_idle (.inl rfl)]

/-! ## Spellings -/

theorem clean_eq_spell {p : Bytes} (h : isAbsolute p = true) : clean p = spell true (placeOf p) := by
  rw [← segments_eq_placeOf h]
  exact (clean_absolute h).2

theorem base_eq_spell {origin : Bytes} (h : isAbsolute origin = true) (target : Bytes) :
    base origin target = spell true (basePlace origin target) := by
  rw [base, basePlace]
  split
  · rename_i ht
    rw [clean_eq_spell ht]
    rfl
  · have hdir : isAbsolute (dir origin) = true := isAbsolute_dir h
    have hsegments : segments (dir origin) = dirPlace origin := by
      rw [dir, segments_clean, segments_upToSlash h]
    have hne : dir origin ≠ [] := clean_ne_nil _
    have habs := isAbsolute_join hne target
    rw [join_eq hne, isAbsolute_clean, hdir] at habs
    rw [join_eq hne, clean, habs, segments_append hne, hdir, hsegments,
      foldl_advance_eq_proceed (dirPlace_names origin) fun _ => not_mem_of_mem_split,
      List.reverse_reverse]

theorem spell_injective {X Y : List Bytes} (hX : ∀ n ∈ X, IsName n) (hY : ∀ n ∈ Y, IsName n) :
    spell true X = spell true Y ↔ X = Y := by
  refine ⟨fun h => ?_, fun h => by rw [h]⟩
  rw [← segments_spell (.of_names hX true), h, segments_spell (.of_names hY true)]

theorem canonical_spell {X : List Bytes} (hX : ∀ n ∈ X, IsName n) : Canonical (spell true X) := by
  have hnormal := Normal.of_names hX true
  by_cases hroot : X = []
  · subst hroot
    exact ⟨rfl, clean_spell hnormal, fun h => absurd rfl h, fun _ => rfl⟩
  · have hcut : split Byte.slash (spell true X) = [] :: X := split_spell hnormal hroot
    refine ⟨isAbsolute_spell hnormal, clean_spell hnormal, fun _ s hs => ?_, fun hlast => ?_⟩
    · rw [hcut, List.tail_cons] at hs
      exact hX s hs
    · obtain ⟨front, hfront⟩ := List.getLast?_eq_some_iff.1 hlast
      rw [hfront, split_append_sep] at hcut
      have hend := congrArg List.getLast? hcut
      rw [List.getLast?_append, List.getLast?_cons_of_ne_nil hroot] at hend
      have hmem : [] ∈ X := List.mem_of_getLast? hend.symm
      exact absurd rfl (hX [] hmem).ne_nil

end Graft.Path
