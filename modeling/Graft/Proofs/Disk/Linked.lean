import Graft.Proofs.Disk.Plain

/-!
# Graft.Proofs.Disk.Linked

Where paths lead on a disk with links. Following a path is a relation with one rule for each thing a
segment can come to; a link goes on along its target, with one link less to follow.

* `Leads`, `leads_iff`: the relation, and that it is what `follow` computes.
* `Leads.append`: what leads along two pieces leads along the first to a directory.
* `Leads.trimmed`, `Leads.straight`: paths without steps up, and disks without links.
* `Leads.item?`: on a tree a path leads to what stands there.
* `Sealed`, `Leads.sealed`: a directory that no link leads out of.
* `locate_spell_found_iff`, `locate_clean_found`: where spelled and clean paths lead.
-/

namespace Graft.Disk

open Graft.Path (Idle IsName Normal advance)

variable {d : Disk}

/-! ## Following -/

/-- A segment that names something in a directory. -/
structure IsStep (segment : Bytes) : Prop where
  not_idle : ¬ Idle segment
  ne_parent : segment ≠ Path.parent
  length : segment.length ≤ maxName

/-- The directory the target of a link starts from. -/
def start (target : Bytes) (here : List Bytes) : List Bytes :=
  if Path.isAbsolute target then [] else here

variable (d) in
/-- From a directory the segments lead to an entry, over at most so many links. -/
inductive Leads : Nat → List Bytes → List Bytes → List Bytes → Entry → Prop where
  | here {n : Nat} {here : List Bytes} : Leads n here [] here .directory
  | stay {n : Nat} {here rest S : List Bytes} {segment : Bytes} {e : Entry}
      (hs : Idle segment) (h : Leads n here rest S e) : Leads n here (segment :: rest) S e
  | up {n : Nat} {here rest S : List Bytes} {e : Entry} (h : Leads n here.dropLast rest S e) :
      Leads n here (Path.parent :: rest) S e
  | down {n : Nat} {here rest S : List Bytes} {segment : Bytes} {e : Entry} (hs : IsStep segment)
      (hi : d.item? (here ++ [segment]) = some .directory) (h : Leads n (here ++ [segment]) rest S e) :
      Leads n here (segment :: rest) S e
  | file {n : Nat} {here : List Bytes} {segment content : Bytes} (hs : IsStep segment)
      (hi : d.item? (here ++ [segment]) = some (.file content)) :
      Leads n here [segment] (here ++ [segment]) (.file content)
  | link {n : Nat} {here rest S : List Bytes} {segment target : Bytes} {e : Entry} (hs : IsStep segment)
      (hi : d.item? (here ++ [segment]) = some (.link target))
      (h : Leads n (start target here) (target.split Byte.slash ++ rest) S e) :
      Leads (n + 1) here (segment :: rest) S e

theorem follow_nil (n : Nat) (here : List Bytes) :
    d.follow true n here [] = .ok (.found here .directory) := by
  cases n <;> rw [follow, walk]

theorem follow_cons (n : Nat) (here : List Bytes) (segment : Bytes) (rest : List Bytes) :
    d.follow true n here (segment :: rest) =
      if Idle segment then d.follow true n here rest
      else if segment = Path.parent then d.follow true n here.dropLast rest
      else if maxName < segment.length then .error .nameTooLong
      else
        match d.item? (here ++ [segment]) with
        | none =>
          if rest.all List.isEmpty then .ok (.vacant (here ++ [segment]) (!rest.isEmpty))
          else .error .notFound
        | some .directory => d.follow true n (here ++ [segment]) rest
        | some (.file content) =>
          if rest.isEmpty then .ok (.found (here ++ [segment]) (.file content))
          else .error .notDirectory
        | some (.link target) =>
          match n with
          | 0 => .error .tooManyLinks
          | n + 1 => d.follow true n (start target here) (target.split Byte.slash ++ rest) := by
  have hstart (target : Bytes) :
      (if Path.isAbsolute target then [] else here) = start target here := rfl
  cases n with
  | zero =>
    rw [follow, walk]
    simp only [Bool.not_true, Bool.and_false, Bool.false_eq_true, if_false]
    rfl
  | succ n =>
    rw [follow, walk]
    simp only [Bool.not_true, Bool.and_false, Bool.false_eq_true, if_false, hstart]
    rfl

theorem Leads.follow {n : Nat} {here segments S : List Bytes} {e : Entry}
    (h : Leads d n here segments S e) : d.follow true n here segments = .ok (.found S e) := by
  induction h with
  | here => exact follow_nil _ _
  | stay hs _ ih => rw [follow_cons, if_pos hs, ih]
  | up _ ih => rw [follow_cons, if_neg (by decide), if_pos rfl, ih]
  | down hs hi _ ih =>
    rw [follow_cons, if_neg hs.not_idle, if_neg hs.ne_parent, if_neg (Nat.not_lt.2 hs.length), hi]
    exact ih
  | file hs hi =>
    rw [follow_cons, if_neg hs.not_idle, if_neg hs.ne_parent, if_neg (Nat.not_lt.2 hs.length), hi]
    rfl
  | link hs hi _ ih =>
    rw [follow_cons, if_neg hs.not_idle, if_neg hs.ne_parent, if_neg (Nat.not_lt.2 hs.length), hi]
    exact ih

theorem leads_iff {n : Nat} {here segments S : List Bytes} {e : Entry} :
    Leads d n here segments S e ↔ d.follow true n here segments = .ok (.found S e) := by
  refine ⟨Leads.follow, ?_⟩
  induction n using Nat.strongRecOn generalizing here segments with
  | ind n ih =>
    induction segments generalizing here with
    | nil =>
      intro h
      rw [follow_nil] at h
      cases h
      exact .here
    | cons segment rest ihs =>
      intro h
      rw [follow_cons] at h
      split at h
      · rename_i hs
        exact .stay hs (ihs h)
      rename_i hs
      split at h
      · rename_i hp
        subst hp
        exact .up (ihs h)
      rename_i hp
      split at h
      · cases h
      rename_i hlen
      have hstep : IsStep segment := ⟨hs, hp, Nat.not_lt.1 hlen⟩
      split at h
      · split at h <;> cases h
      · rename_i hi
        exact .down hstep hi (ihs h)
      · rename_i content hi
        split at h
        · rename_i hrest
          cases h
          rw [List.isEmpty_iff.1 hrest]
          exact .file hstep hi
        · cases h
      · rename_i target hi
        cases n with
        | zero => cases h
        | succ n => exact .link hstep hi (ih n (Nat.lt_succ_self n) h)

namespace Leads

variable {n : Nat} {here segments S R : List Bytes} {e : Entry}

theorem mono {m : Nat} (h : Leads d n here segments S e) (hle : n ≤ m) :
    Leads d m here segments S e := by
  induction h generalizing m with
  | here => exact .here
  | stay hs _ ih => exact .stay hs (ih hle)
  | up _ ih => exact .up (ih hle)
  | down hs hi _ ih => exact .down hs hi (ih hle)
  | file hs hi => exact .file hs hi
  | link hs hi _ ih =>
    have hpos := Nat.ne_of_gt (Nat.lt_of_lt_of_le (Nat.succ_pos _) hle)
    obtain ⟨m, rfl⟩ := Nat.exists_eq_succ_of_ne_zero hpos
    exact .link hs hi (ih (Nat.le_of_succ_le_succ hle))

/-- What leads along two pieces leads along the first to a directory, and from there along the other
with the links that are left. -/
theorem append {front rest : List Bytes} (h : Leads d n here (front ++ rest) S e) (hr : rest ≠ []) :
    ∃ through left, left ≤ n ∧ Leads d n here front through .directory ∧
      Leads d left through rest S e := by
  induction n using Nat.strongRecOn generalizing here front with
  | ind n ih =>
    induction front generalizing here with
    | nil => exact ⟨here, n, Nat.le_refl n, .here, h⟩
    | cons segment front ihf =>
      rw [List.cons_append] at h
      generalize hback : front ++ rest = back at h
      cases h with
      | stay hs h =>
        obtain ⟨through, left, hle, hfront, hrest⟩ := ihf (hback ▸ h)
        exact ⟨through, left, hle, .stay hs hfront, hrest⟩
      | up h =>
        obtain ⟨through, left, hle, hfront, hrest⟩ := ihf (hback ▸ h)
        exact ⟨through, left, hle, .up hfront, hrest⟩
      | down hs hi h =>
        obtain ⟨through, left, hle, hfront, hrest⟩ := ihf (hback ▸ h)
        exact ⟨through, left, hle, .down hs hi hfront, hrest⟩
      | file => exact absurd (List.append_eq_nil_iff.1 hback).2 hr
      | @link n _ _ _ _ target _ hs hi h =>
        rw [← hback, ← List.append_assoc] at h
        obtain ⟨through, left, hle, hfront, hrest⟩ := ih n (Nat.lt_succ_self n) h
        exact ⟨through, left, Nat.le_succ_of_le hle, .link hs hi hfront, hrest⟩

theorem trimmed (h : Leads d n here segments S e) :
    Leads d n here (segments.filter fun s => ¬ Idle s) S e := by
  suffices hback : ∀ front back, segments = front ++ back →
      Leads d n here (front ++ back.filter fun s => ¬ Idle s) S e from hback [] segments rfl
  have keeps {segment : Bytes} (hs : ¬ Idle segment) (rest : List Bytes) :
      ((segment :: rest).filter fun s => ¬ Idle s) = segment :: rest.filter fun s => ¬ Idle s := by
    rw [List.filter_cons_of_pos (by simpa using hs)]
  induction h with
  | here =>
    intro front back hsplit
    obtain ⟨rfl, rfl⟩ := List.append_eq_nil_iff.1 hsplit.symm
    exact .here
  | @stay _ _ _ _ segment _ hs _ ih =>
    intro front back hsplit
    rcases List.cons_eq_append_iff.1 hsplit with ⟨rfl, rfl⟩ | ⟨front, rfl, rfl⟩
    · rw [List.filter_cons_of_neg (by simpa using hs)]
      exact ih [] _ rfl
    · exact .stay hs (ih front back rfl)
  | up _ ih =>
    intro front back hsplit
    rcases List.cons_eq_append_iff.1 hsplit with ⟨rfl, rfl⟩ | ⟨front, rfl, rfl⟩
    · rw [keeps (by decide)]
      exact .up (ih [] _ rfl)
    · exact .up (ih front back rfl)
  | down hs hi _ ih =>
    intro front back hsplit
    rcases List.cons_eq_append_iff.1 hsplit with ⟨rfl, rfl⟩ | ⟨front, rfl, rfl⟩
    · rw [keeps hs.not_idle]
      exact .down hs hi (ih [] _ rfl)
    · exact .down hs hi (ih front back rfl)
  | file hs hi =>
    intro front back hsplit
    rcases List.cons_eq_append_iff.1 hsplit with ⟨rfl, rfl⟩ | ⟨front, rfl, hnil⟩
    · rw [keeps hs.not_idle]
      exact .file hs hi
    · obtain ⟨rfl, rfl⟩ := List.append_eq_nil_iff.1 hnil.symm
      exact .file hs hi
  | @link _ _ _ _ _ target _ hs hi _ ih =>
    intro front back hsplit
    rcases List.cons_eq_append_iff.1 hsplit with ⟨rfl, rfl⟩ | ⟨front, rfl, rfl⟩
    · rw [keeps hs.not_idle]
      exact .link hs hi (ih (target.split Byte.slash) _ rfl)
    · have hmore := ih (target.split Byte.slash ++ front) back (List.append_assoc ..).symm
      rw [List.append_assoc] at hmore
      exact .link hs hi hmore

end Leads

theorem Leads.item? (hd : d.Tree) {n : Nat} {here segments S : List Bytes} {e : Entry}
    (h : Leads d n here segments S e) (hhere : d.item? here = some .directory) :
    d.item? S = some e := by
  induction h with
  | here => exact hhere
  | stay _ _ ih => exact ih hhere
  | @up _ here _ _ _ _ ih =>
    rcases List.eq_nil_or_concat here with rfl | ⟨here, name, rfl⟩
    · exact ih rfl
    · rw [List.concat_eq_append] at hhere ih
      rw [List.dropLast_concat] at ih
      exact ih (hd.above hhere)
  | down _ hi _ ih => exact ih hi
  | file _ hi => exact hi
  | @link _ here _ _ _ target _ _ _ _ ih =>
    refine ih ?_
    rw [start]
    split
    · rfl
    · exact hhere

/-! ## Directories that no link leads out of -/

/-- Every link at or below a directory that leads somewhere leads to or below the directory. -/
def Sealed (d : Disk) (R : List Bytes) : Prop :=
  ∀ here name target, R <+: here → d.item? (here ++ [name]) = some (.link target) →
    ∀ spot e, d.follow true maxLinks here [name] = .ok (.found spot e) → R <+: spot

/-- Whether an entry is no link at or below a directory, or one that does not lead out of it. -/
def staysWithin (d : Disk) (R : List Bytes) (x : List Bytes × Entry) : Bool :=
  match x.2, x.1.getLast? with
  | .link _, some name =>
    !R.isPrefixOf x.1.dropLast ||
      match d.follow true maxLinks x.1.dropLast [name] with
      | .ok (.found spot _) => R.isPrefixOf spot
      | _ => true
  | _, _ => true

theorem sealed_of_staysWithin {R : List Bytes} (h : ∀ x ∈ d.entries, d.staysWithin R x = true) :
    d.Sealed R := by
  intro here name target hin hi spot e hf
  rw [item?_of_ne_nil d (by simp)] at hi
  have hentry := h _ (mem_of_lookup hi)
  simpa [staysWithin, List.isPrefixOf_iff_prefix.2 hin, hf] using hentry

theorem Leads.sealed {n : Nat} {here segments S R : List Bytes} {e : Entry} (hr : d.Sealed R)
    (h : Leads d n here segments S e) (hn : n ≤ maxLinks) (hin : R <+: here)
    (hup : Path.parent ∉ segments) : R <+: S := by
  induction n using Nat.strongRecOn generalizing here segments with
  | ind n ih =>
    induction segments generalizing here with
    | nil =>
      cases h
      exact hin
    | cons segment rest ihs =>
      rw [List.mem_cons, not_or] at hup
      have hbelow : R <+: here ++ [segment] := hin.trans (List.prefix_append ..)
      cases h with
      | stay _ h => exact ihs h hin hup.2
      | up h => exact absurd rfl hup.1
      | down _ _ h => exact ihs h hbelow hup.2
      | file => exact hbelow
      | @link n _ _ _ _ target _ hs hi h =>
        by_cases hrest : rest = []
        · subst hrest
          exact hr here segment target hin hi S e ((Leads.link hs hi h).mono hn).follow
        · obtain ⟨through, left, hle, hfront, hbehind⟩ := h.append hrest
          rw [← List.append_nil (target.split Byte.slash)] at hfront
          have hthrough : R <+: through :=
            hr here segment target hin hi through .directory ((Leads.link hs hi hfront).mono hn).follow
          have hlt : left < n + 1 := Nat.lt_succ_of_le hle
          exact ih left hlt hbehind (Nat.le_trans (Nat.le_of_lt hlt) hn) hthrough hup.2

/-! ## Disks without links -/

def Linkless (d : Disk) : Prop := ∀ S target, d.item? S ≠ some (.link target)

theorem Linkless.sealed (hd : d.Linkless) (R : List Bytes) : d.Sealed R :=
  fun _ _ _ _ hi => absurd hi (hd _ _)

variable (d) in
/-- Everything on the way to a directory is one. -/
def Reached (here : List Bytes) : Prop :=
  ∀ above name, above ++ [name] <+: here → IsStep name ∧ d.item? (above ++ [name]) = some .directory

section

variable {n : Nat} {here segments S : List Bytes} {e : Entry}

theorem Reached.dropLast (h : Reached d here) : Reached d here.dropLast :=
  fun above name hp => h above name (hp.trans (List.dropLast_prefix here))

theorem Reached.concat {segment : Bytes} (h : Reached d here) (hs : IsStep segment)
    (hi : d.item? (here ++ [segment]) = some .directory) : Reached d (here ++ [segment]) := by
  intro above name hp
  rcases List.prefix_concat_iff.1 hp with heq | hp
  · obtain ⟨rfl, hname⟩ := List.append_inj' heq rfl
    cases hname
    exact ⟨hs, hi⟩
  · exact h above name hp

theorem Reached.leads {below : List Bytes} (h : Reached d (here ++ below))
    (hl : Leads d n (here ++ below) segments S e) : Leads d n here (below ++ segments) S e := by
  induction below generalizing here with
  | nil => rwa [List.append_nil] at hl
  | cons name below ih =>
    rw [List.append_cons] at h hl
    obtain ⟨hs, hi⟩ := h here name (List.prefix_append ..)
    exact .down hs hi (ih h hl)

/-- Without links a path leads where its segments do, and is not longer than they are. -/
theorem Leads.straight (hd : d.Linkless) (h : Leads d n here segments S e) (hr : Reached d here) :
    S = (segments.foldl (advance true) here.reverse).reverse ∧ Leads d 0 [] S S e := by
  have within {here segments : List Bytes} {e : Entry} (hr : Reached d here)
      (h : Leads d 0 here segments (here ++ segments) e) :
      Leads d 0 [] (here ++ segments) (here ++ segments) e :=
    (show Reached d ([] ++ here) from hr).leads h
  induction h with
  | @here _ here =>
    rw [List.foldl_nil, List.reverse_reverse]
    have hhere : Leads d 0 here [] (here ++ []) .directory := by
      rw [List.append_nil]
      exact .here
    have := within hr hhere
    rw [List.append_nil] at this
    exact ⟨rfl, this⟩
  | stay hs _ ih =>
    rw [List.foldl_cons, Path.advance_idle hs]
    exact ih hr
  | @up _ here _ _ _ _ ih =>
    have hne : ∀ name ∈ here, name ≠ Path.parent := by
      intro name hmem
      obtain ⟨above, below, hsplit⟩ := List.append_of_mem hmem
      exact (hr above name ⟨below, by rw [hsplit]; simp⟩).1.ne_parent
    rw [List.foldl_cons, Path.advance_parent hne]
    exact ih hr.dropLast
  | down hs hi _ ih =>
    rw [List.foldl_cons, Path.advance_step hs.not_idle hs.ne_parent, ← List.reverse_concat]
    exact ih (hr.concat hs hi)
  | file hs hi =>
    rw [List.foldl_cons, List.foldl_nil, Path.advance_step hs.not_idle hs.ne_parent,
      ← List.reverse_concat, List.reverse_reverse]
    exact ⟨rfl, within hr (.file hs hi)⟩
  | link _ hi _ _ => exact absurd hi (hd _ _)

end

/-! ## Paths -/

theorem textFault?_of_sublist {s t : Bytes} (h : s.Sublist t) (ht : textFault? t = none) :
    textFault? s = none := by
  unfold textFault? at ht ⊢
  split at ht
  · cases ht
  rename_i hnul
  split at ht
  · cases ht
  rename_i hlen
  have hnul' : ¬ s.contains Byte.nul = true := by
    intro hs
    exact hnul (by simpa using h.subset (by simpa using hs))
  rw [if_neg hnul', if_neg fun hs => hlen (Nat.lt_of_lt_of_le hs h.length_le)]

section

variable {path : Bytes} {S X : List Bytes} {e : Entry}

theorem locate_found_iff (h : Path.isAbsolute path = true) :
    d.locate true path = .ok (.found S e) ↔
      textFault? path = none ∧ Leads d maxLinks [] (path.split Byte.slash) S e := by
  have hne : path.isEmpty = false := by
    cases path with
    | nil => cases h
    | cons => rfl
  rw [locate, textFault?, hne, h, leads_iff]
  split
  · simp at *
  split
  · simp
  split
  · simp
  · simp

theorem item?_of_locate (hd : d.Tree) (habs : Path.isAbsolute path = true)
    (h : d.locate true path = .ok (.found S e)) : d.item? S = some e :=
  ((locate_found_iff habs).1 h).2.item? hd rfl

theorem leads_idle_iff {n : Nat} {here rest : List Bytes} {segment : Bytes} (hs : Idle segment) :
    Leads d n here (segment :: rest) S e ↔ Leads d n here rest S e := by
  rw [leads_iff, leads_iff, follow_cons, if_pos hs]

theorem locate_spell_found_iff (hX : ∀ n ∈ X, IsName n) :
    d.locate true (Path.spell true X) = .ok (.found S e) ↔
      textFault? (Path.spell true X) = none ∧ Leads d maxLinks [] X S e := by
  have hnormal := Normal.of_names hX true
  have hempty : Idle [] := .inl rfl
  rw [locate_found_iff (Path.isAbsolute_spell hnormal)]
  refine and_congr_right fun _ => ?_
  by_cases hnil : X = []
  · subst hnil
    have hsplit : (Path.spell true []).split Byte.slash = [[], []] := by decide
    rw [hsplit, leads_idle_iff hempty, leads_idle_iff hempty]
  · rw [Path.split_spell hnormal hnil, if_pos rfl, List.singleton_append, leads_idle_iff hempty]

/-- Where a path leads its clean spelling leads as well, unless a step up takes back a link. -/
theorem locate_clean_found (h : Path.isAbsolute path = true)
    (hf : d.locate true path = .ok (.found S e))
    (hup : Path.parent ∉ path.split Byte.slash ∨ d.Linkless) :
    d.locate true (Path.clean path) = .ok (.found S e) := by
  obtain ⟨hfault, hleads⟩ := (locate_found_iff h).1 hf
  have hsegments : Path.segments path =
      ((path.split Byte.slash).foldl (advance true) []).reverse := by
    rw [Path.segments, h, Path.evaluate]
  obtain ⟨hnames, hclean⟩ := Path.clean_absolute h
  rw [hclean, locate_spell_found_iff hnames, ← hclean]
  refine ⟨textFault?_of_sublist (Path.clean_sublist h) hfault, ?_⟩
  rcases hup with hup | hd
  · rw [hsegments, Path.foldl_advance_of_no_parent hup, List.append_nil, List.reverse_reverse]
    exact hleads.trimmed
  · have hroot : Reached d [] := fun above name hp => absurd (List.prefix_nil.1 hp) (by simp)
    obtain ⟨hspot, hshort⟩ := hleads.straight hd hroot
    rw [hsegments, ← List.reverse_nil, ← hspot]
    exact hshort.mono (Nat.zero_le _)

end

end Graft.Disk
