import Graft.Proofs.Disk.Tree

/-!
# Graft.Proofs.Disk.Plain

Disks without links. Where a clean path leads is told from its segments alone: no step is taken back
and no step leads elsewhere.

* `Disk.Plain`: a tree of files and directories.
* `Disk.spot`: the segments of the absolute path of a text.
* `Disk.reach`, `locate_clean`: where a clean path leads.
* `locate_there`, `locate_vacant`, `locate_absent`: the same, told from the entries.
-/

namespace Graft.Disk

open Graft.Path (IsName Normal advance)

/-! ## Entries -/

/-- A tree of files and directories: each entry has a name a file can have, lies in a directory, and
is no link. The working directory is one of the directories. -/
structure Plain (d : Disk) : Prop where
  named : ∀ x ∈ d.entries, x.1 ≠ [] ∧ ∀ n ∈ x.1, IsName n ∧ n.length ≤ maxName
  closed : ∀ x ∈ d.entries, d.item? x.1.dropLast = some .directory
  linkless : ∀ x ∈ d.entries, ∀ target, x.2 ≠ .link target
  distinct : (d.entries.map Prod.fst).Nodup
  home : d.item? d.workingDir = some .directory

theorem file_ne_link (content target : Bytes) : Entry.file content ≠ .link target := nofun

theorem directory_ne_link (target : Bytes) : Entry.directory ≠ .link target := nofun

theorem not_ne_link (target : Bytes) : ¬ ∀ other, Entry.link target ≠ .link other :=
  fun h => h target rfl

instance (e : Entry) : Decidable (∀ target, e ≠ .link target) :=
  match e with
  | .file content => isTrue (file_ne_link content)
  | .directory => isTrue directory_ne_link
  | .link target => isFalse (not_ne_link target)

instance (d : Disk) : Decidable d.Plain :=
  decidable_of_iff
    ((∀ x ∈ d.entries, x.1 ≠ [] ∧ ∀ n ∈ x.1, IsName n ∧ n.length ≤ maxName) ∧
      (∀ x ∈ d.entries, d.item? x.1.dropLast = some .directory) ∧
      (∀ x ∈ d.entries, ∀ target, x.2 ≠ .link target) ∧
      (d.entries.map Prod.fst).Nodup ∧ d.item? d.workingDir = some .directory)
    ⟨fun ⟨h1, h2, h3, h4, h5⟩ => ⟨h1, h2, h3, h4, h5⟩,
      fun ⟨h1, h2, h3, h4, h5⟩ => ⟨h1, h2, h3, h4, h5⟩⟩

theorem lookup_filter_ne {S X : List Bytes} (h : X ≠ S) (entries : List (List Bytes × Entry)) :
    (entries.filter fun x => x.1 != S).lookup X = entries.lookup X := by
  induction entries with
  | nil => rfl
  | cons x entries ih =>
    obtain ⟨S', e'⟩ := x
    by_cases hS : S' = S
    · subst hS
      have hbeq : (X == S') = false := by simpa using h
      rw [List.filter_cons_of_neg (by simp), List.lookup_cons, hbeq, ih]
    · rw [List.filter_cons_of_pos (by simpa using hS), List.lookup_cons, List.lookup_cons]
      split
      · rfl
      · exact ih

theorem item?_put (d : Disk) {S : List Bytes} (hS : S ≠ []) (e : Entry) (X : List Bytes) :
    (d.put S e).item? X = if X = S then some e else d.item? X := by
  by_cases hX : X = []
  · subst hX
    rw [if_neg (Ne.symm hS)]
    rfl
  rw [item?_of_ne_nil _ hX, item?_of_ne_nil _ hX, put]
  by_cases hXS : X = S
  · subst hXS
    rw [if_pos rfl]
    exact List.lookup_cons_self
  · have hbeq : (X == S) = false := by simpa using hXS
    rw [if_neg hXS, List.lookup_cons, hbeq]
    exact lookup_filter_ne hXS d.entries

namespace Plain

variable {d : Disk} {S X : List Bytes} {n : Bytes} {e : Entry}

theorem tree (hd : d.Plain) : d.Tree where
  named x hx := ⟨(hd.named x hx).1, fun n hn => ((hd.named x hx).2 n hn).1⟩
  closed := hd.closed
  distinct := hd.distinct

theorem mem (hd : d.Plain) (hS : S ≠ []) : (S, e) ∈ d.entries ↔ d.item? S = some e :=
  hd.tree.mem hS

theorem isName (hd : d.Plain) (h : d.item? S = some e) (hn : n ∈ S) :
    IsName n ∧ n.length ≤ maxName := by
  by_cases hS : S = []
  · subst hS
    cases hn
  · exact (hd.named (S, e) ((hd.mem hS).2 h)).2 n hn

theorem above (hd : d.Plain) (h : d.item? (S ++ [n]) = some e) : d.item? S = some .directory :=
  hd.tree.above h

theorem above_prefix (hd : d.Plain) (h : d.item? (S ++ X) = some e) (hX : X ≠ []) :
    d.item? S = some .directory := hd.tree.above_prefix h hX

theorem absent_below (hd : d.Plain) (h : d.item? S = none) (X : List Bytes) :
    d.item? (S ++ X) = none := by
  by_cases hX : X = []
  · rwa [hX, List.append_nil]
  · cases he : d.item? (S ++ X) with
    | none => rfl
    | some e => rw [hd.above_prefix he hX] at h; cases h

theorem not_link (hd : d.Plain) {target : Bytes} : d.item? S ≠ some (.link target) := by
  intro h
  by_cases hS : S = []
  · rw [hS] at h; cases h
  · exact hd.linkless _ ((hd.mem hS).2 h) target rfl

theorem workingDir_isName (hd : d.Plain) : ∀ n ∈ d.workingDir, IsName n :=
  fun _ hn => (hd.isName hd.home hn).1

/-- A plain disk stays plain if something is put into a directory that does not take the place of a
directory. -/
theorem put (hd : d.Plain) (habove : d.item? S = some .directory)
    (hn : IsName n ∧ n.length ≤ maxName) (hlink : ∀ target, e ≠ .link target)
    (hdir : e = .directory ∨ d.item? (S ++ [n]) ≠ some .directory) :
    (d.put (S ++ [n]) e).Plain := by
  have hne : S ++ [n] ≠ [] := by simp
  have hkeep {X : List Bytes} (h : d.item? X = some .directory) :
      (d.put (S ++ [n]) e).item? X = some .directory := by
    rw [item?_put d hne]
    split
    · rename_i heq
      subst heq
      rw [hdir.resolve_right fun h' => h' h]
    · exact h
  have hcases {P : List Bytes × Entry → Prop} (hnew : P (S ++ [n], e))
      (hold : ∀ x ∈ d.entries, P x) : ∀ x ∈ (d.put (S ++ [n]) e).entries, P x := by
    intro x hx
    rcases List.mem_cons.1 hx with rfl | hx
    · exact hnew
    · exact hold x (List.mem_filter.1 hx).1
  refine ⟨hcases ⟨hne, fun m hm => ?_⟩ hd.named, hcases ?_ fun x hx => hkeep (hd.closed x hx),
    hcases hlink hd.linkless, ?_, hkeep hd.home⟩
  · rcases List.mem_append.1 hm with hm | hm
    · exact hd.isName habove hm
    · rwa [List.mem_singleton.1 hm]
  · rw [List.dropLast_concat]
    exact hkeep habove
  · show (((S ++ [n]), e) :: d.entries.filter fun x => x.1 != S ++ [n]).map Prod.fst |>.Nodup
    rw [List.map_cons, List.nodup_cons]
    refine ⟨fun hmem => ?_, ?_⟩
    · obtain ⟨x, hx, heq⟩ := List.mem_map.1 hmem
      have := (List.mem_filter.1 hx).2
      simp [heq] at this
    · exact hd.distinct.sublist (List.filter_sublist.map Prod.fst)

end Plain

/-! ## Where names lead -/

/-- Follows names from a directory, where there is no link. -/
def reach (d : Disk) (here : List Bytes) : List Bytes → Except Reason Place
  | [] => .ok (.found here .directory)
  | n :: rest =>
    if maxName < n.length then .error .nameTooLong
    else
      match d.item? (here ++ [n]) with
      | none => if rest = [] then .ok (.vacant (here ++ [n]) false) else .error .notFound
      | some .directory => d.reach (here ++ [n]) rest
      | some e => if rest = [] then .ok (.found (here ++ [n]) e) else .error .notDirectory

section

variable {d : Disk} {here names : List Bytes} {n : Bytes} {last : Bool} {links : Nat}
  {jump : List Bytes → List Bytes → Except Reason Place}

theorem reach_directory {rest : List Bytes} (hn : n.length ≤ maxName)
    (h : d.item? (here ++ [n]) = some .directory) :
    d.reach here (n :: rest) = d.reach (here ++ [n]) rest := by
  rw [reach, if_neg (Nat.not_lt.2 hn), h]

theorem follow_eq_walk (d : Disk) (last : Bool) (links : Nat) :
    ∃ jump, d.follow last links = d.walk last jump := by
  cases links with
  | zero => exact ⟨_, rfl⟩
  | succ links => exact ⟨_, rfl⟩

theorem walk_names (hd : d.Plain) (h : ∀ n ∈ names, IsName n) :
    d.walk last jump here names = d.reach here names := by
  induction names generalizing here with
  | nil => rw [walk, reach]
  | cons n rest ih =>
    obtain ⟨h1, h2, h3, _⟩ := h n List.mem_cons_self
    have hrest := fun m hm => h m (List.mem_cons_of_mem n hm)
    have hall : rest.all List.isEmpty = decide (rest = []) := by
      cases rest with
      | nil => rfl
      | cons m rest =>
        have := (hrest m List.mem_cons_self).ne_nil
        simp [this]
    rw [walk, reach, if_neg (by simp [h1, h2]), if_neg h3]
    split
    · rfl
    · dsimp only
      cases he : d.item? (here ++ [n]) with
      | none =>
        dsimp only
        rw [hall]
        by_cases hr : rest = [] <;> simp [hr]
      | some e =>
        cases e with
        | directory => exact ih hrest
        | link target => exact absurd he hd.not_link
        | file content => simp

theorem reach_append (hd : d.Plain) {A : List Bytes}
    (h : d.item? (here ++ A) = some .directory) :
    d.reach here (A ++ names) = d.reach (here ++ A) names := by
  induction A generalizing here with
  | nil => simp
  | cons n A ih =>
    have hsplit : here ++ n :: A = (here ++ [n]) ++ A := by simp
    rw [hsplit] at h ⊢
    have hn : n.length ≤ maxName := (hd.isName h (by simp)).2
    have hdir : d.item? (here ++ [n]) = some .directory := by
      by_cases hA : A = []
      · simpa [hA] using h
      · exact hd.above_prefix h hA
    rw [List.cons_append, reach_directory hn hdir, ih h]

theorem walk_home (hd : d.Plain) (h : d.item? here = some .directory)
    (hnames : ∀ n ∈ names, IsName n) :
    d.walk last jump here names = d.reach [] (here ++ names) := by
  have happend : d.reach [] (here ++ names) = d.reach ([] ++ here) names := reach_append hd h
  rw [walk_names hd hnames, happend, List.nil_append]

/-- Steps up come first; from a directory they lead to the one above. -/
theorem walk_normal (hd : d.Plain) {X : List Bytes} (hX : Normal false X)
    (h : d.item? here = some .directory) :
    d.walk last jump here X = d.reach [] (X.foldl (advance true) here.reverse).reverse := by
  obtain ⟨k, names, rfl, -, hnames⟩ := hX
  induction k generalizing here with
  | zero =>
    rw [List.replicate_zero, List.nil_append, walk_home hd h hnames,
      Path.foldl_advance_names hnames]
    simp
  | succ k ih =>
    have hup : d.item? here.dropLast = some .directory := by
      rcases List.eq_nil_or_concat here with rfl | ⟨here, n, rfl⟩
      · rfl
      · rw [List.concat_eq_append] at h ⊢
        rw [List.dropLast_concat]
        exact hd.above h
    have hstep : advance true here.reverse Path.parent = here.dropLast.reverse :=
      Path.advance_parent fun n hn => (hd.isName h hn).1.ne_parent
    rw [List.replicate_succ, List.cons_append, walk, if_neg (by decide), if_pos rfl, ih hup,
      List.foldl_cons, hstep]

end

/-! ## Where paths lead -/

/-- The segments of the absolute path of a text. -/
def spot (d : Disk) (path : Bytes) : List Bytes := Path.segments (d.absolute path)

/-- Why a text is no path, whatever is on the disk. -/
def textFault? (path : Bytes) : Option Reason :=
  if path.contains Byte.nul then some .invalid
  else if maxPath < path.length then some .nameTooLong
  else none

section

variable {d : Disk} {path : Bytes} {last : Bool}

theorem spot_spell_true (d : Disk) {X : List Bytes} (hX : ∀ n ∈ X, IsName n) :
    d.spot (Path.spell true X) = X := by
  have hX := Normal.of_names hX true
  rw [spot, absolute, Path.isAbsolute_spell hX, if_pos rfl, Path.segments_clean,
    Path.segments_spell hX]

theorem spot_absolute (h : Path.isAbsolute path = true) : d.spot path = Path.segments path := by
  rw [spot, absolute, if_pos h, Path.segments_clean]

theorem spot_relative (hd : d.Plain) (h : Path.isAbsolute path = false) :
    d.spot path = ((path.split Byte.slash).foldl (advance true) d.workingDir.reverse).reverse := by
  have hhome := Normal.of_names hd.workingDir_isName true
  have hne : d.workingPath ≠ [] := Path.spell_ne_nil hhome
  rw [spot, absolute, h, if_neg Bool.false_ne_true, Path.join_eq hne, Path.segments_clean,
    Path.segments_append hne, workingPath, Path.isAbsolute_spell hhome, Path.segments_spell hhome]

theorem spot_segments (hd : d.Plain) (h : Path.isAbsolute path = false) :
    d.spot path = ((Path.segments path).foldl (advance true) d.workingDir.reverse).reverse := by
  rw [spot_relative hd h, Path.segments, h,
    Path.foldl_advance_evaluate fun _ => Bytes.not_mem_of_mem_split]

theorem workingPath_ne_nil (d : Disk) : d.workingPath ≠ [] := by
  rw [workingPath, Path.spell_true]
  exact List.cons_ne_nil _ _

theorem isAbsolute_absolute (d : Disk) (path : Bytes) :
    Path.isAbsolute (d.absolute path) = true := by
  rw [absolute]
  split
  · rename_i h
    rw [Path.isAbsolute_clean, h]
  · rw [Path.isAbsolute_join d.workingPath_ne_nil]
    rfl

theorem spot_isName : ∀ n ∈ d.spot path, IsName n := by
  have hnormal := Path.normal_segments (d.absolute path)
  rw [isAbsolute_absolute] at hnormal
  exact hnormal.names

theorem absolute_eq (d : Disk) (path : Bytes) :
    d.absolute path = Path.spell true (d.spot path) := by
  have hclean : Path.clean (d.absolute path) = d.absolute path := by
    rw [absolute]
    split
    · exact Path.clean_clean path
    · rw [Path.join_eq d.workingPath_ne_nil]
      exact Path.clean_clean _
  calc d.absolute path = Path.clean (d.absolute path) := hclean.symm
    _ = Path.spell true (d.spot path) := by rw [Path.clean, isAbsolute_absolute, spot]

theorem locate_clean (hd : d.Plain) (hp : Path.clean path = path) :
    d.locate last path = match textFault? path with
      | some reason => .error reason
      | none => d.reach [] (d.spot path) := by
  have hnormal := Path.normal_segments path
  have hspell : Path.spell (Path.isAbsolute path) (Path.segments path) = path := hp
  have hne : path ≠ [] := by
    rw [← hspell]
    exact Path.spell_ne_nil hnormal
  obtain ⟨jump, hjump⟩ := follow_eq_walk d last maxLinks
  have hwalk : d.walk last jump (if Path.isAbsolute path then [] else d.workingDir)
      (path.split Byte.slash) = d.reach [] (d.spot path) := by
    cases habs : Path.isAbsolute path with
    | true =>
      rw [habs] at hnormal hspell
      have hsplit : d.walk last jump [] (path.split Byte.slash) =
          d.walk last jump [] (Path.segments path) := by
        by_cases hX : Path.segments path = []
        · rw [hX] at hspell ⊢
          rw [← hspell]
          have : (Path.spell true []).split Byte.slash = [[], []] := by decide
          rw [this]
          simp [walk]
        · have := Path.split_spell hnormal hX
          rw [hspell] at this
          rw [this, if_pos rfl, List.singleton_append]
          simp [walk]
      rw [if_pos rfl, hsplit, walk_names hd hnormal.names, spot_absolute habs]
    | false =>
      rw [habs] at hnormal hspell
      rw [if_neg Bool.false_ne_true, spot_segments hd habs, ← walk_normal hd hnormal hd.home]
      by_cases hX : Path.segments path = []
      · rw [hX] at hspell ⊢
        rw [← hspell]
        have : (Path.spell false []).split Byte.slash = [Path.current] := by decide
        rw [this]
        simp [walk]
      · have := Path.split_spell hnormal hX
        rw [hspell] at this
        rw [this]
        rfl
  rw [locate, textFault?, if_neg (by simpa using hne), hjump]
  split
  · rfl
  · split
    · rfl
    · exact hwalk

end

/-! ## What stands at a path -/

section

variable {d : Disk} {here names S : List Bytes} {n : Bytes}

theorem reach_there {e : Entry} (hd : d.Plain) (hhere : d.item? here = some .directory)
    (h : d.item? (here ++ names) = some e) :
    d.reach here names = .ok (.found (here ++ names) e) := by
  induction names generalizing here with
  | nil =>
    rw [List.append_nil] at h ⊢
    cases hhere.symm.trans h
    rfl
  | cons n rest ih =>
    have hsplit : here ++ n :: rest = (here ++ [n]) ++ rest := by simp
    rw [hsplit] at h ⊢
    have hn : n.length ≤ maxName := (hd.isName h (by simp)).2
    by_cases hr : rest = []
    · subst hr
      rw [List.append_nil] at h ⊢
      rw [reach, if_neg (Nat.not_lt.2 hn), h]
      cases e with
      | directory => rfl
      | file content => rfl
      | link target => exact absurd h hd.not_link
    · have hdir := hd.above_prefix h hr
      rw [reach_directory hn hdir, ih hdir h]

theorem reach_absent (hhere : d.item? here = some .directory)
    (h : d.item? (here ++ names) = none) (S : List Bytes) (e : Entry) :
    d.reach here names ≠ .ok (.found S e) := by
  induction names generalizing here with
  | nil =>
    rw [List.append_nil, hhere] at h
    cases h
  | cons n rest ih =>
    have hsplit : here ++ n :: rest = (here ++ [n]) ++ rest := by simp
    rw [hsplit] at h
    rw [reach]
    split
    · simp
    · split
      · split <;> simp
      · rename_i hdir
        exact ih hdir h
      · rename_i e' _ he
        split
        · rename_i hr
          rw [hr, List.append_nil, he] at h
          cases h
        · simp

theorem reach_vacant (hd : d.Plain) (hdir : d.item? S = some .directory)
    (h : d.item? (S ++ [n]) = none) :
    d.reach [] (S ++ [n]) =
      if maxName < n.length then .error .nameTooLong else .ok (.vacant (S ++ [n]) false) := by
  have happend : d.reach [] (S ++ [n]) = d.reach ([] ++ S) [n] := reach_append hd hdir
  rw [happend, List.nil_append, reach, h]
  simp

end

section

variable {d : Disk} {path : Bytes} {last : Bool} {S : List Bytes} {n : Bytes}

theorem locate_fault (hd : d.Plain) (hp : Path.clean path = path) {reason : Reason}
    (h : textFault? path = some reason) : d.locate last path = .error reason := by
  rw [locate_clean hd hp, h]

theorem locate_there (hd : d.Plain) (hp : Path.clean path = path) (hf : textFault? path = none)
    {e : Entry} (h : d.item? (d.spot path) = some e) :
    d.locate last path = .ok (.found (d.spot path) e) := by
  rw [locate_clean hd hp, hf]
  exact reach_there hd rfl h

theorem locate_vacant (hd : d.Plain) (hp : Path.clean path = path) (hf : textFault? path = none)
    (hspot : d.spot path = S ++ [n]) (hdir : d.item? S = some .directory)
    (h : d.item? (S ++ [n]) = none) :
    d.locate last path =
      if maxName < n.length then .error .nameTooLong else .ok (.vacant (S ++ [n]) false) := by
  rw [locate_clean hd hp, hf, hspot]
  exact reach_vacant hd hdir h

theorem locate_absent (hd : d.Plain) (hp : Path.clean path = path)
    (h : d.item? (d.spot path) = none) (S : List Bytes) (e : Entry) :
    d.locate last path ≠ .ok (.found S e) := by
  rw [locate_clean hd hp]
  split
  · simp
  · exact reach_absent rfl h S e

/-- A clean path leads to an entry exactly if the text is a path and the entry stands at its spot. -/
theorem locate_eq_found_iff (hd : d.Plain) (hp : Path.clean path = path) {e : Entry} :
    d.locate last path = .ok (.found S e) ↔
      textFault? path = none ∧ d.item? S = some e ∧ d.spot path = S := by
  constructor
  · intro h
    cases hf : textFault? path with
    | some reason => rw [locate_fault hd hp hf] at h; cases h
    | none =>
      cases he : d.item? (d.spot path) with
      | none => exact absurd h (locate_absent hd hp he S e)
      | some e' =>
        rw [locate_there hd hp hf he] at h
        cases h
        exact ⟨rfl, he, rfl⟩
  · rintro ⟨hf, he, rfl⟩
    exact locate_there hd hp hf he

theorem contents_eq_ok_iff (hd : d.Plain) (hp : Path.clean path = path) {data : Bytes} :
    d.contents path = .ok data ↔
      textFault? path = none ∧ d.item? (d.spot path) = some (.file data) := by
  unfold contents
  constructor
  · intro h
    split at h
    · cases h
    · cases h
    · rename_i S content hfound
      cases h
      obtain ⟨hf, he, rfl⟩ := (locate_eq_found_iff hd hp).1 hfound
      exact ⟨hf, he⟩
    · cases h
  · rintro ⟨hf, he⟩
    rw [locate_there hd hp hf he]

theorem stat_eq_ok_iff (hd : d.Plain) (hp : Path.clean path = path) {e : Entry} :
    d.stat path = .ok e ↔ textFault? path = none ∧ d.item? (d.spot path) = some e := by
  unfold stat
  constructor
  · intro h
    split at h
    · cases h
    · cases h
    · rename_i S e' hfound
      cases h
      obtain ⟨hf, he, rfl⟩ := (locate_eq_found_iff hd hp).1 hfound
      exact ⟨hf, he⟩
  · rintro ⟨hf, he⟩
    rw [locate_there hd hp hf he]

end

end Graft.Disk
