import Graft.Proofs.Discovery.Visited
import Graft.Proofs.Disk.Linked

/-!
# Graft.Proofs.Discovery.Walk

A search whose callbacks run side by side. A walk hands over the entries of the directories it has
entered, in any order; a callback tells from the path whether a directory is entered and whether the
path is one of those looked for, and writes such a path down as soon as nobody else does.

* `Verdict`, `judge`: the callback.
* `Walk`, `Walk.Step`, `Walk.Steps`: the walk, and its orders.
* `Walk.Sound.step`: what every step keeps.
* `Walk.Steps.settles`: all orders take as many steps and write down the same paths.
* `discover_exact`: the theorem.
-/

namespace Graft

open Graft.Path (IsName Normal spell)

namespace Discovery

/-! ## The callback -/

/-- What the callback says about an entry: nothing, so that a directory is entered; that a directory
is not entered; or that the path is one of those looked for. -/
inductive Verdict where
  | goOn
  | skip
  | keep
deriving DecidableEq, Repr

def judge (root pattern : Bytes) (exclude : List Bytes) (path : Bytes) (e : Disk.Entry) : Verdict :=
  match Path.relative? root path with
  | none => .goOn
  | some relative =>
    if relative = Path.current then .goOn
    else if isExcluded exclude relative then
      match e with
      | .directory => .skip
      | _ => .goOn
    else
      match e with
      | .directory => .goOn
      | _ => if Glob.accepts pattern relative then .keep else .goOn

/-- The path of a name in a directory. The path of the topmost directory ends with a slash. -/
def inside (path name : Bytes) : Bytes :=
  if path.getLast? = some Byte.slash then path ++ name else path ++ Byte.slash :: name

/-- An entry that a walk hands over, with its path and the place it stands at. -/
structure Stop where
  path : Bytes
  spot : List Bytes
  entry : Disk.Entry

/-- The entries that are handed over because of another one: those of a directory that is
entered. -/
def Stop.next (d : Disk) (root pattern : Bytes) (exclude : List Bytes) (s : Stop) : List Stop :=
  if s.entry = .directory ∧ judge root pattern exclude s.path s.entry = .goOn then
    (d.children s.spot).map fun (name, e) => ⟨inside s.path name, s.spot ++ [name], e⟩
  else []

/-- The paths among some entries that are looked for. -/
def kept (root pattern : Bytes) (exclude : List Bytes) (stops : List Stop) : List Bytes :=
  (stops.filter fun s => judge root pattern exclude s.path s.entry = .keep).map Stop.path

/-! ## The walk -/

/-- How far a walk is. -/
structure Walk where
  /-- The entries still to be handed over. -/
  waiting : List Stop
  /-- The paths whose callbacks wait until they may write. -/
  held : List Bytes
  found : List Bytes

namespace Walk

/-- The root is handed over first. -/
def start (root : Bytes) (S : List Bytes) : Walk := ⟨[⟨root, S, .directory⟩], [], []⟩

/-- One step: a callback on any of the entries, or the end of any that waits. -/
inductive Step (d : Disk) (root pattern : Bytes) (exclude : List Bytes) : Walk → Walk → Prop where
  | call {before after : List Stop} {s : Stop} {held found : List Bytes} :
      Step d root pattern exclude ⟨before ++ s :: after, held, found⟩
        ⟨before ++ s.next d root pattern exclude ++ after,
          held ++ kept root pattern exclude [s], found⟩
  | write {waiting : List Stop} {before after found : List Bytes} {path : Bytes} :
      Step d root pattern exclude ⟨waiting, before ++ path :: after, found⟩
        ⟨waiting, before ++ after, found ++ [path]⟩

/-- A number of steps in some order. -/
inductive Steps (d : Disk) (root pattern : Bytes) (exclude : List Bytes) :
    Nat → Walk → Walk → Prop where
  | refl {w : Walk} : Steps d root pattern exclude 0 w w
  | head {n : Nat} {w next last : Walk} (h : Step d root pattern exclude w next)
      (hs : Steps d root pattern exclude n next last) : Steps d root pattern exclude (n + 1) w last

/-- Nothing is left to do. -/
def Done (w : Walk) : Prop := w.waiting = [] ∧ w.held = []

end Walk

/-! ## One entry -/

section

variable {d : Disk} {root pattern : Bytes} {exclude R S : List Bytes}

theorem kept_append (ss ts : List Stop) :
    kept root pattern exclude (ss ++ ts) =
      kept root pattern exclude ss ++ kept root pattern exclude ts := by
  simp [kept]

theorem kept_cons (s : Stop) (ss : List Stop) :
    kept root pattern exclude (s :: ss) =
      kept root pattern exclude [s] ++ kept root pattern exclude ss := kept_append [s] ss

theorem kept_perm {ss ts : List Stop} (h : ss.Perm ts) :
    (kept root pattern exclude ss).Perm (kept root pattern exclude ts) := (h.filter _).map Stop.path

theorem kept_flatMap {α : Type} (f : α → List Stop) (xs : List α) :
    kept root pattern exclude (xs.flatMap f) =
      xs.flatMap fun x => kept root pattern exclude (f x) := by
  induction xs with
  | nil => rfl
  | cons x xs ih => rw [List.flatMap_cons, List.flatMap_cons, kept_append, ih]

theorem inside_spell {X : List Bytes} {name : Bytes} (hX : ∀ n ∈ X, IsName n) :
    inside (spell true X) name = spell true (X ++ [name]) := by
  rcases List.eq_nil_or_concat X with rfl | ⟨X, last, rfl⟩
  · rw [List.nil_append, Path.spell_true, Path.spell_true, Bytes.joinWith_singleton]
    rfl
  · rw [List.concat_eq_append] at hX ⊢
    have hlast := hX last (by simp)
    obtain ⟨front, hfront⟩ : ∃ front, spell true (X ++ [last]) = front ++ Byte.slash :: last := by
      by_cases hnil : X = []
      · subst hnil
        exact ⟨[], by rw [List.nil_append, Path.spell_true, Bytes.joinWith_singleton]; rfl⟩
      · exact ⟨spell true X, by
          rw [Path.spell_append hnil (List.cons_ne_nil _ _), Bytes.joinWith_singleton]⟩
    have hend : (spell true (X ++ [last])).getLast? ≠ some Byte.slash := by
      intro h
      rw [hfront] at h
      rcases List.eq_nil_or_concat last with rfl | ⟨word, c, rfl⟩
      · exact hlast.ne_nil rfl
      · have hc : c = Byte.slash := by simpa [List.getLast?_cons] using h
        exact hlast.no_slash (by simp [hc])
    rw [inside, if_neg hend, Path.spell_append (by simp) (List.cons_ne_nil name []),
      Bytes.joinWith_singleton]

variable (pattern exclude) in
theorem judge_names {N : List Bytes} (hR : ∀ n ∈ R, IsName n) (hN : ∀ n ∈ N, IsName n)
    (hne : N ≠ []) (e : Disk.Entry) :
    judge (spell true R) pattern exclude (spell true (R ++ N)) e =
      if isExcluded exclude (textOf N) then (if e = .directory then .skip else .goOn)
      else if e ≠ .directory ∧ Glob.accepts pattern (textOf N) = true then .keep else .goOn := by
  have hdot : spell false N ≠ Path.current := by
    intro h
    have hsegments := Path.segments_spell (Normal.of_names hN false)
    rw [h] at hsegments
    exact hne hsegments.symm
  have htext : spell false N = textOf N := Path.spell_false hne
  unfold judge
  rw [Path.relative?_spell hR hN]
  dsimp only
  rw [if_neg hdot, htext]
  cases e <;> simp

variable (pattern exclude) in
theorem judge_root (hR : ∀ n ∈ R, IsName n) (e : Disk.Entry) :
    judge (spell true R) pattern exclude (spell true R) e = .goOn := by
  have hrelative := Path.relative?_spell hR (N := []) (by simp)
  rw [List.append_nil] at hrelative
  unfold judge
  rw [hrelative]
  rfl

/-- What stands where a stop says, at its path below the root. -/
structure Stop.Stands (d : Disk) (R S : List Bytes) (s : Stop) (N : List Bytes) : Prop where
  names : ∀ n ∈ N, IsName n
  path : s.path = spell true (R ++ N)
  spot : s.spot = S ++ N
  item : d.item? s.spot = some s.entry

section

variable {s : Stop} {N : List Bytes}

theorem kept_names (hR : ∀ n ∈ R, IsName n) (h : s.Stands d R S N) (hne : N ≠ []) :
    kept (spell true R) pattern exclude [s] =
      if isExcluded exclude (textOf N) = false ∧ s.entry ≠ .directory ∧
        Glob.accepts pattern (textOf N) = true then [s.path] else [] := by
  have hjudge := judge_names pattern exclude hR h.names hne s.entry
  rw [← h.path] at hjudge
  rw [kept, List.filter_singleton, hjudge]
  cases isExcluded exclude (textOf N) with
  | true => by_cases hdir : s.entry = .directory <;> simp [hdir]
  | false =>
    by_cases hkeep : s.entry ≠ .directory ∧ Glob.accepts pattern (textOf N) = true <;> simp [hkeep]

/-- Below the root a directory is entered unless it is excluded. -/
theorem goOn_iff (hR : ∀ n ∈ R, IsName n) (h : s.Stands d R S N) (hne : N ≠ [])
    (hdir : s.entry = .directory) :
    judge (spell true R) pattern exclude s.path s.entry = .goOn ↔
      isExcluded exclude (textOf N) = false := by
  rw [h.path, judge_names pattern exclude hR h.names hne, hdir]
  cases isExcluded exclude (textOf N) <;> simp

theorem Stop.next_of_ne (h : s.entry ≠ .directory) : s.next d root pattern exclude = [] :=
  if_neg fun hgo => h hgo.1

theorem Stop.Stands.next_of_excluded (hR : ∀ n ∈ R, IsName n) (h : s.Stands d R S N) (hne : N ≠ [])
    (hexcluded : isExcluded exclude (textOf N) = true) :
    s.next d (spell true R) pattern exclude = [] := by
  refine if_neg fun hgo => ?_
  rw [goOn_iff hR h hne hgo.1, hexcluded] at hgo
  cases hgo.2

end

theorem Stop.Stands.child (hd : d.Tree) (hR : ∀ n ∈ R, IsName n) {s : Stop} {N : List Bytes}
    (h : s.Stands d R S N) {name : Bytes} {e : Disk.Entry}
    (hchild : (name, e) ∈ d.children s.spot) :
    Stop.Stands d R S ⟨inside s.path name, s.spot ++ [name], e⟩ (N ++ [name]) := by
  have hitem := (Disk.mem_children hd).1 hchild
  have hnames : ∀ n ∈ R ++ N, IsName n := fun n hn =>
    (List.mem_append.1 hn).elim (hR n) (h.names n)
  refine ⟨?_, ?_, ?_, hitem⟩
  · rw [h.spot] at hitem
    exact isName_concat hd h.names hitem
  · rw [h.path, inside_spell hnames, List.append_assoc]
  · rw [h.spot, List.append_assoc]

theorem Stop.Stands.next (hd : d.Tree) (hR : ∀ n ∈ R, IsName n) {s t : Stop} {N : List Bytes}
    (h : s.Stands d R S N) (ht : t ∈ s.next d root pattern exclude) :
    ∃ name, t.Stands d R S (N ++ [name]) := by
  rw [Stop.next] at ht
  split at ht
  · obtain ⟨⟨name, e⟩, hchild, rfl⟩ := List.mem_map.1 ht
    exact ⟨name, h.child hd hR hchild⟩
  · cases ht

/-! ## All entries -/

variable (d root pattern exclude) in
/-- All entries that a walk hands over from one on, `levels` directories deep. -/
def reached : (levels : Nat) → Stop → List Stop
  | 0, _ => []
  | levels + 1, s => s :: (s.next d root pattern exclude).flatMap (reached levels)

theorem reached_succ (hd : d.Tree) (hR : ∀ n ∈ R, IsName n) {levels : Nat} {s : Stop}
    {N : List Bytes} (h : s.Stands d R S N)
    (hlevels : Discovery.levels d ≤ levels + s.spot.length) :
    reached d root pattern exclude (levels + 1) s = reached d root pattern exclude levels s := by
  induction levels generalizing s N with
  | zero =>
    have := length_lt_levels hd h.item
    omega
  | succ levels ih =>
    rw [reached, reached]
    refine congrArg (s :: ·) (List.flatMap_congr fun t ht => ?_)
    obtain ⟨name, hstands⟩ := h.next hd hR ht
    refine ih hstands ?_
    rw [hstands.spot, ← List.append_assoc, ← h.spot, List.length_append, List.length_singleton]
    omega

theorem reached_levels (hd : d.Tree) (hR : ∀ n ∈ R, IsName n) {s : Stop} {N : List Bytes}
    (h : s.Stands d R S N) :
    reached d root pattern exclude (levels d) s = s :: (s.next d root pattern exclude).flatMap
      (reached d root pattern exclude (levels d)) := by
  rw [← reached_succ hd hR h (Nat.le_add_right _ _), reached]

variable (pattern exclude) in
/-- What a walk from the entries of a directory keeps is what a search of the directory finds. -/
theorem kept_reached (hd : d.Tree) (hR : ∀ n ∈ R, IsName n) (levels : Nat) {M : List Bytes}
    {s : Stop} (h : s.Stands d R S M) (hdir : s.entry = .directory)
    (hgo : judge (spell true R) pattern exclude s.path s.entry = .goOn) :
    kept (spell true R) pattern exclude ((s.next d (spell true R) pattern exclude).flatMap
        (reached d (spell true R) pattern exclude levels)) =
      (visit d pattern exclude levels (S ++ M) (textOf M)).map fun path =>
        Path.join (spell true R) path := by
  induction levels generalizing M s with
  | zero => simp [reached, kept, visit]
  | succ levels ih =>
    rw [visit_succ h.names, List.map_flatMap, kept_flatMap, Stop.next, if_pos ⟨hdir, hgo⟩,
      List.flatMap_map, ← h.spot]
    refine List.flatMap_congr fun child hchild => ?_
    obtain ⟨name, e⟩ := child
    have hstands := h.child hd hR hchild
    have hne : M ++ [name] ≠ [] := by simp
    rw [reached, kept_cons, kept_names hR hstands hne, visitChild]
    by_cases he : e = .directory
    · subst he
      cases hexcluded : isExcluded exclude (textOf (M ++ [name])) with
      | true =>
        rw [hstands.next_of_excluded hR hne hexcluded]
        simp [kept]
      | false =>
        rw [ih hstands rfl ((goOn_iff hR hstands hne rfl).2 hexcluded)]
        simp
    · have hjoin : Path.join (spell true R) (textOf (M ++ [name])) = inside s.path name := by
        rw [join_textOf hR hstands.names hne, ← hstands.path]
      rw [Stop.next_of_ne he]
      cases isExcluded exclude (textOf (M ++ [name])) with
      | true => simp [kept]
      | false =>
        cases e with
        | directory => exact absurd rfl he
        | file content =>
          cases Glob.accepts pattern (textOf (M ++ [name])) <;> simp [kept, hjoin]
        | link target =>
          cases Glob.accepts pattern (textOf (M ++ [name])) <;> simp [kept, hjoin]

variable (d root pattern exclude) in
theorem exists_reached (s : Stop) :
    ∃ more, reached d root pattern exclude (levels d) s = s :: more := by
  rw [levels, reached]
  exact ⟨_, rfl⟩

/-! ## All orders -/

namespace Walk

variable (d root pattern exclude) in
/-- The entries that a walk hands over from some on. -/
def ahead (waiting : List Stop) : List Stop :=
  waiting.flatMap (reached d root pattern exclude (levels d))

variable (d root pattern exclude) in
/-- How many steps a walk will still take: one for each entry, and one for each path to write. -/
def weight (w : Walk) : Nat :=
  (ahead d root pattern exclude w.waiting).length +
    (w.held ++ kept root pattern exclude (ahead d root pattern exclude w.waiting)).length

variable (d root pattern exclude R S) in
/-- What every step keeps: what waits stands on the disk, and the paths that are found, held and
still to be kept are always the same. -/
structure Sound (paths : List Bytes) (w : Walk) : Prop where
  stands : ∀ s ∈ w.waiting, ∃ N, s.Stands d R S N
  paths : (w.found ++ (w.held ++
    kept root pattern exclude (ahead d root pattern exclude w.waiting))).Perm paths

variable {paths : List Bytes} {w next : Walk}

variable (root pattern exclude) in
theorem ahead_call (hd : d.Tree) (hR : ∀ n ∈ R, IsName n) {s : Stop} {N : List Bytes}
    (h : s.Stands d R S N) (before after : List Stop) :
    (ahead d root pattern exclude (before ++ s :: after)).Perm (s ::
      ahead d root pattern exclude (before ++ s.next d root pattern exclude ++ after)) := by
  simp only [ahead, List.flatMap_append, List.flatMap_cons, reached_levels hd hR h,
    List.cons_append, List.append_assoc]
  exact List.perm_middle

theorem Sound.step (hd : d.Tree) (hR : ∀ n ∈ R, IsName n)
    (hw : Sound d root pattern exclude R S paths w) (h : Step d root pattern exclude w next) :
    Sound d root pattern exclude R S paths next ∧
      next.weight d root pattern exclude + 1 = w.weight d root pattern exclude := by
  cases h with
  | @call before after s held found =>
    obtain ⟨N, hs⟩ := hw.stands s (by simp)
    have hahead := ahead_call root pattern exclude hd hR hs before after
    have hheld : (held ++ kept root pattern exclude [s] ++ kept root pattern exclude
        (ahead d root pattern exclude (before ++ s.next d root pattern exclude ++ after))).Perm
        (held ++ kept root pattern exclude
          (ahead d root pattern exclude (before ++ s :: after))) := by
      rw [List.append_assoc, ← kept_cons]
      exact (kept_perm hahead).symm.append_left held
    refine ⟨⟨fun t ht => ?_, (hheld.append_left found).trans hw.paths⟩, ?_⟩
    · rcases List.mem_append.1 ht with ht | ht
      · rcases List.mem_append.1 ht with ht | ht
        · exact hw.stands t (by simp [ht])
        · obtain ⟨name, hstands⟩ := hs.next hd hR ht
          exact ⟨_, hstands⟩
      · exact hw.stands t (by simp [ht])
    · rw [weight, weight]
      dsimp only
      rw [hheld.length_eq, hahead.length_eq, List.length_cons]
      omega
  | @write waiting before after found path =>
    refine ⟨⟨hw.stands, List.Perm.trans ?_ hw.paths⟩, ?_⟩
    · simp only [List.append_assoc, List.cons_append, List.nil_append]
      exact List.perm_middle.symm.append_left found
    · simp only [weight, List.length_append, List.length_cons]
      omega

theorem Sound.steps (hd : d.Tree) (hR : ∀ n ∈ R, IsName n) {n : Nat}
    (hw : Sound d root pattern exclude R S paths w) (h : Steps d root pattern exclude n w next) :
    Sound d root pattern exclude R S paths next ∧
      n + next.weight d root pattern exclude = w.weight d root pattern exclude := by
  induction h with
  | refl => exact ⟨hw, Nat.zero_add _⟩
  | head h _ ih =>
    obtain ⟨hnext, hweight⟩ := hw.step hd hR h
    obtain ⟨hlast, hsteps⟩ := ih hnext
    exact ⟨hlast, by omega⟩

variable (d root pattern exclude) in
/-- A walk that is not done goes on, and one that takes no more steps is done. -/
theorem goes_on (w : Walk) :
    0 < w.weight d root pattern exclude ∧ (∃ next, Step d root pattern exclude w next) ∨
      w.weight d root pattern exclude = 0 ∧ w.Done := by
  obtain ⟨waiting, held, found⟩ := w
  cases waiting with
  | cons s rest =>
    obtain ⟨more, hmore⟩ := exists_reached d root pattern exclude s
    have hcall : Step d root pattern exclude ⟨[] ++ s :: rest, held, found⟩ _ := .call
    refine .inl ⟨?_, _, hcall⟩
    simp only [weight, ahead, List.flatMap_cons, hmore, List.cons_append, List.length_cons]
    omega
  | nil =>
    cases held with
    | cons path rest =>
      have hwrite : Step d root pattern exclude ⟨[], [] ++ path :: rest, found⟩ _ := .write
      refine .inl ⟨?_, _, hwrite⟩
      simp only [weight, List.cons_append, List.length_cons]
      omega
    | nil => exact .inr ⟨rfl, rfl, rfl⟩

theorem Steps.settles (hd : d.Tree) (hR : ∀ n ∈ R, IsName n)
    (hw : Sound d root pattern exclude R S paths w) {n : Nat} {last : Walk}
    (h : Steps d root pattern exclude n w last) :
    n < w.weight d root pattern exclude ∧ (∃ next, Step d root pattern exclude last next) ∨
      n = w.weight d root pattern exclude ∧ last.Done ∧ last.found.Perm paths := by
  obtain ⟨hlast, hweight⟩ := hw.steps hd hR h
  rcases goes_on d root pattern exclude last with ⟨hpos, hnext⟩ | ⟨hzero, hdone⟩
  · exact .inl ⟨by omega, hnext⟩
  · refine .inr ⟨by omega, hdone, ?_⟩
    have hpaths := hlast.paths
    obtain ⟨waiting, held, found⟩ := last
    obtain ⟨rfl, rfl⟩ := hdone
    simpa [ahead, kept] using hpaths

theorem sound_start (hd : d.Tree) (hR : ∀ n ∈ R, IsName n) (hS : d.item? S = some .directory) :
    Sound d (spell true R) pattern exclude R S
      ((visit d pattern exclude (levels d) S []).map fun path => Path.join (spell true R) path)
      (start (spell true R) S) := by
  have hstands : Stop.Stands d R S ⟨spell true R, S, .directory⟩ [] :=
    ⟨by simp, by simp, by simp, hS⟩
  have hgo := judge_root pattern exclude hR .directory
  refine ⟨fun s hs => ⟨[], List.mem_singleton.1 hs ▸ hstands⟩, ?_⟩
  have hkept := kept_reached pattern exclude hd hR (levels d) hstands rfl hgo
  rw [List.append_nil] at hkept
  rw [ahead, start, List.flatMap_singleton, reached_levels hd hR hstands, kept_cons, hkept]
  simp [kept, hgo, textOf, Bytes.joinWith]

end Walk

end

end Discovery

/-! ## The files found -/

section

variable {d : Disk} {root pattern : Bytes} {exclude S : List Bytes}

theorem discover_eq (hroot : d.locate true (d.absolute root) = .ok (.found S .directory))
    (hpattern : Glob.isValid pattern = true) (hexclude : ∀ p ∈ exclude, Glob.isValid p = true) :
    discover d false root pattern exclude = .ok (Bytes.sort
      ((Discovery.visit d pattern exclude (Discovery.levels d) S []).map
        fun path => Path.join (d.absolute root) path)) := by
  have hnone : exclude.find? (fun p => !Glob.isValid p) = none :=
    List.find?_eq_none.2 fun p hp => by simp [hexclude p hp]
  have hstat : d.stat (d.absolute root) = .ok .directory := by rw [Disk.stat, hroot]
  simp only [discover, hpattern, hnone, hstat, hroot, Bool.not_true, Bool.false_eq_true, if_false]

/-- A search finds the entries below the root that are no directories, whose path matches and that
are not excluded with it or a directory above them, in strictly ascending order. Every order of
callbacks comes to the same paths in the same number of steps. -/
theorem discover_exact (hd : d.Tree)
    (hroot : d.locate true (d.absolute root) = .ok (.found S .directory))
    (hpattern : Glob.isValid pattern = true) (hexclude : ∀ p ∈ exclude, Glob.isValid p = true) :
    ∃ files steps, discover d false root pattern exclude = .ok files ∧
      Discovery.Lists d pattern exclude (d.spot root) S files ∧
      ∀ n w, Discovery.Walk.Steps d (d.absolute root) pattern exclude n
          (.start (d.absolute root) S) w →
        n < steps ∧ (∃ next, Discovery.Walk.Step d (d.absolute root) pattern exclude w next) ∨
          n = steps ∧ w.Done ∧ Bytes.sort w.found = files := by
  have hR : ∀ n ∈ d.spot root, IsName n := Disk.spot_isName
  have hS : d.item? S = some .directory :=
    Disk.item?_of_locate hd (Disk.isAbsolute_absolute d root) hroot
  refine ⟨_, (Discovery.Walk.start (d.absolute root) S).weight d (d.absolute root) pattern exclude,
    discover_eq hroot hpattern hexclude, ?_, fun n w hsteps => ?_⟩
  · rw [Disk.absolute_eq]
    exact Discovery.lists_visit pattern exclude S hd hR
  · rw [Disk.absolute_eq] at hsteps ⊢
    refine (hsteps.settles hd hR (Discovery.Walk.sound_start hd hR hS)).imp id ?_
    rintro ⟨hn, hdone, hperm⟩
    exact ⟨hn, hdone, Bytes.sort_congr hperm⟩

/-- A project that is reached over a link, with a link among its pages and a directory that is
excluded. -/
def linkedProject : Disk where
  entries := [(["home"], .directory), (["home", "app"], .directory),
    (["home", "app", "Z.vue"], .file ""), (["home", "app", "A.vue"], .link "/home/Gone.vue"),
    (["home", "app", "lib"], .directory), (["home", "app", "lib", "Dep.vue"], .file ""),
    (["home", "app", "pages"], .directory), (["home", "app", "pages", "B.vue"], .file ""),
    (["home", "app", "pages", "notes"], .file ""), (["site"], .link "home/app")]
  workingDir := []

theorem discover_exact_linked :
    discover linkedProject false "site" "**/*.vue" ["lib"] =
        .ok ["/site/A.vue", "/site/Z.vue", "/site/pages/B.vue"] ∧
      ∃ files steps, discover linkedProject false "site" "**/*.vue" ["lib"] = .ok files ∧
        Discovery.Lists linkedProject "**/*.vue" ["lib"] (linkedProject.spot "site") ["home", "app"]
          files ∧
        ∀ n w, Discovery.Walk.Steps linkedProject (linkedProject.absolute "site") "**/*.vue" ["lib"]
            n (.start (linkedProject.absolute "site") ["home", "app"]) w →
          n < steps ∧ (∃ next, Discovery.Walk.Step linkedProject (linkedProject.absolute "site")
            "**/*.vue" ["lib"] w next) ∨ n = steps ∧ w.Done ∧ Bytes.sort w.found = files := by
  have hroot : linkedProject.locate true (linkedProject.absolute "site") =
      .ok (.found ["home", "app"] .directory) := rfl
  have hvalid : ∀ p ∈ [("lib" : Bytes)], Glob.isValid p = true := by decide +kernel
  refine ⟨?_, discover_exact (by decide +kernel) hroot (by decide +kernel) hvalid⟩
  rw [discover_eq hroot (by decide +kernel) hvalid]
  exact congrArg Except.ok (Bytes.sort_eq (by decide +kernel) (by decide +kernel))

end

end Graft
