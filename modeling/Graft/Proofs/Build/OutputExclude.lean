import Graft.Proofs.Build.Pool
import Graft.Proofs.Discovery.Visited
import Graft.Proofs.Disk.Plain
import Graft.Proofs.Glob.Escaped
import Graft.Proofs.Loader.Confined

/-!
# Graft.Proofs.Build.OutputExclude

The output directory of a target is excluded from its search when it lies strictly below the root,
and nothing else is excluded with it.

* `LiesBelow`: an output directory strictly below a root.
* `outputPattern?_below`, `outputPattern?_elsewhere`: when there is a pattern for it.
* `selected_escape_iff`, `discover_escape`: what the pattern takes from a search.
* `reported_run`: the files a build reports on are those it searched for.
* `run_excludes_output`: the theorem.
-/

namespace Graft

open Graft.Path (IsName spell)

/-! ## Well-formed paths -/

section

variable {X : List Bytes}

theorem isValid_joinWith (X : List Bytes) :
    Utf8.isValid (Bytes.joinWith [Byte.slash] X) = X.all Utf8.isValid := by
  induction X with
  | nil => rfl
  | cons a X ih =>
    cases X with
    | nil => rw [Bytes.joinWith_singleton, List.all_cons, List.all_nil, Bool.and_true]
    | cons b X =>
      rw [Bytes.joinWith_cons_cons, List.singleton_append, Utf8.isValid_append_cons (by decide), ih]
      rfl

theorem isValid_spell (X : List Bytes) : Utf8.isValid (spell true X) = X.all Utf8.isValid := by
  have hslash := Utf8.isValid_append_cons (c := Byte.slash) (by decide) []
    (Bytes.joinWith [Byte.slash] X)
  rw [Path.spell_true, ← isValid_joinWith]
  exact hslash

theorem isValid_textOf (h : ∀ n ∈ X, Utf8.isValid n = true) :
    Utf8.isValid (Discovery.textOf X) = true := by
  rw [Discovery.textOf, isValid_joinWith, List.all_eq_true]
  exact h

end

/-! ## The pattern -/

namespace Build

variable {d : Disk} {root out : Bytes} {M : List Bytes}

/-- An output directory lies strictly below a root, by the names from there. -/
structure LiesBelow (d : Disk) (root out : Bytes) (M : List Bytes) : Prop where
  given : out ≠ []
  ne_nil : M ≠ []
  spot : d.spot out = Path.segments root ++ M

theorem LiesBelow.names (h : LiesBelow d root out M) : ∀ n ∈ M, IsName n := by
  intro n hn
  have hspot : ∀ n ∈ d.spot out, IsName n := Disk.spot_isName
  exact hspot n (h.spot ▸ List.mem_append_right _ hn)

theorem LiesBelow.isValid (h : LiesBelow d root out M)
    (hout : Utf8.isValid (d.absolute out) = true) : ∀ n ∈ M, Utf8.isValid n = true := by
  rw [Disk.absolute_eq, isValid_spell, List.all_eq_true, h.spot] at hout
  exact fun n hn => hout n (List.mem_append_right _ hn)

theorem relative?_output (hroot : Path.isAbsolute root = true) :
    Path.relative? root (d.absolute out) =
      some (spell false
        ((Path.dropCommon (Path.segments root) (d.spot out)).1.map (fun _ => Path.parent) ++
          (Path.dropCommon (Path.segments root) (d.spot out)).2)) := by
  have hS : ∀ n ∈ d.spot out, IsName n := Disk.spot_isName
  obtain ⟨hup, _⟩ := Path.dropCommon_names (Path.clean_absolute hroot).1 hS
  rw [Path.relative?, hroot, Disk.isAbsolute_absolute, if_neg (by simp)]
  exact if_neg (Path.head?_ne_parent hup)

theorem relative?_below (hroot : Path.isAbsolute root = true) (h : LiesBelow d root out M) :
    Path.relative? root (d.absolute out) = some (Discovery.textOf M) := by
  rw [relative?_output hroot, h.spot, Path.dropCommon_append, List.map_nil, List.nil_append,
    Path.spell_false h.ne_nil, Discovery.textOf]

theorem outputPattern?_below (hroot : Path.isAbsolute root = true) (h : LiesBelow d root out M) :
    outputPattern? d root out = some (Glob.escape (Discovery.textOf M)) := by
  have htext : spell false M = Discovery.textOf M := Path.spell_false h.ne_nil
  have hslash : ∀ n ∈ M, Byte.slash ∉ n := fun n hn => (h.names n hn).no_slash
  have hdown := (Path.not_startsUp_iff hslash).2 (Path.head?_ne_parent h.names)
  rw [htext, Bool.and_eq_true, bne_iff_ne, Bool.not_eq_true'] at hdown
  have hdot : Discovery.textOf M ≠ Path.current := by
    intro heq
    have hsegments := Path.segments_spell (Path.Normal.of_names h.names false)
    rw [htext, heq] at hsegments
    exact h.ne_nil hsegments.symm
  rw [outputPattern?, if_neg (by simpa using h.given), relative?_below hroot h]
  dsimp only
  rw [if_neg (by simp [hdot, hdown])]

/-- Where the output directory is the root, lies above it or elsewhere, or is not given, there is no
pattern. -/
theorem outputPattern?_elsewhere (hroot : Path.isAbsolute root = true)
    (h : ∀ M, ¬ LiesBelow d root out M) : outputPattern? d root out = none := by
  by_cases hout : out = []
  · subst hout
    rfl
  have hR := (Path.clean_absolute hroot).1
  have hS : ∀ n ∈ d.spot out, IsName n := Disk.spot_isName
  rw [outputPattern?, if_neg (by simpa using hout), relative?_output hroot]
  dsimp only
  rw [if_pos]
  by_cases hbegins : Path.segments root <+: d.spot out
  · obtain ⟨M, hM⟩ := hbegins
    have hnil : M = [] := by
      by_contra hne
      exact h M ⟨hout, hne, hM.symm⟩
    subst hnil
    rw [← hM, Path.dropCommon_append]
    exact .inl rfl
  · obtain ⟨_, hdown⟩ := Path.dropCommon_names hR hS
    have hslash := Path.no_slash_steps (Path.dropCommon (Path.segments root) (d.spot out)).1 hdown
    have hstarts := mt ((Path.not_startsUp_iff hslash).1 · |> (Path.continues_iff hdown).1) hbegins
    rw [Bool.and_eq_true, bne_iff_ne, Bool.not_eq_true', not_and_or, not_not, Bool.not_eq_false]
      at hstarts
    exact .inr hstarts

theorem outputPattern?_absolute (hroot : Path.isAbsolute root = true) :
    outputPattern? d (d.absolute root) out = outputPattern? d root out := by
  have hclean : d.absolute root = Path.clean root := by rw [Disk.absolute, if_pos hroot]
  have hrelative (target : Bytes) :
      Path.relative? (Path.clean root) target = Path.relative? root target := by
    rw [Path.relative?, Path.relative?, Path.isAbsolute_clean, Path.segments_clean]
  rw [hclean, outputPattern?, outputPattern?, hrelative]

end Build

/-! ## What the pattern takes from a search -/

section

variable {d : Disk} {pattern : Bytes} {exclude R S M N : List Bytes}

theorem isExcluded_append (patterns : List Bytes) (relative : Bytes) :
    Discovery.isExcluded (exclude ++ patterns) relative =
      (Discovery.isExcluded exclude relative || Discovery.isExcluded patterns relative) :=
  List.any_append

/-- The names below a directory are well-formed. -/
def NamesValid (d : Disk) (S : List Bytes) : Prop :=
  ∀ N e, d.item? (S ++ N) = some e → ∀ n ∈ N, Utf8.isValid n = true

theorem namesValid_of_entries (hd : d.Tree)
    (h : ∀ x ∈ d.entries, ∀ n ∈ x.1, Utf8.isValid n = true) (S : List Bytes) :
    NamesValid d S := by
  intro N e hentry n hn
  have hmem := List.mem_append_right S hn
  exact h _ ((hd.mem (List.ne_nil_of_mem hmem)).2 hentry) n hmem

theorem selected_escape_iff (hd : d.Tree) (hvalid : NamesValid d S) (hM : ∀ n ∈ M, IsName n)
    (hMvalid : ∀ n ∈ M, Utf8.isValid n = true) (hne : M ≠ []) :
    Discovery.Selected d pattern (exclude ++ [Glob.escape (Discovery.textOf M)]) S [] N ↔
      Discovery.Selected d pattern exclude S [] N ∧ ¬ M <+: N := by
  have hnamed {e : Disk.Entry} (h : d.item? (S ++ N) = some e) :
      ∀ n ∈ N, IsName n ∧ Utf8.isValid n = true := fun n hn =>
    ⟨hd.isName h (List.mem_append_right S hn), hvalid N e h n hn⟩
  -- the pattern matches the names of the directory alone
  have hmatch {P : List Bytes} (hP : ∀ n ∈ P, IsName n ∧ Utf8.isValid n = true) :
      Discovery.isExcluded [Glob.escape (Discovery.textOf M)] (Discovery.textOf P) = true ↔
        P = M := by
    rw [Discovery.isExcluded, List.any_cons, List.any_nil, Bool.or_false,
      Glob.accepts_escape_iff (isValid_textOf hMvalid) (isValid_textOf fun n hn => (hP n hn).2)]
    exact ⟨Discovery.textOf_injective (fun n hn => (hP n hn).1) hM, congrArg _⟩
  constructor
  · rintro ⟨hnil, ⟨e, hentry, he⟩, haccepted, hentered⟩
    have hP {P : List Bytes} (hP : P <+: N) : ∀ n ∈ P, IsName n ∧ Utf8.isValid n = true :=
      fun n hn => hnamed hentry n (hP.subset hn)
    have hboth (P : List Bytes) (hbegins : P <+: N) (hPne : P ≠ []) :
        Discovery.isExcluded exclude (Discovery.textOf P) = false ∧ P ≠ M := by
      have := hentered P hbegins hPne
      rw [isExcluded_append, Bool.or_eq_false_iff] at this
      refine ⟨this.1, fun heq => ?_⟩
      have hexcluded := (hmatch (hP hbegins)).2 heq
      rw [List.nil_append] at this
      rw [hexcluded] at this
      cases this.2
    exact ⟨⟨hnil, ⟨e, hentry, he⟩, haccepted, fun P hbegins hPne => (hboth P hbegins hPne).1⟩,
      fun hbegins => (hboth M hbegins hne).2 rfl⟩
  · rintro ⟨⟨hnil, ⟨e, hentry, he⟩, haccepted, hentered⟩, hoff⟩
    refine ⟨hnil, ⟨e, hentry, he⟩, haccepted, fun P hbegins hPne => ?_⟩
    rw [isExcluded_append, hentered P hbegins hPne, Bool.false_or]
    refine Bool.eq_false_iff.2 fun hexcluded => hoff ?_
    rw [List.nil_append] at hexcluded
    rw [← (hmatch fun n hn => hnamed hentry n (hbegins.subset hn)).1 hexcluded]
    exact hbegins

/-- A path at or below a directory, by its names. -/
def isWithin (X : List Bytes) (path : Bytes) : Bool := X.isPrefixOf (Path.segments path)

/-- The entries below the directory that an escaped path names are left out. -/
theorem Discovery.Lists.filter (hd : d.Tree) (hvalid : NamesValid d S)
    (hR : ∀ n ∈ R, IsName n) (hM : ∀ n ∈ M, IsName n) (hMvalid : ∀ n ∈ M, Utf8.isValid n = true)
    (hne : M ≠ []) {files : List Bytes} (h : Discovery.Lists d pattern exclude R S files) :
    Discovery.Lists d pattern (exclude ++ [Glob.escape (Discovery.textOf M)]) R S
      (files.filter fun f => !isWithin (R ++ M) f) := by
  refine ⟨fun f => ?_, h.ascending.filter _⟩
  have hwithin {N : List Bytes} (hselected : Discovery.Selected d pattern exclude S [] N) :
      isWithin (R ++ M) (spell true (R ++ N)) = true ↔ M <+: N := by
    have hnormal := (Path.Normal.of_names hR true).append (hselected.isName hd)
    rw [List.nil_append] at hnormal
    rw [isWithin, Path.segments_spell hnormal, List.isPrefixOf_iff_prefix,
      List.prefix_append_right_inj]
  rw [List.mem_filter, h.mem]
  constructor
  · rintro ⟨⟨N, hselected, rfl⟩, houtside⟩
    refine ⟨N, (selected_escape_iff hd hvalid hM hMvalid hne).2 ⟨hselected, fun hbegins => ?_⟩, rfl⟩
    rw [(hwithin hselected).2 hbegins] at houtside
    cases houtside
  · rintro ⟨N, hselected, rfl⟩
    obtain ⟨hselected, hoff⟩ := (selected_escape_iff hd hvalid hM hMvalid hne).1 hselected
    exact ⟨⟨N, hselected, rfl⟩, by simpa using mt (hwithin hselected).1 hoff⟩

/-- A further exclude pattern that is well-formed changes only what is found. -/
theorem discover_map {canceled : Bool} {root extra : Bytes} (hextra : Glob.isValid extra = true)
    (f : List Bytes → List Bytes)
    (hvisit : ∀ S, d.locate true (d.absolute root) = .ok (.found S .directory) →
      Bytes.sort ((Discovery.visit d pattern (exclude ++ [extra])
        (Discovery.levels d) S []).map fun path => Path.join (d.absolute root) path) =
      f (Bytes.sort ((Discovery.visit d pattern exclude (Discovery.levels d) S []).map
        fun path => Path.join (d.absolute root) path))) :
    discover d canceled root pattern (exclude ++ [extra]) =
      (discover d canceled root pattern exclude).map f := by
  have hfind : (exclude ++ [extra]).find? (fun p => !Glob.isValid p) =
      exclude.find? fun p => !Glob.isValid p := by
    rw [List.find?_append, List.find?_cons_of_neg (by simp [hextra])]
    simp
  unfold discover
  rw [hfind]
  split
  · rfl
  split
  · rfl
  dsimp only
  split
  · rfl
  split
  · rfl
  split
  · rename_i S hlocate
    exact congrArg Except.ok (hvisit S hlocate)
  · rfl

/-- With the directory that an escaped path names excluded, a search finds what it finds otherwise
but for the paths at or below the directory. -/
theorem discover_escape (hd : d.Tree) {root : Bytes}
    (hvalid : ∀ S, d.locate true (d.absolute root) = .ok (.found S .directory) → NamesValid d S)
    (hM : ∀ n ∈ M, IsName n) (hMvalid : ∀ n ∈ M, Utf8.isValid n = true) (hne : M ≠ [])
    (canceled : Bool) :
    discover d canceled root pattern (exclude ++ [Glob.escape (Discovery.textOf M)]) =
      (discover d canceled root pattern exclude).map
        (List.filter fun f => !isWithin (d.spot root ++ M) f) := by
  have hR : ∀ n ∈ d.spot root, IsName n := Disk.spot_isName
  refine discover_map (Glob.isValid_escape _) _ fun S hlocate => ?_
  rw [Disk.absolute_eq]
  have hfiltered := (Discovery.lists_visit pattern exclude S hd hR).filter hd (hvalid S hlocate) hR
    hM hMvalid hne
  have hlists := Discovery.lists_visit pattern (exclude ++ [Glob.escape (Discovery.textOf M)]) S hd
    hR
  exact Discovery.eq_of_ascending hlists.ascending hfiltered.ascending fun f =>
    (hlists.mem f).trans (hfiltered.mem f).symm

theorem discover_absolute (canceled : Bool) (root : Bytes) :
    discover d canceled (d.absolute root) pattern exclude =
      discover d canceled root pattern exclude := by
  have htwice : d.absolute (d.absolute root) = d.absolute root := by
    rw [Disk.absolute, if_pos (Disk.isAbsolute_absolute d root), Disk.absolute_eq,
      Path.clean_spell (.of_names Disk.spot_isName true)]
  unfold discover
  rw [htwice]

end

/-! ## What a build reports -/

namespace Build

section

variable {config : Config} {root out path : Bytes} {shop : Shop}

/-- A file keeps its path. -/
def Stage.At (path : Bytes) : Stage → Prop
  | .waiting => True
  | .loaded _ => True
  | .coded result _ => result.path = path
  | .finished result => result.path = path

theorem path_writeStep (result : FileResult) (code : Bytes) :
    (writeStep root out result code shop).1.path = result.path := by
  unfold writeStep
  split
  · rfl
  dsimp only
  split
  · rfl
  split <;> rfl

theorem Stage.At.advance {stage : Stage} (h : stage.At path) :
    (Build.advance config root out path stage shop).1.At path := by
  cases stage with
  | waiting =>
    rw [Build.advance, loadStep]
    dsimp only
    split <;> trivial
  | loaded source =>
    rw [Build.advance, codeStep]
    dsimp only
    split <;> rfl
  | coded result code =>
    rw [Build.advance]
    exact (path_writeStep result code).trans h
  | finished result => exact h

theorem path_complete (steps : Nat) {stage : Stage} (h : stage.At path) :
    (complete config root out path steps stage shop).1.path = path := by
  induction steps generalizing stage shop with
  | zero =>
    cases stage with
    | finished result => exact h
    | _ => rfl
  | succ steps ih =>
    cases hstage : stage with
    | finished result =>
      rw [hstage] at h
      exact h
    | _ =>
      have hnext : (Build.advance config root out path stage shop).1.At path := h.advance
      rw [hstage] at hnext
      exact ih hnext

theorem map_path_fileByFile (files : List Bytes) :
    (fileByFile config root out files shop).1.map FileResult.path = files := by
  induction files generalizing shop with
  | nil => rfl
  | cons f files ih =>
    rw [fileByFile]
    dsimp only
    rw [List.map_cons, ih]
    exact congrArg (· :: files) (path_complete 3 trivial)

end

/-- The files that a build reports on. -/
def reported (outcome : Except DiscoveryError Report) : Except DiscoveryError (List Bytes) :=
  outcome.map fun r => (r.files.getD []).map FileResult.path

theorem reported_run (config : Config) (id : Bytes) (canceled : Bool) (target : Target)
    (shop : Shop) :
    reported (run config id canceled target shop).1 = discovered canceled target shop.disk := by
  rw [run_eq]
  cases discovered canceled target shop.disk with
  | error e => rfl
  | ok files => exact congrArg Except.ok (map_path_fileByFile files)

/-- An output directory strictly below the root is excluded by a pattern that matches its path from
the root and nothing else, so a build takes up what a search finds but for what is at or below the
directory. For any other output directory there is no pattern. -/
theorem run_excludes_output {d : Disk} (hd : d.Tree) {root out : Bytes}
    (hroot : Path.isAbsolute root = true)
    (hvalid : ∀ S, d.locate true (d.absolute root) = .ok (.found S .directory) → NamesValid d S) :
    (∀ M, LiesBelow d root out M → Utf8.isValid (d.absolute out) = true →
      ∃ p, outputPattern? d root out = some p ∧ Glob.isValid p = true ∧
        (∀ q, Utf8.isValid q = true →
          (Glob.accepts p q = true ↔ Path.relative? root (d.absolute out) = some q)) ∧
        ∀ config id canceled pattern exclude shop, shop.disk = d →
          reported (run config id canceled ⟨root, pattern, out, exclude⟩ shop).1 =
            (discover d canceled root (patternOf ⟨root, pattern, out, exclude⟩) exclude).map
              (List.filter fun f => !isWithin (d.spot out) f)) ∧
    ((∀ M, ¬ LiesBelow d root out M) → outputPattern? d root out = none ∧
      ∀ config id canceled pattern exclude shop, shop.disk = d →
        reported (run config id canceled ⟨root, pattern, out, exclude⟩ shop).1 =
          discover d canceled root (patternOf ⟨root, pattern, out, exclude⟩) exclude) := by
  constructor
  · intro M hbelow hout
    have hMvalid := hbelow.isValid hout
    have hpattern := outputPattern?_below hroot hbelow
    refine ⟨_, hpattern, Glob.isValid_escape _, fun q hq => ?_, ?_⟩
    · rw [Glob.accepts_escape_iff (isValid_textOf hMvalid) hq, relative?_below hroot hbelow,
        Option.some.injEq, eq_comm]
    rintro config id canceled pattern exclude shop rfl
    rw [reported_run, discovered, exclusions, outputPattern?_absolute hroot, hpattern,
      Option.toList_some, discover_absolute,
      discover_escape hd hvalid hbelow.names hMvalid hbelow.ne_nil, hbelow.spot,
      Disk.spot_absolute hroot]
  · intro hnone
    have hpattern := outputPattern?_elsewhere hroot hnone
    refine ⟨hpattern, ?_⟩
    rintro config id canceled pattern exclude shop rfl
    rw [reported_run, discovered, exclusions, outputPattern?_absolute hroot, hpattern,
      Option.toList_none, List.append_nil, discover_absolute]

/-- A project whose output directory has a name of bytes that are not literal in a pattern, next to
directories that the name would match as a pattern. -/
def bracketedProject : Disk where
  entries := [(["app"], .directory), (["app", "Page.vue"], .file ""),
    (["app", "[ab]*\\\x7bc,d\x7d?"], .directory),
    (["app", "[ab]*\\\x7bc,d\x7d?", "Page.vue"], .file ""),
    (["app", "a\x7bcd"], .directory), (["app", "a\x7bcd", "Kept.vue"], .file "")]
  workingDir := []

theorem run_excludes_output_bracketed :
    LiesBelow bracketedProject "/app" "/app/[ab]*\\\x7bc,d\x7d?" ["[ab]*\\\x7bc,d\x7d?"] ∧
    ∃ p, outputPattern? bracketedProject "/app" "/app/[ab]*\\\x7bc,d\x7d?" = some p ∧
      Glob.isValid p = true ∧
      (∀ q, Utf8.isValid q = true → (Glob.accepts p q = true ↔ Path.relative? "/app"
        (bracketedProject.absolute "/app/[ab]*\\\x7bc,d\x7d?") = some q)) ∧
      ∀ config id canceled pattern exclude shop, shop.disk = bracketedProject →
        reported (run config id canceled
          ⟨"/app", pattern, "/app/[ab]*\\\x7bc,d\x7d?", exclude⟩ shop).1 =
          (discover bracketedProject canceled "/app"
            (patternOf ⟨"/app", pattern, "/app/[ab]*\\\x7bc,d\x7d?", exclude⟩) exclude).map
            (List.filter fun f =>
              !isWithin (bracketedProject.spot "/app/[ab]*\\\x7bc,d\x7d?") f) := by
  have hbelow : LiesBelow bracketedProject "/app" "/app/[ab]*\\\x7bc,d\x7d?"
      ["[ab]*\\\x7bc,d\x7d?"] := ⟨by decide, by decide, by decide +kernel⟩
  have hd : bracketedProject.Tree := by decide +kernel
  have hvalid := namesValid_of_entries hd (by decide +kernel)
  exact ⟨hbelow, (run_excludes_output hd (by decide) fun S _ => hvalid S).1 _ hbelow
    (by decide +kernel)⟩

end Build

end Graft
