import Graft.Proofs.Build.Alone
import Graft.Proofs.Charset.Arrival

/-!
# Graft.Proofs.Build.Schedule

A pool of workers comes to what each file comes to alone, whatever the interleaving: the results are
those of the files alone, and the disk has the changes that each of them makes alone.

* `Disk.Spared`: a path whose content is not affected by what leads to an output.
* `Separate`: files that do not read what others write.
* `Combined`, `Combined.step`, `Combined.steps`: the invariant of a pool.
* `Outcome`, `outcome_of_steps`: what a pool ends in.
-/

namespace Graft

/-- The content of a path stays although an output is written: the output is not at or above the
path, and if a directory has to be made above both, the path has no name that no entry can have and
is no such directory itself. -/
def Disk.Spared (d : Disk) (X Y : List Bytes) : Prop :=
  ¬ Y <+: X ∧ ((∀ P, P <+: X → P <+: Y → d.item? P ≠ none) ∨
    (∀ n ∈ X, n.length ≤ Disk.maxName) ∧ ¬ X <+: Y)

/-- What stands at a path is decoded in one way only. -/
def Disk.Settled (d : Disk) (path : Bytes) : Prop :=
  ∀ data, d.contents path = .ok data → Charset.Settled data

theorem Loader.read_congr {l : Loader} {d e : Disk} {path : Bytes}
    (h : e.contents path = d.contents path) : l.read e path = l.read d path := by
  unfold Loader.read
  rw [h]

namespace Build

open Disk (Grown Carried)

/-! ## Files that do not read what others write -/

/-- Files below a root none of which reads what building another one writes. -/
structure Separate (config : Config) (root out : Bytes) (d : Disk) (files : List Bytes) : Prop where
  plain : d.Plain
  below : ∀ f ∈ files, ∃ N, Below root f N
  distinct : files.Nodup
  outputs : out ≠ [] → ∀ f ∈ files, ∀ g ∈ files,
    d.spot (outputPath root out f) <+: d.spot (outputPath root out g) → f = g
  clean : ∀ f ∈ files, ∀ p ∈ reads config d f, Path.clean p = p
  settled : ∀ f ∈ files, ∀ p ∈ reads config d f, d.Settled p
  spared : out ≠ [] → ∀ f ∈ files, ∀ p ∈ reads config d f, ∀ g ∈ files,
    d.Spared (d.spot p) (d.spot (outputPath root out g))

/-- What any of the files reads. -/
def ReadBySome (config : Config) (d : Disk) (files : List Bytes) (p : Bytes) : Prop :=
  ∃ f ∈ files, p ∈ reads config d f

/-! ## Changes side by side -/

/-- A disk with the changes that each of several makes to the first one, and no others. -/
structure Gathered {ι : Type} (d : Disk) (members : List ι) (own : ι → Disk) (e : Disk) : Prop where
  plain : e.Plain
  home : e.workingDir = d.workingDir
  changed : ∀ i ∈ members, ∀ Z, (own i).item? Z ≠ d.item? Z → e.item? Z = (own i).item? Z
  same : ∀ Z, (∀ i ∈ members, (own i).item? Z = d.item? Z) → e.item? Z = d.item? Z

section

variable {ι : Type} {d e : Disk} {members : List ι} {own : ι → Disk} {output : ι → List Bytes}

theorem Gathered.exists_changed (h : Gathered d members own e) {Z : List Bytes}
    (hZ : e.item? Z ≠ d.item? Z) : ∃ i ∈ members, (own i).item? Z ≠ d.item? Z := by
  by_contra hall
  simp only [not_exists, not_and, not_not] at hall
  exact hZ (h.same Z hall)

/-- Directories stay, if outputs and the directories above them are all that changes. -/
theorem Gathered.directories (h : Gathered d members own e)
    (htouched : ∀ i ∈ members, ∀ Z, (own i).item? Z ≠ d.item? Z → Touched d (own i) (output i) Z)
    {P : List Bytes} (hP : d.item? P = some .directory) : e.item? P = some .directory := by
  by_contra hne
  rw [← hP] at hne
  obtain ⟨i, hi, hchanged⟩ := h.exists_changed hne
  rcases htouched i hi P hchanged with ⟨rfl, hfile⟩ | ⟨_, _, hnone, _⟩
  · exact hfile hP
  · rw [hnone] at hP
    cases hP

end

/-! ## The invariant -/

/-- Every file is where it could be alone, and the disk has the changes of each of them and no
others. -/
structure Combined (config : Config) (root out : Bytes) (d : Disk) (files : List Bytes)
    (pool : Pool) : Prop where
  order : pool.jobs.map Prod.fst = files
  alone : ∀ job ∈ pool.jobs, Alone config root out d job.1 job.2
  cache : Current config d (ReadBySome config d files) pool.shop.cache
  disk : Gathered d pool.jobs (fun job => ownDisk config root out d job.1 job.2) pool.shop.disk

section

variable {config : Config} {root out : Bytes} {d : Disk} {files : List Bytes} {pool : Pool}

theorem Combined.mem (h : Combined config root out d files pool) {job : Bytes × Phase}
    (hjob : job ∈ pool.jobs) : job.1 ∈ files := by
  rw [← h.order]
  exact List.mem_map_of_mem hjob

theorem combined_start {shop : Shop} (hd : shop.disk.Plain)
    (hcache : Current config shop.disk (ReadBySome config shop.disk files) shop.cache) :
    Combined config root out shop.disk files (.start files shop) := by
  have hwaiting : ∀ job ∈ (Pool.start files shop).jobs, job.2 = .waiting := by
    intro job hjob
    obtain ⟨f, _, rfl⟩ := List.mem_map.1 hjob
    rfl
  refine ⟨by simp [Pool.start, Function.comp_def], fun job hjob => ?_, hcache, hd, rfl,
    fun job hjob Z hZ => ?_, fun _ _ => rfl⟩
  · rw [hwaiting job hjob]
    exact .waiting
  · rw [hwaiting job hjob] at hZ
    exact absurd rfl hZ

theorem Combined.touched (hs : Separate config root out d files)
    (h : Combined config root out d files pool) {job : Bytes × Phase} (hjob : job ∈ pool.jobs)
    {Z : List Bytes} (hZ : (ownDisk config root out d job.1 job.2).item? Z ≠ d.item? Z) :
    out ≠ [] ∧ Touched d (ownDisk config root out d job.1 job.2)
      (d.spot (outputPath root out job.1)) Z := by
  obtain ⟨N, hbelow⟩ := hs.below job.1 (h.mem hjob)
  exact own_touched hs.plain hbelow (h.alone job hjob) hZ

/-- Where the disk differs from the beginning, some file has changed it. -/
theorem Combined.exists_touched (hs : Separate config root out d files)
    (h : Combined config root out d files pool) {Z : List Bytes}
    (hZ : pool.shop.disk.item? Z ≠ d.item? Z) :
    ∃ job ∈ pool.jobs, out ≠ [] ∧ pool.shop.disk.item? Z =
      (ownDisk config root out d job.1 job.2).item? Z ∧
      Touched d (ownDisk config root out d job.1 job.2) (d.spot (outputPath root out job.1)) Z := by
  obtain ⟨job, hjob, hne⟩ := h.disk.exists_changed hZ
  obtain ⟨hout, htouched⟩ := h.touched hs hjob hne
  exact ⟨job, hjob, hout, h.disk.changed job hjob Z hne, htouched⟩

theorem Combined.directories (hs : Separate config root out d files)
    (h : Combined config root out d files pool) {P : List Bytes}
    (hP : d.item? P = some .directory) : pool.shop.disk.item? P = some .directory :=
  h.disk.directories (fun _ hjob _ hZ => (h.touched hs hjob hZ).2) hP

theorem Combined.contents (hs : Separate config root out d files)
    (h : Combined config root out d files pool) {f p : Bytes} (hf : f ∈ files)
    (hp : p ∈ reads config d f) : pool.shop.disk.contents p = d.contents p := by
  have htouched {Z : List Bytes} (hZ : Z <+: d.spot p) (hne : pool.shop.disk.item? Z ≠ d.item? Z) :
      ∃ g ∈ files, out ≠ [] ∧ Z <+: d.spot (outputPath root out g) ∧ d.item? Z = none ∧
        pool.shop.disk.item? Z = some .directory := by
    obtain ⟨job, hjob, hout, heq, ⟨rfl, _⟩ | ⟨hpre, _, hnone, hdir⟩⟩ := h.exists_touched hs hne
    · exact absurd hZ (hs.spared hout f hf p hp job.1 (h.mem hjob)).1
    · exact ⟨job.1, h.mem hjob, hout, hpre, hnone, heq.trans hdir⟩
  have hgrown : Grown d pool.shop.disk (d.spot p) := by
    intro P hP
    by_cases heq : pool.shop.disk.item? P = d.item? P
    · exact .inl heq
    · obtain ⟨_, _, _, _, hnone, hdir⟩ := htouched hP heq
      exact .inr ⟨hnone, hdir⟩
  have hown : pool.shop.disk.item? (d.spot p) = d.item? (d.spot p) := by
    by_contra hne
    obtain ⟨g, hg, hout, hpre, hnone, _⟩ := htouched List.prefix_rfl hne
    rcases (hs.spared hout f hf p hp g hg).2 with hthere | ⟨_, hnot⟩
    · exact hthere _ List.prefix_rfl hpre hnone
    · exact hnot hpre
  have hfits : (∀ n ∈ d.spot p, n.length ≤ Disk.maxName) ∨
      ∀ P, P <+: d.spot p → pool.shop.disk.item? P = d.item? P := by
    by_cases hshort : ∀ n ∈ d.spot p, n.length ≤ Disk.maxName
    · exact .inl hshort
    · refine .inr fun P hP => ?_
      by_contra hne
      obtain ⟨g, hg, hout, hpre, hnone, _⟩ := htouched hP hne
      rcases (hs.spared hout f hf p hp g hg).2 with hthere | ⟨h, _⟩
      · exact hthere P hP hpre hnone
      · exact hshort h
  exact Disk.contents_grown hs.plain h.disk.plain h.disk.home (hs.clean f hf p hp) hgrown hown hfits

/-- What stands where it stood is read as before, in any order of arrival. -/
theorem read_detecting {e : Disk} {p : Bytes} (hcontents : e.contents p = d.contents p)
    (hsettled : d.Settled p) (D : Charset.Detector) :
    (config.detecting D).loader.read e p = config.loader.read d p := by
  have hallows : (config.detecting D).loader.allows p = config.loader.allows p := rfl
  unfold Loader.read
  rw [hcontents, hallows]
  cases hdata : d.contents p with
  | error e => rfl
  | ok data =>
    have hdecode : D.decode data = config.loader.detector.decode data :=
      Charset.settled_iff.1 (hsettled data hdata) _ _
    simp only [Config.detecting, hdecode]

theorem eq_of_fst_eq {jobs : List (Bytes × Phase)} (h : (jobs.map Prod.fst).Nodup)
    {job job' : Bytes × Phase} (hjob : job ∈ jobs) (hjob' : job' ∈ jobs) (heq : job.1 = job'.1) :
    job = job' := by
  induction jobs with
  | nil => cases hjob
  | cons first jobs ih =>
    rw [List.map_cons, List.nodup_cons] at h
    rcases List.mem_cons.1 hjob with rfl | hrest <;> rcases List.mem_cons.1 hjob' with rfl | hrest'
    · rfl
    · exact absurd (List.mem_map.2 ⟨job', hrest', heq.symm⟩) h.1
    · exact absurd (List.mem_map.2 ⟨job, hrest, heq⟩) h.1
    · exact ih h.2 hrest hrest'

/-- A file that a worker has is not disturbed by the others. -/
theorem Combined.undisturbed (hs : Separate config root out d files)
    (h : Combined config root out d files pool) {path : Bytes} {phase : Phase}
    (hjob : (path, phase) ∈ pool.jobs) (hactive : phase.isActive = true) :
    Undisturbed config root out d path (ownDisk config root out d path phase) pool.shop.disk := by
  have hmem : path ∈ files := h.mem hjob
  obtain ⟨N, hbelow⟩ := hs.below path hmem
  have houtput (hout : out ≠ []) : pool.shop.disk.item? (d.spot (outputPath root out path)) =
      d.item? (d.spot (outputPath root out path)) := by
    by_contra hne
    obtain ⟨job, hjob', _, heq, ⟨hsame, _⟩ | ⟨hpre, hdiff, _⟩⟩ := h.exists_touched hs hne
    · have hpath := hs.outputs hout path hmem job.1 (h.mem hjob') (hsame ▸ List.prefix_rfl)
      have hnodup : (pool.jobs.map Prod.fst).Nodup := h.order ▸ hs.distinct
      obtain rfl := eq_of_fst_eq hnodup hjob hjob' hpath
      exact hne (heq.trans (own_output hs.plain hbelow hactive hout))
    · have hpath := hs.outputs hout path hmem job.1 (h.mem hjob') hpre
      rw [← hpath] at hdiff
      exact hdiff rfl
  refine ⟨h.disk.plain, h.disk.home,
    fun p hp => read_detecting (h.contents hs hmem hp) (hs.settled path hmem p hp),
    fun P hP => h.directories hs hP, fun Z hZ => h.disk.changed _ hjob Z hZ,
    fun hout P hP => ?_, fun hout _ => houtput hout⟩
  by_cases heq : pool.shop.disk.item? P = d.item? P
  · exact .inl heq
  · obtain ⟨job, hjob', _, hnow, ⟨rfl, _⟩ | ⟨_, _, hnone, hdir⟩⟩ := h.exists_touched hs heq
    · have hpath := hs.outputs hout job.1 (h.mem hjob') path hmem hP
      rw [hpath] at heq
      exact absurd (houtput hout) heq
    · exact .inr ⟨hnone, hnow.trans hdir⟩

/-- What two files change alike: directories above both of their outputs. -/
theorem touched_both (hs : Separate config root out d files) (hout : out ≠ []) {f g : Bytes}
    (hf : f ∈ files) (hg : g ∈ files) (hne : f ≠ g) {e e' : Disk} {Z : List Bytes}
    (h : Touched d e (d.spot (outputPath root out f)) Z)
    (h' : Touched d e' (d.spot (outputPath root out g)) Z) :
    d.item? Z = none ∧ e.item? Z = some .directory ∧ e'.item? Z = some .directory := by
  rcases h with ⟨rfl, _⟩ | ⟨hpre, _, hnone, hdir⟩
  · rcases h' with ⟨heq, _⟩ | ⟨hpre, _, _, _⟩
    · exact absurd (hs.outputs hout f hf g hg (heq ▸ List.prefix_rfl)) hne
    · exact absurd (hs.outputs hout f hf g hg hpre) hne
  · rcases h' with ⟨rfl, _⟩ | ⟨_, _, _, hdir'⟩
    · exact absurd (hs.outputs hout g hg f hf hpre).symm hne
    · exact ⟨hnone, hdir, hdir'⟩

theorem mem_middle {job job' : Bytes × Phase} {before after : List (Bytes × Phase)} :
    job ∈ before ++ job' :: after ↔ job = job' ∨ job ∈ before ++ after := by
  simp [or_left_comm]

section

variable {before after : List (Bytes × Phase)} {path : Bytes} {phase phase' : Phase}
  {shop shop' : Shop}

theorem Combined.fst_ne (hs : Separate config root out d files)
    (h : Combined config root out d files ⟨before ++ (path, phase) :: after, shop⟩)
    {job : Bytes × Phase} (hjob : job ∈ before ++ after) : job.1 ≠ path := by
  have hnodup : ((before ++ (path, phase) :: after).map Prod.fst).Nodup := h.order ▸ hs.distinct
  rw [List.map_append, List.map_cons] at hnodup
  have hdisjoint := List.nodup_middle.1 hnodup
  rw [List.nodup_cons, ← List.map_append] at hdisjoint
  exact fun heq => hdisjoint.1 (List.mem_map.2 ⟨job, hjob, heq⟩)

theorem Combined.changed_other (hs : Separate config root out d files)
    (h : Combined config root out d files ⟨before ++ (path, phase) :: after, shop⟩)
    {paths : Bytes → Prop} (hkept : Kept config root out d path paths phase phase' shop shop')
    {job : Bytes × Phase} (hjob : job ∈ before ++ after) {Z : List Bytes}
    (hZ : (ownDisk config root out d job.1 job.2).item? Z ≠ d.item? Z) :
    shop'.disk.item? Z = (ownDisk config root out d job.1 job.2).item? Z := by
  have hmine : (path, phase) ∈ before ++ (path, phase) :: after := by simp
  have hother : job ∈ before ++ (path, phase) :: after := mem_middle.2 (.inr hjob)
  have hnow := h.disk.changed job hother Z hZ
  by_cases heq : (ownDisk config root out d path phase').item? Z =
      (ownDisk config root out d path phase).item? Z
  · rw [(hkept.carried Z).2 heq]
    exact hnow
  · -- Both files change the spot, so it is a directory above both outputs.
    obtain ⟨N, hbelow⟩ := hs.below path (h.mem hmine)
    obtain ⟨hout, htouched⟩ := h.touched hs hother hZ
    have hne := h.fst_ne hs hjob
    rw [(hkept.carried Z).1 heq]
    by_cases hd : (ownDisk config root out d path phase').item? Z = d.item? Z
    · have hbefore : (ownDisk config root out d path phase).item? Z ≠ d.item? Z :=
        fun h => heq (hd.trans h.symm)
      have htouched' := (h.touched hs hmine hbefore).2
      have hboth := touched_both hs hout (h.mem hother) (h.mem hmine) hne htouched htouched'
      have hstays := hkept.directories Z hboth.2.2
      rw [hd, hboth.1] at hstays
      cases hstays
    · have htouched' := (own_touched hs.plain hbelow hkept.alone hd).2
      have hboth := touched_both hs hout (h.mem hother) (h.mem hmine) hne htouched htouched'
      rw [hboth.2.1, hboth.2.2]

/-- An operation on one file makes its change to the disk and keeps the changes of the others. -/
theorem Combined.work (hs : Separate config root out d files)
    (h : Combined config root out d files ⟨before ++ (path, phase) :: after, shop⟩)
    (hactive : phase.isActive = true) {D : Charset.Detector}
    (hnext : phase.next (config.detecting D) root out path shop = (phase', shop')) :
    Combined config root out d files ⟨before ++ (path, phase') :: after, shop'⟩ := by
  have hjob : (path, phase) ∈ before ++ (path, phase) :: after := by simp
  have hmem : path ∈ files := h.mem hjob
  obtain ⟨N, hbelow⟩ := hs.below path hmem
  have hkept := alone_next hs.plain hbelow h.cache (fun p hp => ⟨path, hmem, hp⟩) (h.alone _ hjob)
    (h.undisturbed hs hjob hactive) hactive hnext
  refine ⟨?_, fun job hnew => ?_, hkept.cache, hkept.plain, hkept.home.trans h.disk.home,
    fun job hnew Z hZ => ?_, fun Z hall => ?_⟩
  · have := h.order
    simpa using this
  · rcases mem_middle.1 hnew with rfl | hother
    · exact hkept.alone
    · exact h.alone job (mem_middle.2 (.inr hother))
  · rcases mem_middle.1 hnew with rfl | hother
    · dsimp only at hZ ⊢
      by_cases heq : (ownDisk config root out d path phase').item? Z =
          (ownDisk config root out d path phase).item? Z
      · rw [(hkept.carried Z).2 heq, heq]
        exact h.disk.changed _ hjob Z (heq ▸ hZ)
      · exact (hkept.carried Z).1 heq
    · exact h.changed_other hs hkept hother hZ
  · have hown : (ownDisk config root out d path phase').item? Z = d.item? Z :=
      hall (path, phase') (by simp)
    by_cases heq : (ownDisk config root out d path phase').item? Z =
        (ownDisk config root out d path phase).item? Z
    · rw [(hkept.carried Z).2 heq]
      refine h.disk.same Z fun job hold => ?_
      rcases mem_middle.1 hold with rfl | hother
      · exact heq ▸ hown
      · exact hall job (mem_middle.2 (.inr hother))
    · rw [(hkept.carried Z).1 heq, hown]

theorem Combined.take
    (h : Combined config root out d files ⟨before ++ (path, .waiting) :: after, shop⟩) :
    Combined config root out d files ⟨before ++ (path, .opening .lookUp) :: after, shop⟩ := by
  have hjobs {P : Bytes × Phase → Prop}
      (hall : ∀ job ∈ before ++ (path, Phase.waiting) :: after, P job)
      (hnew : P (path, .waiting) → P (path, .opening .lookUp)) :
      ∀ job ∈ before ++ (path, Phase.opening .lookUp) :: after, P job := by
    intro job hjob
    rcases mem_middle.1 hjob with rfl | hother
    · exact hnew (hall _ (by simp))
    · exact hall job (mem_middle.2 (.inr hother))
  refine ⟨?_, hjobs h.alone fun _ => .opening trivial, h.cache, h.disk.plain, h.disk.home,
    hjobs h.disk.changed fun hP => hP, fun Z hall => h.disk.same Z fun job hjob => ?_⟩
  · have := h.order
    simpa using this
  · rcases mem_middle.1 hjob with rfl | hother
    · rfl
    · exact hall job (mem_middle.2 (.inr hother))

end

theorem Combined.step (hs : Separate config root out d files) {workers : Nat} {next : Pool}
    (h : Combined config root out d files pool)
    (hstep : Pool.Step config root out workers pool next) :
    Combined config root out d files next := by
  cases hstep with
  | take => exact h.take
  | work hactive hnext => exact h.work hs hactive hnext

theorem Combined.steps (hs : Separate config root out d files) {workers n : Nat} {last : Pool}
    (hsteps : Pool.Steps config root out workers n pool last)
    (h : Combined config root out d files pool) : Combined config root out d files last := by
  induction hsteps with
  | refl => exact h
  | head hstep _ ih => exact ih (h.step hs hstep)

/-! ## The outcome -/

/-- A disk with the changes that each of some files makes alone. -/
def Outcome (config : Config) (root out : Bytes) (d : Disk) (files : List Bytes) (e : Disk) :
    Prop :=
  Gathered d files (fun f => (alone config root out d f).2) e

/-- Disks with the same working directory on which the same stands everywhere. -/
def Same (d d' : Disk) : Prop := d.workingDir = d'.workingDir ∧ ∀ Z, d.item? Z = d'.item? Z

theorem Outcome.unique {e e' : Disk} (h : Outcome config root out d files e)
    (h' : Outcome config root out d files e') : Same e e' := by
  refine ⟨h.home.trans h'.home.symm, fun Z => ?_⟩
  by_cases hZ : e.item? Z = d.item? Z
  · by_contra hne
    obtain ⟨f, hf, hchanged⟩ := h'.exists_changed fun heq => hne (hZ.trans heq.symm)
    exact hchanged ((h.changed f hf Z hchanged).symm.trans hZ)
  · obtain ⟨f, hf, hchanged⟩ := h.exists_changed hZ
    rw [h.changed f hf Z hchanged, h'.changed f hf Z hchanged]

theorem Outcome.touched (hs : Separate config root out d files) {f : Bytes} (hf : f ∈ files)
    {Z : List Bytes} (hZ : (alone config root out d f).2.item? Z ≠ d.item? Z) :
    out ≠ [] ∧ Touched d (alone config root out d f).2 (d.spot (outputPath root out f)) Z := by
  obtain ⟨N, hbelow⟩ := hs.below f hf
  exact alone_touched hs.plain hbelow hZ

theorem Outcome.directories (hs : Separate config root out d files) {e : Disk}
    (h : Outcome config root out d files e) {P : List Bytes} (hP : d.item? P = some .directory) :
    e.item? P = some .directory :=
  Gathered.directories h (fun _ hf _ hZ => (touched hs hf hZ).2) hP

/-- Where the disk differs from the beginning, some file has changed it. -/
theorem Outcome.exists_touched (hs : Separate config root out d files) {e : Disk}
    (h : Outcome config root out d files e) {Z : List Bytes} (hZ : e.item? Z ≠ d.item? Z) :
    ∃ f ∈ files, out ≠ [] ∧ e.item? Z = (alone config root out d f).2.item? Z ∧
      Touched d (alone config root out d f).2 (d.spot (outputPath root out f)) Z := by
  obtain ⟨f, hf, hne⟩ := h.exists_changed hZ
  obtain ⟨hout, htouched⟩ := touched hs hf hne
  exact ⟨f, hf, hout, h.changed f hf Z hne, htouched⟩

theorem Outcome.output (hs : Separate config root out d files) {e : Disk}
    (h : Outcome config root out d files e) {f : Bytes} (hf : f ∈ files) :
    e.item? (d.spot (outputPath root out f)) =
      (alone config root out d f).2.item? (d.spot (outputPath root out f)) := by
  by_cases hown : (alone config root out d f).2.item? (d.spot (outputPath root out f)) =
      d.item? (d.spot (outputPath root out f))
  · rw [hown]
    by_contra hne
    obtain ⟨g, hg, hout, heq, ⟨hspot, _⟩ | ⟨hpre, hspot, _⟩⟩ := h.exists_touched hs hne
    · obtain rfl := hs.outputs hout f hf g hg (hspot ▸ List.prefix_rfl)
      exact hne (heq.trans hown)
    · obtain rfl := hs.outputs hout f hf g hg hpre
      exact hspot rfl
  · exact h.changed f hf _ hown

/-- Whatever the interleaving, each file has the result it has alone, the disk has the changes that
each makes alone, and what the files read is as it was. -/
theorem outcome_of_steps (hs : Separate config root out d files) {workers n : Nat} {shop : Shop}
    (hshop : shop.disk = d) (hcache : Current config d (ReadBySome config d files) shop.cache)
    {results : List FileResult}
    (hsteps : Pool.Steps config root out workers n (.start files shop) pool)
    (hdone : pool.Done results) :
    results = files.map (fun f => (alone config root out d f).1) ∧
      Outcome config root out d files pool.shop.disk ∧
      Current config d (ReadBySome config d files) pool.shop.cache ∧
      ∀ p, ReadBySome config d files p → pool.shop.disk.contents p = d.contents p := by
  subst hshop
  have h := (combined_start hs.plain hcache).steps hs hsteps
  have hfinished : ∀ job ∈ pool.jobs,
      job.2 = .finished (alone config root out shop.disk job.1).1 := by
    intro job hjob
    have halone := h.alone job hjob
    have hmem : job.2 ∈ results.map Phase.finished := by
      rw [← hdone]
      exact List.mem_map_of_mem hjob
    obtain ⟨result, _, hresult⟩ := List.mem_map.1 hmem
    rw [← hresult] at halone ⊢
    cases halone
    rfl
  have hown {f : Bytes} (hf : f ∈ files) : ∃ job ∈ pool.jobs, job.1 = f ∧
      ownDisk config root out shop.disk job.1 job.2 = (alone config root out shop.disk f).2 := by
    rw [← h.order] at hf
    obtain ⟨job, hjob, rfl⟩ := List.mem_map.1 hf
    exact ⟨job, hjob, rfl, by rw [hfinished job hjob, ownDisk]⟩
  refine ⟨?_, ⟨h.disk.plain, h.disk.home, fun f hf Z hZ => ?_,
    fun Z hall => h.disk.same Z fun job hjob => ?_⟩, h.cache, ?_⟩
  · have hphases : pool.jobs.map Prod.snd =
        (pool.jobs.map fun job => (alone config root out shop.disk job.1).1).map
          Phase.finished := by
      rw [List.map_map]
      exact List.map_congr_left hfinished
    have hdone : pool.jobs.map Prod.snd = results.map Phase.finished := hdone
    have hresults := List.map_injective_iff.2 (fun _ _ => Phase.finished.inj) (hphases ▸ hdone)
    rw [← hresults, ← h.order, List.map_map]
    rfl
  · obtain ⟨job, hjob, _, hdisk⟩ := hown hf
    rw [← hdisk] at hZ ⊢
    exact h.disk.changed job hjob Z hZ
  · rw [hfinished job hjob, ownDisk]
    exact hall job.1 (h.mem hjob)
  · rintro p ⟨f, hf, hp⟩
    exact h.contents hs hf hp

end

end Build

end Graft
