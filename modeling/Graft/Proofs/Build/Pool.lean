import Graft.Build
import Graft.Proofs.Extend.Answered
import Mathlib.Algebra.GroupWithZero.Nat

/-!
# Graft.Proofs.Build.Pool

Files of a tree worked on side by side. Workers share the disk and the cache, and between any two
operations on either another worker may go on: a read looks into the cache, reads the disk and keeps
what it read in three steps, a transform stops at each ancestor it asks for, and an output is compared,
given its directories and written in three steps. At each read the measures of the charsets arrive in
an order of their own.

* `Config.detecting`: the same with another order of arrival.
* `Fetch`, `Phase`: how far a read and a file are, and one operation further.
* `Pool`, `Pool.Step`, `Pool.Steps`: files side by side, and their interleavings.
* `Pool.exists_step`, `Pool.Steps.length_le`: a pool is never stuck, and it ends.
* `Pool.steps_fileByFile`: one file after the other is one of the interleavings.
* `Ends`: what a build by a number of workers may end in.
-/

namespace Graft.Build

open Extend (Files Asks)

/-- Components transformed in the same way, with another order of arrival. -/
def Config.detecting (config : Config) (D : Charset.Detector) : Config :=
  { config with loader := { config.loader with detector := D } }

@[simp] theorem Config.options_detecting (config : Config) (D : Charset.Detector) :
    (config.detecting D).options = config.options := rfl

@[simp] theorem Config.detecting_detecting (config : Config) (D D' : Charset.Detector) :
    (config.detecting D).detecting D' = config.detecting D' := rfl

/-! ## One file -/

/-- How far a read is: to be looked up in the cache, to be read from the disk, or read and to be
kept. -/
inductive Fetch where
  | lookUp
  | through
  | keep (data : Bytes)

/-- One operation of a read: its result, or how far it is then. -/
def Fetch.next (loader : Loader) (path : Bytes) (shop : Shop) :
    Fetch → (Except ReadError Bytes ⊕ Fetch) × Shop
  | lookUp =>
    match shop.cache with
    | none => (.inr through, shop)
    | some cache =>
      match cache.get? path with
      | none => (.inr through, shop)
      | some (data, cache) => (.inl (.ok data), { shop with cache := some cache })
  | through =>
    match loader.read shop.disk path with
    | .error e => (.inl (.error e), shop)
    | .ok data => if shop.cache.isNone then (.inl (.ok data), shop) else (.inr (keep data), shop)
  | keep data =>
    (.inl (.ok data), { shop with cache := shop.cache.map fun cache => cache.add path data })

/-- How far one file of a tree is, between two operations. -/
inductive Phase where
  | waiting
  | opening (fetch : Fetch)
  /-- The source is transformed, as far as the ancestors read so far allow. -/
  | following (source : Bytes) (answers : List (Except ReadError Bytes))
  /-- The next ancestor is read. -/
  | asking (source : Bytes) (answers : List (Except ReadError Bytes)) (base : Bytes) (fetch : Fetch)
  | coded (result : FileResult) (code : Bytes)
  /-- The output does not hold the code. -/
  | outdated (result : FileResult) (code : Bytes)
  /-- The directories of the output are there. -/
  | placed (result : FileResult) (code : Bytes)
  | finished (result : FileResult)

namespace Phase

/-- Whether a worker has the file. -/
def isActive : Phase → Bool
  | waiting => false
  | finished _ => false
  | _ => true

/-- The result of a file whose source cannot be read. -/
def unread (path : Bytes) (e : ReadError) : FileResult :=
  failure { path := path } .internal ("read component: " ++ e.message)

/-- The result of a file whose transform fails. -/
def untransformed (path : Bytes) (e : Extend.ChainError ReadError) : FileResult :=
  failure { path := path } e.kind (e.message ReadError.message)

/-- What is known of the result of a file once its code is there. -/
def codedResult {σ : Type} (path : Bytes) (t : Extend.Transformed σ ReadError) (code : Bytes) :
    FileResult :=
  { path := path, chain := t.chain, dependencies := t.dependencies, hash := Sha256.hex code }

/-- The source of a file has been read. -/
def opened (path : Bytes) : Except ReadError Bytes → Phase
  | .error e => finished (unread path e)
  | .ok source => following source []

/-- The source of a file has been transformed. -/
def transformed {σ : Type} (path : Bytes) (t : Extend.Transformed σ ReadError) : Phase :=
  match t.code with
  | .error e => finished (untransformed path e)
  | .ok code => coded (codedResult path t code) code

/-- One operation on a file. -/
def next (config : Config) (root out path : Bytes) (shop : Shop) : Phase → Phase × Shop
  | waiting => (opening .lookUp, shop)
  | opening fetch =>
    match fetch.next config.loader path shop with
    | (.inr fetch, shop) => (opening fetch, shop)
    | (.inl data, shop) => (opened path data, shop)
  | following source answers =>
    let t := Extend.transform (.replayed .canceled) config.options path source (answers, none)
    match t.state.2 with
    | some base => (asking source answers base .lookUp, shop)
    | none => (transformed path t, { shop with metrics := t.recorded shop.metrics })
  | asking source answers base fetch =>
    match fetch.next config.loader base shop with
    | (.inr fetch, shop) => (asking source answers base fetch, shop)
    | (.inl data, shop) => (following source (answers ++ [data]), shop)
  | coded result code =>
    if out.isEmpty then (finished result, shop)
    else
      let result := { result with output := outputPath root out result.path }
      if isCurrent shop.disk result.output result.hash then
        (finished { result with unchanged := true }, shop)
      else (outdated result code, shop)
  | outdated result code =>
    match shop.disk.makeDirs (Path.dir result.output) with
    | (.error e, disk) =>
      (finished (failure result .internal (OutputError.directory e).message),
        { shop with disk := disk })
    | (.ok (), disk) => (placed result code, { shop with disk := disk })
  | placed result code =>
    match shop.disk.store result.output code with
    | .error e => (finished (failure result .internal (OutputError.write e).message), shop)
    | .ok disk => (finished result, { shop with disk := disk })
  | finished result => (finished result, shop)

/-- Operations on a file that a worker has, while nobody else goes on. -/
inductive Runs (config : Config) (root out path : Bytes) : Phase → Shop → Phase → Shop → Prop where
  | refl {phase : Phase} {shop : Shop} : Runs config root out path phase shop phase shop
  | head {phase phase' last : Phase} {shop shop' final : Shop} (hactive : phase.isActive = true)
      (h : phase.next config root out path shop = (phase', shop'))
      (hs : Runs config root out path phase' shop' last final) :
      Runs config root out path phase shop last final

section

variable {config : Config} {root out path : Bytes}

theorem Runs.trans {phase phase' phase'' : Phase} {shop shop' shop'' : Shop}
    (h : Runs config root out path phase shop phase' shop')
    (h' : Runs config root out path phase' shop' phase'' shop'') :
    Runs config root out path phase shop phase'' shop'' := by
  induction h with
  | refl => exact h'
  | head hactive h _ ih => exact .head hactive h (ih h')

theorem Runs.single {phase phase' : Phase} {shop shop' : Shop} (hactive : phase.isActive = true)
    (h : phase.next config root out path shop = (phase', shop')) :
    Runs config root out path phase shop phase' shop' := .head hactive h .refl

/-- A read in one to three operations, for a phase that waits for it. -/
theorem runs_fetch (host : Fetch → Phase) (resume : Except ReadError Bytes → Phase) {base : Bytes}
    (hactive : ∀ fetch, (host fetch).isActive = true)
    (hnext : ∀ fetch shop, (host fetch).next config root out path shop =
      match fetch.next config.loader base shop with
      | (.inr fetch, shop) => (host fetch, shop)
      | (.inl data, shop) => (resume data, shop))
    {shop : Shop} {data : Except ReadError Bytes} {cache : Option Cache} {disk : Disk}
    (h : (reader config.loader).read base (shop.cache, shop.disk) = (data, cache, disk)) :
    Runs config root out path (host .lookUp) shop (resume data)
      { shop with cache := cache, disk := disk } := by
  obtain ⟨d, c, m⟩ := shop
  have hthrough {fetch : Fetch} {last : Phase} {final : Shop}
      (hfetch : Fetch.lookUp.next config.loader base ⟨d, c, m⟩ = (.inr fetch, ⟨d, c, m⟩))
      (hs : Runs config root out path (host fetch) ⟨d, c, m⟩ last final) :
      Runs config root out path (host .lookUp) ⟨d, c, m⟩ last final :=
    .head (hactive _) (by rw [hnext, hfetch]) hs
  cases c with
  | none =>
    simp only [reader, Loader.files, Bool.false_eq_true, if_false, Prod.mk.injEq] at h
    obtain ⟨rfl, rfl, rfl⟩ := h
    refine hthrough rfl (.single (hactive _) ?_)
    rw [hnext, Fetch.next]
    cases config.loader.read d base <;> rfl
  | some c =>
    simp only [reader, Cache.before, Loader.files, Bool.false_eq_true, if_false] at h
    cases hget : c.get? base with
    | some hit =>
      obtain ⟨bytes, c'⟩ := hit
      rw [hget] at h
      cases h
      refine .single (hactive _) ?_
      rw [hnext, Fetch.next]
      simp only [hget]
    | none =>
      rw [hget] at h
      have hmiss : Fetch.lookUp.next config.loader base ⟨d, some c, m⟩ =
          (.inr .through, ⟨d, some c, m⟩) := by simp only [Fetch.next, hget]
      cases hread : config.loader.read d base with
      | error e =>
        rw [hread] at h
        cases h
        refine hthrough hmiss (.single (hactive _) ?_)
        rw [hnext, Fetch.next]
        simp only [hread]
      | ok bytes =>
        rw [hread] at h
        cases h
        have hkeep : (host .through).next config root out path ⟨d, some c, m⟩ =
            (host (.keep bytes), ⟨d, some c, m⟩) := by
          rw [hnext, Fetch.next]
          simp only [hread]
          rfl
        have hlast : (host (.keep bytes)).next config root out path ⟨d, some c, m⟩ =
            (resume (.ok bytes), ⟨d, some (c.add base bytes), m⟩) := by
          rw [hnext, Fetch.next]
          rfl
        exact hthrough hmiss (.head (hactive _) hkeep (.single (hactive _) hlast))

/-- The ancestors that are still to be asked for, one after the other. -/
theorem runs_asks {source : Bytes} {paths : List Bytes} {state last : Option Cache × Disk}
    {answers : List (Except ReadError Bytes)}
    (h : Asks (reader config.loader) paths state answers last)
    {before : List (Except ReadError Bytes)}
    (hasked : ∀ k base, paths[k]? = some base →
      (Extend.transform (.replayed .canceled) config.options path source
        (before ++ answers.take k, none)).state = ([], some base)) (m : Metrics) :
    Runs config root out path (.following source before) ⟨state.2, state.1, m⟩
      (.following source (before ++ answers)) ⟨last.2, last.1, m⟩ := by
  induction h generalizing before with
  | nil =>
    rw [List.append_nil]
    exact .refl
  | @cons base paths state next last data answers h _ ih =>
    have hbase := hasked 0 base rfl
    rw [List.take_zero, List.append_nil] at hbase
    have hask : (Phase.following source before).next config root out path ⟨state.2, state.1, m⟩ =
        (.asking source before base .lookUp, ⟨state.2, state.1, m⟩) := by
      simp only [Phase.next, hbase]
    have hfetch : Runs config root out path (.asking source before base .lookUp)
        ⟨state.2, state.1, m⟩ (.following source (before ++ [data])) ⟨next.2, next.1, m⟩ :=
      runs_fetch (fun fetch => .asking source before base fetch)
        (fun data => .following source (before ++ [data])) (fun _ => rfl) (fun _ _ => rfl) h
    have hrest : Runs config root out path (.following source (before ++ [data]))
        ⟨next.2, next.1, m⟩ (.following source ((before ++ [data]) ++ answers))
        ⟨last.2, last.1, m⟩ := ih fun k base hk => by
      have := hasked (k + 1) base hk
      simpa using this
    rw [List.append_assoc, List.singleton_append] at hrest
    exact .head rfl hask (hfetch.trans hrest)

theorem runs_transform (config : Config) (root out path source : Bytes) (shop : Shop) :
    let t := Extend.transform (reader config.loader) config.options path source
      (shop.cache, shop.disk)
    Runs config root out path (.following source []) shop (transformed path t)
      ⟨t.state.2, t.state.1, t.recorded shop.metrics⟩ := by
  intro t
  obtain ⟨answers, hasks, hsame, hasked⟩ := Extend.transform_answered config.options path source
    ReadError.canceled (reader config.loader) (shop.cache, shop.disk)
  have hruns : Runs config root out path (.following source []) shop
      (.following source ([] ++ answers)) ⟨t.state.2, t.state.1, shop.metrics⟩ :=
    runs_asks hasks hasked shop.metrics
  have hreplayed := hsame (.replayed .canceled) _ _ (Extend.asks_replayed .canceled hasks)
  refine hruns.trans (.single rfl ?_)
  rw [List.nil_append, Phase.next, hreplayed]
  rfl

theorem runs_writeStep (result : FileResult) (code : Bytes) (shop : Shop) :
    Runs config root out path (.coded result code) shop
      (.finished (writeStep root out result code shop).1)
      (writeStep root out result code shop).2 := by
  unfold writeStep
  by_cases hout : out.isEmpty = true
  · rw [if_pos hout]
    exact .single rfl (by simp only [Phase.next, if_pos hout])
  rw [if_neg hout]
  dsimp only
  by_cases hcurrent : isCurrent shop.disk (outputPath root out result.path) result.hash = true
  · rw [if_pos hcurrent]
    exact .single rfl (by simp only [Phase.next, if_neg hout, if_pos hcurrent])
  rw [if_neg hcurrent]
  refine .head rfl (by simp only [Phase.next, if_neg hout, if_neg hcurrent]; rfl) ?_
  unfold deliver
  rcases hmade : shop.disk.makeDirs (Path.dir (outputPath root out result.path)) with ⟨made, disk⟩
  cases made with
  | error e => exact .single rfl (by simp only [Phase.next, hmade])
  | ok =>
    refine .head rfl (by simp only [Phase.next, hmade]; rfl) ?_
    dsimp only
    cases hstore : disk.store (outputPath root out result.path) code with
    | error e => exact .single rfl (by simp only [Phase.next, hstore])
    | ok disk' => exact .single rfl (by simp only [Phase.next, hstore])

theorem complete_waiting (config : Config) (root out path : Bytes) (shop : Shop) :
    complete config root out path 3 .waiting shop =
      complete config root out path 2 (loadStep config path shop).1
        (loadStep config path shop).2 :=
  rfl

theorem file_of_read {config : Config} {root out path source : Bytes} {shop : Shop}
    (hcache : shop.cache = none) (hread : config.loader.read shop.disk path = .ok source) :
    file config root out path shop = complete config root out path 2 (.loaded source) shop := by
  obtain ⟨d, c, m⟩ := shop
  cases hcache
  rw [file, complete_waiting, loadStep]
  simp only [reader, Loader.files, Bool.false_eq_true, if_false, hread]

theorem complete_loaded (config : Config) (root out path source : Bytes) (shop : Shop) :
    let t := Extend.transform (reader config.loader) config.options path source
      (shop.cache, shop.disk)
    complete config root out path 2 (.loaded source) shop =
      match t.code with
      | .error e => (untransformed path e, ⟨t.state.2, t.state.1, t.recorded shop.metrics⟩)
      | .ok code => writeStep root out (codedResult path t code) code
        ⟨t.state.2, t.state.1, t.recorded shop.metrics⟩ := by
  intro t
  have hstep : complete config root out path 2 (.loaded source) shop =
      complete config root out path 1 (codeStep config path source shop).1
        (codeStep config path source shop).2 := rfl
  rw [hstep, codeStep]
  cases t.code <;> rfl

theorem complete_of_parse_error (config : Config) (root out path : Bytes) {source : Bytes}
    (shop : Shop) {e : SourceError}
    (h : Component.parse config.options.padding source = .error e) :
    ∃ metrics, complete config root out path 2 (.loaded source) shop =
      (untransformed path (.source e), ⟨shop.disk, shop.cache, metrics⟩) := by
  have ht := Extend.transform_of_parse_error (reader config.loader) config.options path source
    (shop.cache, shop.disk) h
  rw [complete_loaded, ht]
  exact ⟨_, rfl⟩

theorem runs_loaded (config : Config) (root out path source : Bytes) (shop : Shop) :
    Runs config root out path (.following source []) shop
      (.finished (complete config root out path 2 (.loaded source) shop).1)
      (complete config root out path 2 (.loaded source) shop).2 := by
  have ht := runs_transform config root out path source shop
  rw [complete_loaded]
  dsimp only at ht ⊢
  generalize Extend.transform (reader config.loader) config.options path source
    (shop.cache, shop.disk) = t at ht ⊢
  refine ht.trans ?_
  rw [transformed]
  cases t.code with
  | error e => exact .refl
  | ok code => exact runs_writeStep _ code _

theorem runs_file (config : Config) (root out path : Bytes) (shop : Shop) :
    Runs config root out path (.opening .lookUp) shop
      (.finished (file config root out path shop).1) (file config root out path shop).2 := by
  rcases hread : (reader config.loader).read path (shop.cache, shop.disk) with ⟨data, cache, disk⟩
  have hopen : Runs config root out path (.opening .lookUp) shop (opened path data)
      { shop with cache := cache, disk := disk } :=
    runs_fetch (fun fetch => .opening fetch) (opened path) (fun _ => rfl) (fun _ _ => rfl) hread
  refine hopen.trans ?_
  rw [file, complete_waiting, loadStep, hread]
  cases data with
  | error e => exact .refl
  | ok source =>
    exact runs_loaded config root out path source { shop with cache := cache, disk := disk }

end

end Phase

/-! ## Side by side -/

/-- The files of a tree in their order, how far each is, and what the workers share. -/
structure Pool where
  jobs : List (Bytes × Phase)
  shop : Shop

namespace Pool

/-- All files wait. -/
def start (files : List Bytes) (shop : Shop) : Pool := ⟨files.map (·, .waiting), shop⟩

/-- How many files workers have. -/
def active (jobs : List (Bytes × Phase)) : Nat := jobs.countP fun job => job.2.isActive

/-- One worker goes on: it takes the first file that waits, or does one operation on the file it
has. -/
inductive Step (config : Config) (root out : Bytes) (workers : Nat) : Pool → Pool → Prop where
  | take {before after : List (Bytes × Phase)} {path : Bytes} {shop : Shop}
      (hfirst : ∀ job ∈ before, job.2 ≠ .waiting) (hfree : active (before ++ after) < workers) :
      Step config root out workers ⟨before ++ (path, .waiting) :: after, shop⟩
        ⟨before ++ (path, .opening .lookUp) :: after, shop⟩
  | work {before after : List (Bytes × Phase)} {path : Bytes} {phase phase' : Phase}
      {shop shop' : Shop} {D : Charset.Detector} (hactive : phase.isActive = true)
      (h : phase.next (config.detecting D) root out path shop = (phase', shop')) :
      Step config root out workers ⟨before ++ (path, phase) :: after, shop⟩
        ⟨before ++ (path, phase') :: after, shop'⟩

/-- An interleaving, with its length. -/
inductive Steps (config : Config) (root out : Bytes) (workers : Nat) :
    Nat → Pool → Pool → Prop where
  | refl {pool : Pool} : Steps config root out workers 0 pool pool
  | head {n : Nat} {pool next last : Pool} (h : Step config root out workers pool next)
      (hs : Steps config root out workers n next last) :
      Steps config root out workers (n + 1) pool last

/-- All files are finished, with these results. -/
def Done (pool : Pool) (results : List FileResult) : Prop :=
  pool.jobs.map Prod.snd = results.map .finished

section

variable {config : Config} {root out : Bytes} {workers : Nat}

theorem Steps.trans {n k : Nat} {pool next last : Pool}
    (h : Steps config root out workers n pool next)
    (h' : Steps config root out workers k next last) :
    Steps config root out workers (n + k) pool last := by
  induction h with
  | refl => rwa [Nat.zero_add]
  | head h _ ih =>
    rw [Nat.add_right_comm]
    exact .head h (ih h')

/-- Every order of arrival is allowed at every operation, whatever the configuration starts from. -/
theorem Steps.detecting {D : Charset.Detector} {n : Nat} {pool last : Pool}
    (h : Steps (config.detecting D) root out workers n pool last) :
    Steps config root out workers n pool last := by
  induction h with
  | refl => exact .refl
  | head h _ ih =>
    refine .head ?_ ih
    cases h with
    | take hfirst hfree => exact .take hfirst hfree
    | @work _ _ _ _ _ _ _ E hactive h => exact .work (D := E) hactive h

theorem steps_of_runs (workers : Nat) {path : Bytes} {phase phase' : Phase} {shop shop' : Shop}
    (h : Phase.Runs config root out path phase shop phase' shop')
    (before after : List (Bytes × Phase)) :
    ∃ n, Steps config root out workers n ⟨before ++ (path, phase) :: after, shop⟩
      ⟨before ++ (path, phase') :: after, shop'⟩ := by
  induction h with
  | refl => exact ⟨0, .refl⟩
  | head hactive h _ ih =>
    obtain ⟨n, hs⟩ := ih
    exact ⟨n + 1, .head (.work (D := config.loader.detector) hactive h) hs⟩

theorem active_eq_zero_iff {jobs : List (Bytes × Phase)} :
    active jobs = 0 ↔ ∀ job ∈ jobs, job.2.isActive = false := by
  rw [active, List.countP_eq_zero]
  simp

theorem step_take (hworkers : 1 ≤ workers) {before after : List (Bytes × Phase)}
    (hbefore : ∀ job ∈ before, ∃ result, job.2 = .finished result)
    (hafter : ∀ job ∈ after, job.2 = .waiting) (path : Bytes) (shop : Shop) :
    Step config root out workers ⟨before ++ (path, .waiting) :: after, shop⟩
      ⟨before ++ (path, .opening .lookUp) :: after, shop⟩ := by
  have hidle : active (before ++ after) = 0 := by
    rw [active_eq_zero_iff]
    intro job hjob
    rcases List.mem_append.1 hjob with hjob | hjob
    · obtain ⟨result, h⟩ := hbefore job hjob
      rw [h]
      rfl
    · rw [hafter job hjob]
      rfl
  refine .take (fun job hjob h => ?_) (by omega)
  obtain ⟨result, hfinished⟩ := hbefore job hjob
  rw [h] at hfinished
  cases hfinished

theorem steps_fileByFile (config : Config) (root out : Bytes) (hworkers : 1 ≤ workers)
    (files : List Bytes) {before : List (Bytes × Phase)}
    (hbefore : ∀ job ∈ before, ∃ result, job.2 = .finished result)
    (shop : Shop) :
    ∃ n, Steps config root out workers n ⟨before ++ files.map (·, .waiting), shop⟩
      ⟨before ++ files.zip ((fileByFile config root out files shop).1.map .finished),
        (fileByFile config root out files shop).2⟩ := by
  induction files generalizing before shop with
  | nil => exact ⟨0, .refl⟩
  | cons path files ih =>
    have htake : Step config root out workers
        ⟨before ++ (path, .waiting) :: files.map (·, .waiting), shop⟩
        ⟨before ++ (path, .opening .lookUp) :: files.map (·, .waiting), shop⟩ :=
      step_take hworkers hbefore (by simp) path shop
    obtain ⟨n, hfile⟩ := steps_of_runs workers
      (Phase.runs_file config root out path shop) before (files.map (·, .waiting))
    rcases hresult : file config root out path shop with ⟨result, shop'⟩
    rw [hresult] at hfile
    obtain ⟨k, hrest⟩ := @ih (before ++ [(path, .finished result)]) (fun job hjob => by
      rcases List.mem_append.1 hjob with hjob | hjob
      · exact hbefore job hjob
      · rw [List.mem_singleton.1 hjob]
        exact ⟨result, rfl⟩) shop'
    rw [List.append_assoc, List.append_assoc] at hrest
    refine ⟨n + k + 1, .head htake ?_⟩
    rw [fileByFile, hresult]
    exact hfile.trans hrest

/-! ## Progress -/

theorem exists_finished {phase : Phase} (hactive : phase.isActive = false)
    (hwaiting : phase ≠ .waiting) : ∃ result, phase = .finished result := by
  cases phase with
  | finished result => exact ⟨result, rfl⟩
  | waiting => exact absurd rfl hwaiting
  | opening => cases hactive
  | following => cases hactive
  | asking => cases hactive
  | coded => cases hactive
  | outdated => cases hactive
  | placed => cases hactive

end

end Pool

/-! ## Ends -/

/-- How many operations a read may still take. -/
def Fetch.weight : Fetch → Nat
  | lookUp => 3
  | through => 2
  | keep _ => 1

/-- How many operations a file may still take, if at most `depth` ancestors are followed. -/
def Phase.weight (depth : Nat) : Phase → Nat
  | waiting => 4 * depth + 8
  | opening fetch => 4 * depth + 4 + fetch.weight
  | following _ answers => 4 * (depth - answers.length) + 4
  | asking _ answers _ fetch => 4 * (depth - (answers.length + 1)) + 4 + fetch.weight
  | coded _ _ => 3
  | outdated _ _ => 2
  | placed _ _ => 1
  | finished _ => 0

def Pool.weight (depth : Nat) (pool : Pool) : Nat :=
    (pool.jobs.map fun job => job.2.weight depth).sum

section

variable {config : Config} {root out path : Bytes} {workers : Nat}

theorem Fetch.weight_next {loader : Loader} {shop shop' : Shop} {fetch fetch' : Fetch}
    (h : fetch.next loader path shop = (.inr fetch', shop')) : fetch'.weight < fetch.weight := by
  cases fetch with
  | lookUp =>
    simp only [Fetch.next] at h
    split at h
    · cases h
      decide
    · split at h
      · cases h
        decide
      · cases h
  | through =>
    simp only [Fetch.next] at h
    split at h
    · cases h
    · split at h
      · cases h
      · cases h
        exact Nat.lt_succ_self 1
  | keep data => cases h

theorem Fetch.weight_pos (fetch : Fetch) : 0 < fetch.weight := by
  cases fetch <;> exact Nat.succ_pos _

theorem Phase.weight_opened (depth : Nat) (data : Except ReadError Bytes) :
    (opened path data).weight depth ≤ 4 * depth + 4 := by
  cases data with
  | error e => exact Nat.zero_le _
  | ok source => exact Nat.le_refl _

theorem Phase.weight_transformed {σ : Type} (depth : Nat) (t : Extend.Transformed σ ReadError) :
    (transformed path t).weight depth ≤ 3 := by
  rw [transformed]
  split
  · exact Nat.zero_le _
  · exact Nat.le_refl _

theorem Phase.weight_next {phase phase' : Phase} {shop shop' : Shop}
    (hactive : phase.isActive = true) (h : phase.next config root out path shop = (phase', shop')) :
    phase'.weight config.options.maxDepth < phase.weight config.options.maxDepth := by
  cases phase with
  | waiting => cases hactive
  | opening fetch =>
    simp only [Phase.next] at h
    rcases hfetch : fetch.next config.loader path shop with ⟨data | fetch', shop''⟩
    · rw [hfetch] at h
      cases h
      exact Nat.lt_of_le_of_lt (weight_opened _ data) (Nat.lt_add_of_pos_right fetch.weight_pos)
    · rw [hfetch] at h
      cases h
      have := Fetch.weight_next hfetch
      simp only [weight]
      omega
  | following source answers =>
    simp only [Phase.next] at h
    split at h
    · rename_i base hbase
      cases h
      have hlen := Extend.length_of_asked _ _ _ _ hbase
      simp only [weight, Fetch.weight]
      omega
    · cases h
      refine Nat.lt_of_le_of_lt (weight_transformed _ _) ?_
      simp only [weight]
      omega
  | asking source answers base fetch =>
    simp only [Phase.next] at h
    rcases hfetch : fetch.next config.loader base shop with ⟨data | fetch', shop''⟩
    · rw [hfetch] at h
      cases h
      have hpos := fetch.weight_pos
      simp only [weight, List.length_append, List.length_singleton]
      omega
    · rw [hfetch] at h
      cases h
      have := Fetch.weight_next hfetch
      simp only [weight]
      omega
  | coded result code =>
    simp only [Phase.next] at h
    split at h
    · cases h
      simp [weight]
    · split at h <;> cases h <;> simp [weight]
  | outdated result code =>
    simp only [Phase.next] at h
    split at h <;> cases h <;> simp [weight]
  | placed result code =>
    simp only [Phase.next] at h
    split at h <;> cases h <;> simp [weight]
  | finished result => cases hactive

theorem Pool.Step.weight_lt {pool next : Pool} (h : Step config root out workers pool next) :
    next.weight config.options.maxDepth < pool.weight config.options.maxDepth := by
  have hsum {before after : List (Bytes × Phase)} {path : Bytes} {phase phase' : Phase}
      {shop shop' : Shop}
      (h : phase'.weight config.options.maxDepth < phase.weight config.options.maxDepth) :
      Pool.weight config.options.maxDepth ⟨before ++ (path, phase') :: after, shop'⟩ <
        Pool.weight config.options.maxDepth ⟨before ++ (path, phase) :: after, shop⟩ := by
    simp only [Pool.weight, List.map_append, List.map_cons, List.sum_append, List.sum_cons]
    omega
  cases h with
  | take => exact hsum (by simp only [Phase.weight, Fetch.weight]; omega)
  | work hactive h =>
    have hlt := Phase.weight_next hactive h
    exact hsum hlt

theorem Pool.Steps.length_le {n : Nat} {pool last : Pool}
    (h : Steps config root out workers n pool last) :
    n + last.weight config.options.maxDepth ≤ pool.weight config.options.maxDepth := by
  induction h with
  | refl => omega
  | head h _ ih =>
    have := h.weight_lt
    omega

end

/-- The pattern of a target. -/
def patternOf (target : Target) : Bytes :=
  if target.pattern.isEmpty then Target.defaultPattern else target.pattern

/-- The patterns a target excludes, with the one for its output directory. -/
def exclusions (target : Target) (d : Disk) : List Bytes :=
  target.exclude ++ (outputPattern? d (d.absolute target.root) target.out).toList

/-- The files of a target. -/
def discovered (canceled : Bool) (target : Target) (d : Disk) :
    Except DiscoveryError (List Bytes) :=
  discover d canceled (d.absolute target.root) (patternOf target) (exclusions target d)

/-- What a build by a number of workers may end in: its report, or why nothing was built, and what is
left of the disk, the cache and the metrics. -/
inductive Ends (config : Config) (id : Bytes) (canceled : Bool) (workers : Nat) (target : Target)
    (shop : Shop) : Except DiscoveryError Report → Shop → Prop where
  | refused {e : DiscoveryError}
      (h : discovered canceled target shop.disk = .error e) :
      Ends config id canceled workers target shop (.error e) shop
  | done {files : List Bytes} {n : Nat} {pool : Pool} {results : List FileResult}
      (h : discovered canceled target shop.disk = .ok files)
      (hsteps : Pool.Steps config (shop.disk.absolute target.root) target.out workers n
        (.start files shop) pool)
      (hdone : pool.Done results) :
      Ends config id canceled workers target shop
        (.ok (report id (shop.disk.absolute target.root) (patternOf target) results)) pool.shop

theorem Ends.detecting {config : Config} {D : Charset.Detector} {id : Bytes} {canceled : Bool}
    {workers : Nat} {target : Target} {shop last : Shop} {outcome : Except DiscoveryError Report}
    (h : Ends (config.detecting D) id canceled workers target shop outcome last) :
    Ends config id canceled workers target shop outcome last := by
  cases h with
  | refused h => exact .refused h
  | done h hsteps hdone => exact .done h hsteps.detecting hdone

theorem fileByFile_single (config : Config) (root out path : Bytes) (shop : Shop) :
    fileByFile config root out [path] shop =
      ([(file config root out path shop).1], (file config root out path shop).2) := rfl

theorem length_fileByFile (config : Config) (root out : Bytes) (files : List Bytes) (shop : Shop) :
    (fileByFile config root out files shop).1.length = files.length := by
  induction files generalizing shop with
  | nil => rfl
  | cons path files ih =>
    rw [fileByFile, List.length_cons, List.length_cons, ih]

section

variable (config : Config) (id : Bytes) (canceled : Bool) (target : Target) (shop : Shop)

theorem run_eq : run config id canceled target shop =
    match discovered canceled target shop.disk with
    | .error e => (.error e, shop)
    | .ok files =>
      let (results, shop') :=
        fileByFile config (shop.disk.absolute target.root) target.out files shop
      (.ok (report id (shop.disk.absolute target.root) (patternOf target) results), shop') := rfl

variable {config id canceled target shop} {files : List Bytes} {f : Bytes}

end

theorem ends_run (config : Config) (id : Bytes) (canceled : Bool) {workers : Nat}
    (hworkers : 1 ≤ workers) (target : Target) (shop : Shop) :
    Ends config id canceled workers target shop (run config id canceled target shop).1
      (run config id canceled target shop).2 := by
  rw [run_eq]
  cases h : discovered canceled target shop.disk with
  | error e => exact .refused h
  | ok files =>
    have hnone : ∀ job ∈ ([] : List (Bytes × Phase)), ∃ result, job.2 = .finished result := by simp
    obtain ⟨n, hsteps⟩ := Pool.steps_fileByFile config (shop.disk.absolute target.root) target.out
      hworkers files hnone shop
    refine .done h hsteps ?_
    have hlen := length_fileByFile config (shop.disk.absolute target.root) target.out files shop
    rw [Pool.Done, List.nil_append, List.map_snd_zip (by simp [hlen])]

end Graft.Build
