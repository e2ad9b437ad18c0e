import Graft.Proofs.Build.Pool
import Graft.Proofs.Disk.Grown

/-!
# Graft.Proofs.Build.Alone

A file of a tree built while others are. If the others leave alone what it reads and do no more to
its output than to make directories above it, the file goes through the phases it would go through
alone, and changes the disk in the same way.

* `reads`, `alone`: what building a file reads, and what comes of it if nobody else is at work.
* `Alone`, `ownDisk`: phases that a file goes through alone, and what it has changed by then.
* `Current`: a cache that holds what was on the disk.
* `Undisturbed`, `alone_next`: one operation of a file that others do not disturb.
-/

namespace Graft.Build

open Extend (Asks)
open Disk (Grown Carried MadeAlong)
open Graft.Path (IsName spell)

/-! ## Output paths -/

/-- A path below a root. -/
def Below (root path : Bytes) (N : List Bytes) : Prop :=
  ∃ R, (∀ n ∈ R, IsName n) ∧ (∀ n ∈ N, IsName n) ∧ N ≠ [] ∧ root = spell true R ∧
    path = spell true (R ++ N)

theorem Below.clean {root path : Bytes} {N : List Bytes} (h : Below root path N) :
    Path.clean path = path := by
  obtain ⟨R, hR, hN, _, _, rfl⟩ := h
  exact Path.clean_spell ((Path.Normal.of_names hR true).append hN)

theorem Below.isAbsolute {root path : Bytes} {N : List Bytes} (h : Below root path N) :
    Path.isAbsolute path = true := by
  obtain ⟨R, hR, hN, _, _, rfl⟩ := h
  rfl

theorem Below.spot {root path : Bytes} {N : List Bytes} (h : Below root path N) (d : Disk) :
    d.spot path = d.spot root ++ N := by
  obtain ⟨R, hR, hN, _, rfl, rfl⟩ := h
  rw [Disk.spot_spell_true d hR, Disk.spot_spell_true d]
  exact fun n hn => (List.mem_append.1 hn).elim (hR n) (hN n)

theorem outputPath_eq {root out path : Bytes} {N : List Bytes} (hout : out ≠ [])
    (h : Below root path N) :
    outputPath root out path = spell (Path.isAbsolute out) (Path.segments out ++ N) := by
  obtain ⟨R, hR, hN, hne, rfl, rfl⟩ := h
  rw [outputPath, Path.relative?_spell hR hN, Option.getD_some, Path.join_names hout hne hN]

/-- Where an output goes: into a directory, under a clean path. -/
structure Output (d : Disk) (root out path : Bytes) (S : List Bytes) (n : Bytes) : Prop where
  clean : Path.clean (outputPath root out path) = outputPath root out path
  spot : d.spot (outputPath root out path) = S ++ [n]
  cleanDir : Path.clean (Path.dir (outputPath root out path)) = Path.dir (outputPath root out path)
  spotDir : d.spot (Path.dir (outputPath root out path)) = S

theorem spot_clean {d : Disk} (hd : d.Plain) (path : Bytes) :
    d.spot (spell (Path.isAbsolute path) (Path.segments path)) = d.spot path := by
  have habs : Path.isAbsolute (spell (Path.isAbsolute path) (Path.segments path)) =
      Path.isAbsolute path := Path.isAbsolute_spell (Path.normal_segments path)
  have hsegments : Path.segments (spell (Path.isAbsolute path) (Path.segments path)) =
      Path.segments path := Path.segments_spell (Path.normal_segments path)
  cases h : Path.isAbsolute path with
  | true =>
    rw [h] at habs hsegments
    rw [Disk.spot_absolute habs, Disk.spot_absolute h, hsegments]
  | false =>
    rw [h] at habs hsegments
    rw [Disk.spot_segments hd habs, Disk.spot_segments hd h, hsegments]

theorem spot_append {d : Disk} (hd : d.Plain) {rooted : Bool} {X N : List Bytes}
    (hX : Path.Normal rooted X) (hN : ∀ n ∈ N, IsName n) :
    d.spot (spell rooted (X ++ N)) = d.spot (spell rooted X) ++ N := by
  induction N generalizing X with
  | nil => simp
  | cons n N ih =>
    have hn := hN n List.mem_cons_self
    have hsplit : X ++ n :: N = (X ++ [n]) ++ N := by simp
    rw [hsplit, ih (hX.append (by simpa using hn)) fun m hm => hN m (List.mem_cons_of_mem _ hm),
      Disk.spot_concat hd hX hn, List.append_assoc, List.singleton_append]

theorem spot_outputPath {d : Disk} (hd : d.Plain) {root out path : Bytes} {N : List Bytes}
    (hout : out ≠ []) (h : Below root path N) :
    d.spot (outputPath root out path) = d.spot out ++ N := by
  have hN : ∀ n ∈ N, IsName n := h.choose_spec.2.1
  rw [outputPath_eq hout h, spot_append hd (Path.normal_segments out) hN, spot_clean hd]

theorem exists_output {d : Disk} (hd : d.Plain) {root out path : Bytes} {N : List Bytes}
    (hout : out ≠ []) (h : Below root path N) : ∃ S n, Output d root out path S n := by
  have hspot := spot_outputPath hd hout h
  have heq := outputPath_eq hout h
  obtain ⟨R, hR, hN, hne, _, _⟩ := h
  rcases List.eq_nil_or_concat N with rfl | ⟨M, n, rfl⟩
  · exact absurd rfl hne
  rw [List.concat_eq_append, ← List.append_assoc] at hspot heq
  rw [List.concat_eq_append] at hN
  have hM : ∀ m ∈ M, IsName m := fun m hm => hN m (by simp [hm])
  have hn : IsName n := hN n (by simp)
  have hnormal := (Path.normal_segments out).append hM
  have hdir := Path.dir_spell hnormal hn
  rw [← heq] at hdir
  refine ⟨d.spot out ++ M, n, ?_, hspot, ?_, ?_⟩
  · rw [heq]
    exact Path.clean_spell (hnormal.append (by simpa using hn))
  · rw [hdir]
    exact Path.clean_spell hnormal
  · rw [hdir, spot_append hd (Path.normal_segments out) hM, spot_clean hd]

/-! ## Writing -/

section

variable {root out code : Bytes} (result : FileResult) (shop : Shop)

theorem writeStep_nothing (hout : out = []) :
    writeStep root out result code shop = (result, shop) := by
  simp [writeStep, hout]

theorem writeStep_current (hout : out ≠ [])
    (h : isCurrent shop.disk (outputPath root out result.path) result.hash = true) :
    writeStep root out result code shop =
      ({ result with output := outputPath root out result.path, unchanged := true }, shop) := by
  simp [writeStep, hout, h]

theorem writeStep_deliver (hout : out ≠ [])
    (h : isCurrent shop.disk (outputPath root out result.path) result.hash = false) :
    writeStep root out result code shop =
      (match (deliver shop.disk (outputPath root out result.path) code).1 with
        | .error e =>
          failure { result with output := outputPath root out result.path } .internal e.message
        | .ok () => { result with output := outputPath root out result.path },
      { shop with disk := (deliver shop.disk (outputPath root out result.path) code).2 }) := by
  rw [writeStep, if_neg (by simpa using hout)]
  simp only [h, Bool.false_eq_true, if_false]
  rcases deliver shop.disk (outputPath root out result.path) code with ⟨_ | _, disk⟩ <;> rfl

end

/-! ## A file alone -/

/-- A source transformed on a disk that stays as it is. -/
def plainTransform (config : Config) (d : Disk) (path source : Bytes) :
    Extend.Transformed Unit ReadError :=
  Extend.transform (.ofContent (config.loader.read d)) config.options path source ()

/-- What building a file reads on a disk that stays as it is: its source and the ancestors. -/
def reads (config : Config) (d : Disk) (path : Bytes) : List Bytes :=
  path ::
    match config.loader.read d path with
    | .error _ => []
    | .ok source => (plainTransform config d path source).chain

/-- What comes of a file if nobody else is at work: its result, and the disk after it. -/
def alone (config : Config) (root out : Bytes) (d : Disk) (path : Bytes) : FileResult × Disk :=
  match config.loader.read d path with
  | .error e => (Phase.unread path e, d)
  | .ok source =>
    let t := plainTransform config d path source
    match t.code with
    | .error e => (Phase.untransformed path e, d)
    | .ok code =>
      let (result, shop) := writeStep root out (Phase.codedResult path t code) code
        ⟨d, none, .empty⟩
      (result, shop.disk)

/-- The disk with what a file has changed by a phase. -/
def ownDisk (config : Config) (root out : Bytes) (d : Disk) (path : Bytes) : Phase → Disk
  | .placed _ _ => (d.makeDirs (Path.dir (outputPath root out path))).2
  | .finished _ => (alone config root out d path).2
  | _ => d

/-- A read that gives what the disk holds. -/
def Fetch.Plain (loader : Loader) (d : Disk) (path : Bytes) : Fetch → Prop
  | .keep data => loader.read d path = .ok data
  | _ => True

/-- What is known of the result of a file whose output is to be written. -/
def pendingResult (root out path : Bytes) (t : Extend.Transformed Unit ReadError) (code : Bytes) :
    FileResult :=
  { Phase.codedResult path t code with output := outputPath root out path }

/-- The phases that a file goes through alone. -/
inductive Alone (config : Config) (root out : Bytes) (d : Disk) (path : Bytes) : Phase → Prop where
  | waiting : Alone config root out d path .waiting
  | opening {fetch : Fetch} (hfetch : fetch.Plain config.loader d path) :
      Alone config root out d path (.opening fetch)
  | following {source : Bytes} {before : List Bytes}
      (hsource : config.loader.read d path = .ok source)
      (hbefore : before <+: (plainTransform config d path source).chain) :
      Alone config root out d path (.following source (before.map (config.loader.read d)))
  | asking {source base : Bytes} {before : List Bytes} {fetch : Fetch}
      (hsource : config.loader.read d path = .ok source)
      (hbefore : before ++ [base] <+: (plainTransform config d path source).chain)
      (hfetch : fetch.Plain config.loader d base) :
      Alone config root out d path (.asking source (before.map (config.loader.read d)) base fetch)
  | coded {source code : Bytes} (hsource : config.loader.read d path = .ok source)
      (hcode : (plainTransform config d path source).code = .ok code) :
      Alone config root out d path
        (.coded (Phase.codedResult path (plainTransform config d path source) code) code)
  | outdated {source code : Bytes} (hsource : config.loader.read d path = .ok source)
      (hcode : (plainTransform config d path source).code = .ok code) (hout : out ≠ [])
      (hcurrent : isCurrent d (outputPath root out path) (Sha256.hex code) = false) :
      Alone config root out d path
        (.outdated (pendingResult root out path (plainTransform config d path source) code) code)
  | placed {source code : Bytes} (hsource : config.loader.read d path = .ok source)
      (hcode : (plainTransform config d path source).code = .ok code) (hout : out ≠ [])
      (hcurrent : isCurrent d (outputPath root out path) (Sha256.hex code) = false)
      (hmade : (d.makeDirs (Path.dir (outputPath root out path))).1 = .ok ()) :
      Alone config root out d path
        (.placed (pendingResult root out path (plainTransform config d path source) code) code)
  | finished : Alone config root out d path (.finished (alone config root out d path).1)

section

variable {config : Config} {root out path source code : Bytes} {d : Disk}

theorem alone_unread {e : ReadError} (h : config.loader.read d path = .error e) :
    alone config root out d path = (Phase.unread path e, d) := by
  rw [alone, h]

theorem alone_untransformed (hsource : config.loader.read d path = .ok source)
    {e : Extend.ChainError ReadError} (h : (plainTransform config d path source).code = .error e) :
    alone config root out d path = (Phase.untransformed path e, d) := by
  simp only [alone, hsource, h]

variable (hsource : config.loader.read d path = .ok source)
  (hcode : (plainTransform config d path source).code = .ok code)

include hsource hcode

theorem alone_eq_writeStep :
    alone config root out d path =
      ((writeStep root out (Phase.codedResult path (plainTransform config d path source) code) code
        ⟨d, none, .empty⟩).1,
      (writeStep root out (Phase.codedResult path (plainTransform config d path source) code) code
        ⟨d, none, .empty⟩).2.disk) := by
  simp only [alone, hsource, hcode]

theorem alone_nothing (hout : out = []) : alone config root out d path =
    (Phase.codedResult path (plainTransform config d path source) code, d) := by
  rw [alone_eq_writeStep hsource hcode, writeStep_nothing _ _ hout]

theorem alone_current (hout : out ≠ [])
    (hcurrent : isCurrent d (outputPath root out path) (Sha256.hex code) = true) :
    alone config root out d path =
      ({ pendingResult root out path (plainTransform config d path source) code with
        unchanged := true }, d) := by
  rw [alone_eq_writeStep hsource hcode, writeStep_current (Phase.codedResult path _ code)
    ⟨d, none, .empty⟩ hout hcurrent]
  rfl

variable (hout : out ≠ [])
  (hcurrent : isCurrent d (outputPath root out path) (Sha256.hex code) = false)

include hout hcurrent

theorem alone_eq_deliver :
    alone config root out d path =
      (match (deliver d (outputPath root out path) code).1 with
        | .error e =>
          failure (pendingResult root out path (plainTransform config d path source) code)
          .internal e.message
        | .ok () => pendingResult root out path (plainTransform config d path source) code,
      (deliver d (outputPath root out path) code).2) := by
  rw [alone_eq_writeStep hsource hcode, writeStep_deliver (Phase.codedResult path _ code)
    ⟨d, none, .empty⟩ hout hcurrent]
  rfl

theorem alone_directory {f : Disk.Failure} {e : Disk}
    (h : d.makeDirs (Path.dir (outputPath root out path)) = (.error f, e)) :
    alone config root out d path =
      (failure (pendingResult root out path (plainTransform config d path source) code) .internal
        (OutputError.directory f).message, e) := by
  rw [alone_eq_deliver hsource hcode hout hcurrent, deliver, h]

theorem alone_write {f : Disk.Failure} {e : Disk}
    (h : d.makeDirs (Path.dir (outputPath root out path)) = (.ok (), e))
    (hstore : e.store (outputPath root out path) code = .error f) :
    alone config root out d path =
      (failure (pendingResult root out path (plainTransform config d path source) code) .internal
        (OutputError.write f).message, e) := by
  rw [alone_eq_deliver hsource hcode hout hcurrent, deliver, h]
  simp only [hstore]

theorem alone_written {e e' : Disk}
    (h : d.makeDirs (Path.dir (outputPath root out path)) = (.ok (), e))
    (hstore : e.store (outputPath root out path) code = .ok e') :
    alone config root out d path =
      (pendingResult root out path (plainTransform config d path source) code, e') := by
  rw [alone_eq_deliver hsource hcode hout hcurrent, deliver, h]
  simp only [hstore]

end

/-- How a file alone can end: its result, and the disk after it. -/
inductive Course (config : Config) (root out : Bytes) (d : Disk) (path : Bytes) :
    FileResult → Disk → Prop where
  | unread {e : ReadError} (hsource : config.loader.read d path = .error e) :
      Course config root out d path (Phase.unread path e) d
  | untransformed {source : Bytes} {e : Extend.ChainError ReadError}
      (hsource : config.loader.read d path = .ok source)
      (hcode : (plainTransform config d path source).code = .error e) :
      Course config root out d path (Phase.untransformed path e) d
  | nothing {source code : Bytes} (hsource : config.loader.read d path = .ok source)
      (hcode : (plainTransform config d path source).code = .ok code) (hout : out = []) :
      Course config root out d path
        (Phase.codedResult path (plainTransform config d path source) code) d
  | current {source code : Bytes} (hsource : config.loader.read d path = .ok source)
      (hcode : (plainTransform config d path source).code = .ok code) (hout : out ≠ [])
      (hcurrent : isCurrent d (outputPath root out path) (Sha256.hex code) = true) :
      Course config root out d path
        { pendingResult root out path (plainTransform config d path source) code with
          unchanged := true } d
  | placeless {source code : Bytes} {f : Disk.Failure} {e : Disk}
      (hsource : config.loader.read d path = .ok source)
      (hcode : (plainTransform config d path source).code = .ok code) (hout : out ≠ [])
      (hcurrent : isCurrent d (outputPath root out path) (Sha256.hex code) = false)
      (hmade : d.makeDirs (Path.dir (outputPath root out path)) = (.error f, e)) :
      Course config root out d path
        (failure (pendingResult root out path (plainTransform config d path source) code) .internal
          (OutputError.directory f).message) e
  | unwritten {source code : Bytes} {f : Disk.Failure} {e : Disk}
      (hsource : config.loader.read d path = .ok source)
      (hcode : (plainTransform config d path source).code = .ok code) (hout : out ≠ [])
      (hcurrent : isCurrent d (outputPath root out path) (Sha256.hex code) = false)
      (hmade : d.makeDirs (Path.dir (outputPath root out path)) = (.ok (), e))
      (hstore : e.store (outputPath root out path) code = .error f) :
      Course config root out d path
        (failure (pendingResult root out path (plainTransform config d path source) code) .internal
          (OutputError.write f).message) e
  | written {source code : Bytes} {e e' : Disk}
      (hsource : config.loader.read d path = .ok source)
      (hcode : (plainTransform config d path source).code = .ok code) (hout : out ≠ [])
      (hcurrent : isCurrent d (outputPath root out path) (Sha256.hex code) = false)
      (hmade : d.makeDirs (Path.dir (outputPath root out path)) = (.ok (), e))
      (hstore : e.store (outputPath root out path) code = .ok e') :
      Course config root out d path
        (pendingResult root out path (plainTransform config d path source) code) e'

theorem course_alone (config : Config) (root out : Bytes) (d : Disk) (path : Bytes) :
    Course config root out d path (alone config root out d path).1
      (alone config root out d path).2 := by
  cases hsource : config.loader.read d path with
  | error e =>
    rw [alone_unread hsource]
    exact .unread hsource
  | ok source =>
    cases hcode : (plainTransform config d path source).code with
    | error e =>
      rw [alone_untransformed hsource hcode]
      exact .untransformed hsource hcode
    | ok code =>
      by_cases hout : out = []
      · rw [alone_nothing hsource hcode hout]
        exact .nothing hsource hcode hout
      cases hcurrent : isCurrent d (outputPath root out path) (Sha256.hex code) with
      | true =>
        rw [alone_current hsource hcode hout hcurrent]
        exact .current hsource hcode hout hcurrent
      | false =>
        rcases hmade : d.makeDirs (Path.dir (outputPath root out path)) with ⟨_ | _, e⟩
        · rw [alone_directory hsource hcode hout hcurrent hmade]
          exact .placeless hsource hcode hout hcurrent hmade
        · cases hstore : e.store (outputPath root out path) code with
          | error f =>
            rw [alone_write hsource hcode hout hcurrent hmade hstore]
            exact .unwritten hsource hcode hout hcurrent hmade hstore
          | ok e' =>
            rw [alone_written hsource hcode hout hcurrent hmade hstore]
            exact .written hsource hcode hout hcurrent hmade hstore

/-! ## A cache that is current -/

/-- A cache holds what is on the disk, as far as certain paths are concerned. -/
def Current (config : Config) (d : Disk) (paths : Bytes → Prop) (cache : Option Cache) : Prop :=
  ∀ c, cache = some c → ∀ f ∈ c.files, paths f.1 → config.loader.read d f.1 = .ok f.2

section

variable {config : Config} {d : Disk} {paths : Bytes → Prop}

theorem Current.get? {c c' : Cache} {path data : Bytes} (h : Current config d paths (some c))
    (hpath : paths path) (hget : c.get? path = some (data, c')) :
    config.loader.read d path = .ok data ∧ Current config d paths (some c') := by
  unfold Cache.get? at hget
  split at hget
  · cases hget
  · rename_i p data' hfind
    cases hget
    have hmem := List.mem_of_find?_eq_some hfind
    have hp : p = path := by simpa using List.find?_some hfind
    subst hp
    refine ⟨h c rfl (p, data) hmem hpath, ?_⟩
    intro c' hc' f hf
    cases hc'
    rcases List.mem_cons.1 hf with rfl | hf
    · exact h c rfl _ hmem
    · exact h c rfl f (List.mem_filter.1 hf).1

theorem Current.add {cache : Option Cache} {path data : Bytes}
    (h : Current config d paths cache) (hdata : config.loader.read d path = .ok data) :
    Current config d paths (cache.map fun c => c.add path data) := by
  intro c' hc' f hf
  obtain ⟨c, rfl, rfl⟩ := Option.map_eq_some_iff.1 hc'
  rcases List.mem_cons.1 (List.mem_of_mem_take hf) with rfl | hf
  · exact fun _ => hdata
  · exact h c rfl f (List.mem_filter.1 hf).1

/-- A read gives what the disk held in the beginning, whatever the cache does. -/
theorem fetch_next {loader : Loader} {shop shop' : Shop} {path : Bytes} {fetch : Fetch}
    {step : Except ReadError Bytes ⊕ Fetch} (hcache : Current config d paths shop.cache)
    (hpath : paths path) (hdisk : loader.read shop.disk path = config.loader.read d path)
    (hfetch : fetch.Plain config.loader d path)
    (h : fetch.next loader path shop = (step, shop')) :
    shop'.disk = shop.disk ∧ Current config d paths shop'.cache ∧
      match step with
      | .inl data => data = config.loader.read d path
      | .inr fetch => fetch.Plain config.loader d path := by
  obtain ⟨disk, cache, m⟩ := shop
  dsimp only at hcache hdisk
  cases fetch with
  | lookUp =>
    simp only [Fetch.next] at h
    cases cache with
    | none =>
      cases h
      exact ⟨rfl, hcache, trivial⟩
    | some c =>
      cases hget : c.get? path with
      | none =>
        simp only [hget] at h
        cases h
        exact ⟨rfl, hcache, trivial⟩
      | some hit =>
        simp only [hget] at h
        cases h
        obtain ⟨hdata, hcurrent⟩ := hcache.get? hpath hget
        exact ⟨rfl, hcurrent, hdata.symm⟩
  | through =>
    simp only [Fetch.next, hdisk] at h
    cases hread : config.loader.read d path with
    | error e =>
      simp only [hread] at h
      cases h
      exact ⟨rfl, hcache, rfl⟩
    | ok data =>
      simp only [hread] at h
      split at h
      · cases h
        exact ⟨rfl, hcache, rfl⟩
      · cases h
        exact ⟨rfl, hcache, hread⟩
  | keep data =>
    cases h
    exact ⟨rfl, hcache.add hfetch, Eq.symm hfetch⟩

end

/-! ## One operation -/

/-- What a file needs of the disk while others are at work: what it reads is read as before in any
order of arrival, and along its output nothing has changed but by itself, except that directories were
made. -/
structure Undisturbed (config : Config) (root out : Bytes) (d : Disk) (path : Bytes)
    (mine now : Disk) : Prop where
  plain : now.Plain
  home : now.workingDir = d.workingDir
  reads : ∀ p ∈ reads config d path, ∀ D,
    (config.detecting D).loader.read now p = config.loader.read d p
  directories : ∀ P, d.item? P = some .directory → now.item? P = some .directory
  own : ∀ Z, mine.item? Z ≠ d.item? Z → now.item? Z = mine.item? Z
  grown : out ≠ [] → Grown d now (d.spot (outputPath root out path))
  output : out ≠ [] →
    mine.item? (d.spot (outputPath root out path)) = d.item? (d.spot (outputPath root out path)) →
      now.item? (d.spot (outputPath root out path)) = d.item? (d.spot (outputPath root out path))

section

variable {config : Config} {root out path : Bytes} {d : Disk}

theorem reads_source : path ∈ reads config d path := List.mem_cons_self

theorem reads_chain {source base : Bytes} (hsource : config.loader.read d path = .ok source)
    (hbase : base ∈ (plainTransform config d path source).chain) : base ∈ reads config d path := by
  rw [reads, hsource]
  exact List.mem_cons_of_mem _ hbase

theorem plain_asked {source base : Bytes} {before : List Bytes}
    (h : before ++ [base] <+: (plainTransform config d path source).chain) :
    (Extend.transform (.replayed .canceled) config.options path source
      (before.map (config.loader.read d), none)).state.2 = some base := by
  obtain ⟨answers, hasks, _, hasked⟩ := Extend.transform_answered config.options path source
    ReadError.canceled (.ofContent (config.loader.read d)) ()
  obtain rfl := hasks.eq_map
  obtain ⟨rest, hchain⟩ := h
  have hchain : (Extend.transform (.ofContent (config.loader.read d)) config.options path source
      ()).chain = before ++ [base] ++ rest := hchain.symm
  have hbase := hasked before.length base (by rw [hchain]; simp)
  rw [hchain, ← List.map_take, List.append_assoc, List.take_left' rfl] at hbase
  exact congrArg Prod.snd hbase

theorem plain_answered (source : Bytes) :
    Extend.transform (.replayed .canceled) config.options path source
      ((plainTransform config d path source).chain.map (config.loader.read d), none) =
        ⟨(plainTransform config d path source).code, (plainTransform config d path source).chain,
          (plainTransform config d path source).dependencies, ([], none)⟩ := by
  obtain ⟨answers, hasks, hsame, _⟩ := Extend.transform_answered config.options path source
    ReadError.canceled (.ofContent (config.loader.read d)) ()
  obtain rfl := hasks.eq_map
  exact hsame (.replayed .canceled) _ _ (Extend.asks_replayed .canceled hasks)

theorem isCurrent_congr {d' : Disk} {output hash : Bytes}
    (h : ∀ data, d'.contents output = .ok data ↔ d.contents output = .ok data) :
    isCurrent d' output hash = isCurrent d output hash := by
  unfold isCurrent
  cases hd : d.contents output with
  | ok data => rw [(h data).2 hd]
  | error e =>
    cases hd' : d'.contents output with
    | error e => rfl
    | ok data =>
      rw [(h data).1 hd'] at hd
      cases hd

variable {now : Disk} {S N : List Bytes} {n : Bytes}

theorem Undisturbed.isCurrent {mine : Disk} (hd : d.Plain) (hout : out ≠ [])
    (h : Undisturbed config root out d path mine now) (houtput : Output d root out path S n)
    (hmine : mine.item? (d.spot (outputPath root out path)) =
      d.item? (d.spot (outputPath root out path))) (hash : Bytes) :
    isCurrent now (outputPath root out path) hash = isCurrent d (outputPath root out path) hash :=
  isCurrent_congr fun data => by
    rw [Disk.contents_eq_ok_iff h.plain houtput.clean, Disk.contents_eq_ok_iff hd houtput.clean,
      Disk.spot_congr h.home, h.output hout hmine]

theorem Undisturbed.grownDir {mine : Disk} (hout : out ≠ [])
    (h : Undisturbed config root out d path mine now) (houtput : Output d root out path S n) :
    Grown d now (d.spot (Path.dir (outputPath root out path))) := by
  have hgrown := h.grown hout
  rw [houtput.spot] at hgrown
  rw [houtput.spotDir]
  exact hgrown.of_prefix (List.prefix_append _ _)

theorem madeAlong_output (hd : d.Plain) (houtput : Output d root out path S n) :
    MadeAlong d (d.makeDirs (Path.dir (outputPath root out path))).2 S
      (d.makeDirs (Path.dir (outputPath root out path))).1 := by
  have := Disk.madeAlong_makeDirs hd houtput.cleanDir
  rwa [houtput.spotDir] at this

theorem madeAlong_same {e : Disk} {result : Except Disk.Failure Unit}
    (h : MadeAlong d e S result) : e.item? (S ++ [n]) = d.item? (S ++ [n]) := by
  by_cases heq : e.item? (S ++ [n]) = d.item? (S ++ [n])
  · exact heq
  · have hlen := (h.change _ heq).1.length_le
    rw [List.length_append] at hlen
    exact absurd hlen (by simp)

/-- What an operation keeps: the file is where it could be alone, its changes were made to the disk,
and the cache is current. -/
structure Kept (config : Config) (root out : Bytes) (d : Disk) (path : Bytes) (paths : Bytes → Prop)
    (phase phase' : Phase) (shop shop' : Shop) : Prop where
  alone : Alone config root out d path phase'
  cache : Current config d paths shop'.cache
  plain : shop'.disk.Plain
  home : shop'.disk.workingDir = shop.disk.workingDir
  carried : Carried (ownDisk config root out d path phase) (ownDisk config root out d path phase')
    shop.disk shop'.disk
  directories : ∀ Z, (ownDisk config root out d path phase).item? Z = some .directory →
    (ownDisk config root out d path phase').item? Z = some .directory

theorem Kept.of_disk {paths : Bytes → Prop} {phase phase' : Phase} {shop shop' : Shop}
    (hplain : shop.disk.Plain) (hdisk : shop'.disk = shop.disk)
    (halone : Alone config root out d path phase')
    (hcache : Current config d paths shop'.cache)
    (hown : ownDisk config root out d path phase' = ownDisk config root out d path phase) :
    Kept config root out d path paths phase phase' shop shop' :=
  ⟨halone, hcache, hdisk ▸ hplain, by rw [hdisk], by rw [hown, hdisk]; exact .refl _ _,
    fun _ h => by rwa [hown]⟩

theorem Alone.of_eq {result : FileResult} {e : Disk}
    (h : Build.alone config root out d path = (result, e)) :
    Alone config root out d path (.finished result) ∧
      ownDisk config root out d path (.finished result) = e := by
  have hresult : (Build.alone config root out d path).1 = result := by rw [h]
  exact ⟨hresult ▸ .finished, by rw [ownDisk, h]⟩

theorem alone_opened (config : Config) (root out : Bytes) (d : Disk) (path : Bytes) :
    Alone config root out d path (Phase.opened path (config.loader.read d path)) ∧
      ownDisk config root out d path (Phase.opened path (config.loader.read d path)) = d := by
  cases h : config.loader.read d path with
  | error e => exact Alone.of_eq (alone_unread h)
  | ok source => exact ⟨.following h (List.nil_prefix), rfl⟩

theorem alone_transformed (root out : Bytes) {source : Bytes}
    (hsource : config.loader.read d path = .ok source) :
    Alone config root out d path (Phase.transformed path (plainTransform config d path source)) ∧
      ownDisk config root out d path
        (Phase.transformed path (plainTransform config d path source)) = d := by
  rw [Phase.transformed]
  cases hcode : (plainTransform config d path source).code with
  | error e => exact Alone.of_eq (alone_untransformed hsource hcode)
  | ok code => exact ⟨.coded hsource hcode, rfl⟩

theorem next_coded (config : Config) (t : Extend.Transformed Unit ReadError) (code : Bytes)
    (shop : Shop) (hout : out ≠ []) :
    Phase.next config root out path shop (.coded (Phase.codedResult path t code) code) =
      if isCurrent shop.disk (outputPath root out path) (Sha256.hex code) = true then
        (.finished { pendingResult root out path t code with unchanged := true }, shop)
      else (.outdated (pendingResult root out path t code) code, shop) := by
  rw [Phase.next, if_neg (by simpa using hout)]
  rfl

theorem next_outdated (config : Config) (t : Extend.Transformed Unit ReadError) (code : Bytes)
    (shop : Shop) :
    Phase.next config root out path shop (.outdated (pendingResult root out path t code) code) =
      match shop.disk.makeDirs (Path.dir (outputPath root out path)) with
      | (.error e, disk) =>
        (.finished (failure (pendingResult root out path t code) .internal
          (OutputError.directory e).message), { shop with disk := disk })
      | (.ok (), disk) => (.placed (pendingResult root out path t code) code,
        { shop with disk := disk }) := rfl

theorem next_placed (config : Config) (t : Extend.Transformed Unit ReadError) (code : Bytes)
    (shop : Shop) :
    Phase.next config root out path shop (.placed (pendingResult root out path t code) code) =
      match shop.disk.store (outputPath root out path) code with
      | .error e =>
        (.finished (failure (pendingResult root out path t code) .internal
          (OutputError.write e).message), shop)
      | .ok disk => (.finished (pendingResult root out path t code), { shop with disk := disk }) :=
        rfl

variable {N : List Bytes} {paths : Bytes → Prop} {phase phase' : Phase} {shop shop' : Shop}
  {c : Config}

section

variable (hd : d.Plain) (hbelow : Below root path N)
  (hcache : Current config d paths shop.cache)

include hd hbelow hcache

theorem kept_coded {source code : Bytes} (hsource : config.loader.read d path = .ok source)
    (hcode : (plainTransform config d path source).code = .ok code)
    (hu : Undisturbed config root out d path d shop.disk)
    (h : Phase.next c root out path shop
      (.coded (Phase.codedResult path (plainTransform config d path source) code) code) =
        (phase', shop')) :
    Kept config root out d path paths
      (.coded (Phase.codedResult path (plainTransform config d path source) code) code) phase'
      shop shop' := by
  by_cases hout : out = []
  · have heq : Build.alone config root out d path = _ := alone_nothing hsource hcode hout
    obtain ⟨halone, hown⟩ := Alone.of_eq heq
    rw [Phase.next, if_pos (by simp [hout])] at h
    cases h
    exact .of_disk hu.plain rfl halone hcache hown
  · obtain ⟨S, n, houtput⟩ := exists_output hd hout hbelow
    have hsame := hu.isCurrent hd hout houtput rfl (Sha256.hex code)
    rw [next_coded c _ code shop hout, hsame] at h
    cases hcurrent : isCurrent d (outputPath root out path) (Sha256.hex code) with
    | true =>
      obtain ⟨halone, hown⟩ := Alone.of_eq (alone_current hsource hcode hout hcurrent)
      rw [hcurrent, if_pos rfl] at h
      cases h
      exact .of_disk hu.plain rfl halone hcache hown
    | false =>
      rw [hcurrent, if_neg Bool.false_ne_true] at h
      cases h
      exact .of_disk hu.plain rfl (.outdated hsource hcode hout hcurrent) hcache rfl

/-- Directories are made with the result they would be made with alone. -/
theorem kept_outdated {source code : Bytes} (hsource : config.loader.read d path = .ok source)
    (hcode : (plainTransform config d path source).code = .ok code) (hout : out ≠ [])
    (hcurrent : isCurrent d (outputPath root out path) (Sha256.hex code) = false)
    (hu : Undisturbed config root out d path d shop.disk)
    (h : Phase.next c root out path shop
      (.outdated (pendingResult root out path (plainTransform config d path source) code) code) =
        (phase', shop')) :
    Kept config root out d path paths
      (.outdated (pendingResult root out path (plainTransform config d path source) code) code)
      phase' shop shop' := by
  obtain ⟨S, n, houtput⟩ := exists_output hd hout hbelow
  obtain ⟨hresult, hcarried⟩ :=
    Disk.makeDirs_grown hd hu.plain hu.home hu.directories houtput.cleanDir
      (hu.grownDir hout houtput)
  have hmade := Disk.madeAlong_makeDirs hu.plain houtput.cleanDir
  have hmine := madeAlong_output hd houtput
  rw [next_outdated] at h
  rcases halone : d.makeDirs (Path.dir (outputPath root out path)) with ⟨result, e⟩
  rcases hnow : shop.disk.makeDirs (Path.dir (outputPath root out path)) with ⟨result', e'⟩
  rw [halone, hnow] at hresult hcarried
  rw [hnow] at h hmade
  rw [halone] at hmine
  have hkeep : ∀ Z, d.item? Z = some .directory → e.item? Z = some .directory := by
    intro Z hZ
    by_cases heq : e.item? Z = d.item? Z
    · rw [heq, hZ]
    · exact (hmine.change Z heq).2.2
  obtain rfl : result' = result := hresult
  cases result' with
  | error f =>
    cases h
    obtain ⟨hfinished, hown⟩ := Alone.of_eq (alone_directory hsource hcode hout hcurrent halone)
    exact ⟨hfinished, hcache, hmade.plain, hmade.home, by rw [hown]; exact hcarried,
      by rw [hown]; exact hkeep⟩
  | ok =>
    cases h
    have hown : ownDisk config root out d path
        (.placed (pendingResult root out path (plainTransform config d path source) code)
          code) = e := by
      rw [ownDisk, halone]
    exact ⟨.placed hsource hcode hout hcurrent (by rw [halone]), hcache, hmade.plain, hmade.home,
      by rw [hown]; exact hcarried, by rw [hown]; exact hkeep⟩

/-- The code is written with the result it would be written with alone. -/
theorem kept_placed {source code : Bytes} (hsource : config.loader.read d path = .ok source)
    (hcode : (plainTransform config d path source).code = .ok code) (hout : out ≠ [])
    (hcurrent : isCurrent d (outputPath root out path) (Sha256.hex code) = false)
    (hmade : (d.makeDirs (Path.dir (outputPath root out path))).1 = .ok ())
    (hu : Undisturbed config root out d path
      (d.makeDirs (Path.dir (outputPath root out path))).2 shop.disk)
    (h : Phase.next c root out path shop
      (.placed (pendingResult root out path (plainTransform config d path source) code) code) =
        (phase', shop')) :
    Kept config root out d path paths
      (.placed (pendingResult root out path (plainTransform config d path source) code) code)
      phase' shop shop' := by
  obtain ⟨S, n, houtput⟩ := exists_output hd hout hbelow
  have hmine := madeAlong_output hd houtput
  rcases halone : d.makeDirs (Path.dir (outputPath root out path)) with ⟨result, e⟩
  rw [halone] at hu hmine hmade
  obtain rfl : result = .ok () := hmade
  dsimp only at hu hmine
  have hspot : e.spot (outputPath root out path) = S ++ [n] :=
    (Disk.spot_congr hmine.home _).trans houtput.spot
  have hdir : shop.disk.item? S = some .directory := by
    by_cases heq : e.item? S = d.item? S
    · exact hu.directories S (heq ▸ hmine.made rfl)
    · rw [hu.own S heq, hmine.made rfl]
  have houtputs : shop.disk.item? (S ++ [n]) = e.item? (S ++ [n]) := by
    have := hu.output hout
    rw [houtput.spot] at this
    rw [this (madeAlong_same hmine), madeAlong_same hmine]
  have hhome := hu.home.trans hmine.home.symm
  have hown : ownDisk config root out d path
      (.placed (pendingResult root out path (plainTransform config d path source) code)
        code) = e := by
    rw [ownDisk, halone]
  rw [next_placed] at h
  rcases Disk.store_carried code hmine.plain hu.plain hhome houtput.clean hspot (hmine.made rfl)
    hdir houtputs with ⟨f, hstore, hnow⟩ | ⟨e', e'', hstore, hnow, hcarried⟩
  · rw [hnow] at h
    cases h
    obtain ⟨hfinished, hown'⟩ := Alone.of_eq (alone_write hsource hcode hout hcurrent halone hstore)
    exact .of_disk hu.plain rfl hfinished hcache (hown'.trans hown.symm)
  · rw [hnow] at h
    cases h
    obtain ⟨hfinished, hown'⟩ :=
      Alone.of_eq (alone_written hsource hcode hout hcurrent halone hstore)
    obtain ⟨heq, hplain, _⟩ := hu.plain.store houtput.clean
      ((Disk.spot_congr hu.home _).trans houtput.spot) hdir hnow
    refine ⟨hfinished, hcache, hplain, by rw [heq]; rfl, by rw [hown, hown']; exact hcarried, ?_⟩
    rw [hown, hown']
    exact hmine.plain.store_directories houtput.clean hspot (hmine.made rfl) hstore

theorem alone_next (hpaths : ∀ p ∈ reads config d path, paths p)
    (hphase : Alone config root out d path phase)
    (hu : Undisturbed config root out d path (ownDisk config root out d path phase) shop.disk)
    (hactive : phase.isActive = true) {D : Charset.Detector}
    (h : phase.next (config.detecting D) root out path shop = (phase', shop')) :
    Kept config root out d path paths phase phase' shop shop' := by
  cases hphase with
  | waiting => cases hactive
  | finished => cases hactive
  | @opening fetch hfetch =>
    simp only [Phase.next] at h
    rcases hstep : fetch.next (config.detecting D).loader path shop with ⟨data | fetch', shop''⟩ <;>
      rw [hstep] at h <;> cases h <;>
      obtain ⟨hdisk, hcache', hread⟩ :=
        fetch_next hcache (hpaths _ reads_source) (hu.reads _ reads_source D) hfetch hstep
    · obtain rfl : data = config.loader.read d path := hread
      obtain ⟨halone, hown⟩ := alone_opened config root out d path
      exact .of_disk hu.plain hdisk halone hcache' hown
    · exact .of_disk hu.plain hdisk (.opening hread) hcache' rfl
  | @following source before hsource hbefore =>
    simp only [Phase.next, Config.options_detecting] at h
    obtain ⟨rest, hrest⟩ := hbefore
    cases rest with
    | nil =>
      rw [List.append_nil] at hrest
      subst hrest
      rw [plain_answered] at h
      cases h
      obtain ⟨halone, hown⟩ := alone_transformed root out hsource
      exact .of_disk hu.plain rfl halone hcache hown
    | cons base rest =>
      have hpre : before ++ [base] <+: (plainTransform config d path source).chain :=
        ⟨rest, by rw [← hrest]; simp⟩
      rw [plain_asked hpre] at h
      cases h
      exact .of_disk hu.plain rfl (.asking hsource hpre trivial) hcache rfl
  | @asking source base before fetch hsource hbefore hfetch =>
    have hbase : base ∈ reads config d path := reads_chain hsource (hbefore.subset (by simp))
    simp only [Phase.next] at h
    rcases hstep : fetch.next (config.detecting D).loader base shop with ⟨data | fetch', shop''⟩ <;>
      rw [hstep] at h <;> cases h <;>
      obtain ⟨hdisk, hcache', hread⟩ :=
        fetch_next hcache (hpaths _ hbase) (hu.reads _ hbase D) hfetch hstep
    · obtain rfl : data = config.loader.read d base := hread
      have halone : Alone config root out d path
          (.following source ((before ++ [base]).map (config.loader.read d))) :=
        .following hsource hbefore
      rw [List.map_append, List.map_singleton] at halone
      exact .of_disk hu.plain hdisk halone hcache' rfl
    · exact .of_disk hu.plain hdisk (.asking hsource hbefore hread) hcache' rfl
  | coded hsource hcode => exact kept_coded hd hbelow hcache hsource hcode hu h
  | outdated hsource hcode hout hcurrent =>
    exact kept_outdated hd hbelow hcache hsource hcode hout hcurrent hu h
  | placed hsource hcode hout hcurrent hmade =>
    exact kept_placed hd hbelow hcache hsource hcode hout hcurrent hmade hu h

end

/-! ## What a file changes -/

/-- A spot that a file has changed on its way to an output: a directory above it was made, or it is
the output itself and no directory. -/
def Touched (d e : Disk) (Y Z : List Bytes) : Prop :=
  (Z = Y ∧ d.item? Y ≠ some .directory) ∨
    (Z <+: Y ∧ Z ≠ Y ∧ d.item? Z = none ∧ e.item? Z = some .directory)

theorem touched_made {e : Disk} {result : Except Disk.Failure Unit} (h : MadeAlong d e S result)
    {Z : List Bytes} (hZ : e.item? Z ≠ d.item? Z) : Touched d e (S ++ [n]) Z := by
  obtain ⟨hpre, hrest⟩ := h.change Z hZ
  refine .inr ⟨hpre.trans (List.prefix_append _ _), ?_, hrest⟩
  rintro rfl
  have hlen := hpre.length_le
  rw [List.length_append] at hlen
  exact absurd hlen (by simp)

/-- How far a file alone gets: nothing is written, or directories are made, or all is. -/
theorem alone_disk_cases (config : Config) (root out : Bytes) (d : Disk) (path : Bytes) :
    (alone config root out d path).2 = d ∨ out ≠ [] ∧
      ((alone config root out d path).2 = (d.makeDirs (Path.dir (outputPath root out path))).2 ∨
        (d.makeDirs (Path.dir (outputPath root out path))).1 = .ok () ∧ ∃ code,
          (d.makeDirs (Path.dir (outputPath root out path))).2.store (outputPath root out path)
            code = .ok (alone config root out d path).2) := by
  have hcourse := course_alone config root out d path
  generalize (alone config root out d path).1 = result at hcourse
  generalize (alone config root out d path).2 = e at hcourse ⊢
  cases hcourse with
  | unread => exact .inl rfl
  | untransformed => exact .inl rfl
  | nothing => exact .inl rfl
  | current => exact .inl rfl
  | placeless _ _ hout _ hmade => exact .inr ⟨hout, .inl (by rw [hmade])⟩
  | unwritten _ _ hout _ hmade => exact .inr ⟨hout, .inl (by rw [hmade])⟩
  | written _ _ hout _ hmade hstore =>
    rw [hmade]
    exact .inr ⟨hout, .inr ⟨rfl, _, hstore⟩⟩

theorem alone_touched (hd : d.Plain) (hbelow : Below root path N) {Z : List Bytes}
    (hZ : (alone config root out d path).2.item? Z ≠ d.item? Z) :
    out ≠ [] ∧
      Touched d (alone config root out d path).2 (d.spot (outputPath root out path)) Z := by
  rcases alone_disk_cases config root out d path with heq | ⟨hout, hcases⟩
  · rw [heq] at hZ
    exact absurd rfl hZ
  refine ⟨hout, ?_⟩
  obtain ⟨S, n, houtput⟩ := exists_output hd hout hbelow
  have hmade := madeAlong_output hd houtput
  rw [houtput.spot]
  rcases hcases with heq | ⟨hok, code, hstore⟩
  · rw [heq] at hZ ⊢
    exact touched_made hmade hZ
  · rw [hok] at hmade
    have hspot : (d.makeDirs (Path.dir (outputPath root out path))).2.spot
        (outputPath root out path) = S ++ [n] := (Disk.spot_congr hmade.home _).trans houtput.spot
    have hput := (hmade.plain.store houtput.clean hspot (hmade.made rfl) hstore).1
    have hfile := hmade.plain.not_directory houtput.clean hspot (hmade.made rfl) hstore
    rw [madeAlong_same hmade] at hfile
    rw [hput, Disk.item?_put _ (by simp)] at hZ
    by_cases heq : Z = S ++ [n]
    · exact .inl ⟨heq, hfile⟩
    · rw [if_neg heq] at hZ
      rcases touched_made (n := n) hmade hZ with ⟨h, _⟩ | ⟨hpre, hne, hnone, hdir⟩
      · exact absurd h heq
      · refine .inr ⟨hpre, hne, hnone, ?_⟩
        rw [hput, Disk.item?_put _ (by simp), if_neg heq, hdir]

theorem own_touched (hd : d.Plain) (hbelow : Below root path N)
    (hphase : Alone config root out d path phase) {Z : List Bytes}
    (hZ : (ownDisk config root out d path phase).item? Z ≠ d.item? Z) :
    out ≠ [] ∧ Touched d (ownDisk config root out d path phase)
      (d.spot (outputPath root out path)) Z := by
  cases hphase with
  | finished => exact alone_touched hd hbelow hZ
  | placed _ _ hout _ _ =>
    obtain ⟨S, n, houtput⟩ := exists_output hd hout hbelow
    rw [houtput.spot]
    exact ⟨hout, touched_made (madeAlong_output hd houtput) hZ⟩
  | waiting => exact absurd rfl hZ
  | opening => exact absurd rfl hZ
  | following => exact absurd rfl hZ
  | asking => exact absurd rfl hZ
  | coded => exact absurd rfl hZ
  | outdated => exact absurd rfl hZ

/-- A file that is not finished has not written its output. -/
theorem own_output (hd : d.Plain) (hbelow : Below root path N) (hactive : phase.isActive = true)
    (hout : out ≠ []) :
    (ownDisk config root out d path phase).item? (d.spot (outputPath root out path)) =
      d.item? (d.spot (outputPath root out path)) := by
  obtain ⟨S, n, houtput⟩ := exists_output hd hout hbelow
  rw [houtput.spot]
  cases phase with
  | placed result code => exact madeAlong_same (madeAlong_output hd houtput)
  | finished result => cases hactive
  | _ => rfl

end

end Graft.Build
