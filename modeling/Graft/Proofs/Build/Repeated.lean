import Graft.Proofs.Build.Independent

/-!
# Graft.Proofs.Build.Repeated

A file built a second time. What it reads is as it was and what it wrote is there, so nothing is
written again, and a failure is the same failure.

* `again`: a result as a second build gives it.
* `plainTransform_congr`, `reads_congr`: a file that reads the same.
* `Outcome.undisturbed`: what a build leaves for a file whose output it did not change.
* `Outcome.repeated`: the second build of a file.
-/

namespace Graft.Build

/-- A result as a second build gives it: the output of a success is there already. -/
def again (result : FileResult) : FileResult :=
  if result.error = [] then { result with unchanged := true } else result

theorem again_success {result : FileResult} (h : result.error = []) :
    again result = { result with unchanged := true } := if_pos h

theorem again_failure {result : FileResult} (h : result.error ≠ []) : again result = result :=
  if_neg h

section

variable {config : Config} {root out path source : Bytes} {d e : Disk}

theorem plainTransform_congr (h : ∀ p ∈ (plainTransform config d path source).chain,
    config.loader.read e p = config.loader.read d p) :
    plainTransform config e path source = plainTransform config d path source := by
  obtain ⟨answers, hasks, hsame, _⟩ := Extend.transform_answered config.options path source
    ReadError.canceled (.ofContent (config.loader.read d)) ()
  obtain rfl := hasks.eq_map
  have hother : Extend.Asks (.ofContent (config.loader.read e))
      (plainTransform config d path source).chain ()
      ((plainTransform config d path source).chain.map (config.loader.read e)) () :=
    Extend.asks_of_content (fun _ => rfl) _
  rw [List.map_congr_left h] at hother
  exact hsame _ () () hother

theorem reads_congr (h : ∀ p ∈ reads config d path,
    config.loader.read e p = config.loader.read d p) :
    reads config e path = reads config d path := by
  rw [reads, reads, h path reads_source]
  cases hsource : config.loader.read d path with
  | error e => rfl
  | ok source =>
    dsimp only
    rw [plainTransform_congr fun p hp => h p (reads_chain hsource hp)]

end

/-! ## One file -/

section

variable {config : Config} {root out : Bytes} {d e : Disk} {files : List Bytes} {f : Bytes}

/-- What a build leaves for a file whose output it did not change. -/
theorem Outcome.undisturbed (hs : Separate config root out d files)
    (h : Outcome config root out d files e) (hf : f ∈ files)
    (hcontents : ∀ p ∈ reads config d f, e.contents p = d.contents p)
    (hown : (alone config root out d f).2.item? (d.spot (outputPath root out f)) =
      d.item? (d.spot (outputPath root out f))) :
    Undisturbed config root out d f (alone config root out d f).2 e where
  plain := h.plain
  home := h.home
  reads p hp := read_detecting (hcontents p hp) (hs.settled f hf p hp)
  directories _ hP := h.directories hs hP
  own Z hZ := h.changed f hf Z hZ
  grown hout P hP := by
    by_cases heq : e.item? P = d.item? P
    · exact .inl heq
    · obtain ⟨g, hg, _, hnow, ⟨rfl, _⟩ | ⟨_, _, hnone, hdir⟩⟩ := h.exists_touched hs heq
      · obtain rfl := hs.outputs hout g hg f hf hP
        exact absurd (hnow.trans hown) heq
      · exact .inr ⟨hnone, hnow.trans hdir⟩
  output _ heq := (h.output hs hf).trans heq

theorem made_output {made : Disk} {result : Except Disk.Failure Unit} {S : List Bytes} {n : Bytes}
    (hd : d.Plain) (houtput : Output d root out f S n)
    (hmade : d.makeDirs (Path.dir (outputPath root out f)) = (result, made)) :
    Disk.MadeAlong d made S result ∧
      made.item? (d.spot (outputPath root out f)) = d.item? (d.spot (outputPath root out f)) := by
  have halong := madeAlong_output hd houtput
  rw [hmade] at halong
  rw [houtput.spot]
  exact ⟨halong, madeAlong_same halong⟩

/-- Directories that were made are there, and those that could not be made still cannot. -/
theorem Undisturbed.makeDirs {made : Disk} {result : Except Disk.Failure Unit} {N : List Bytes}
    (hd : d.Plain) (hbelow : Below root f N) (hout : out ≠ [])
    (hmade : d.makeDirs (Path.dir (outputPath root out f)) = (result, made))
    (hu : Undisturbed config root out d f made e) :
    ∃ e', e.makeDirs (Path.dir (outputPath root out f)) = (result, e') ∧ e'.Plain ∧
      e'.workingDir = d.workingDir ∧ ∀ Z, e'.item? Z = e.item? Z := by
  obtain ⟨S, n, houtput⟩ := exists_output hd hout hbelow
  obtain ⟨hresult, hcarried⟩ :=
    Disk.makeDirs_grown hd hu.plain hu.home hu.directories houtput.cleanDir
      (hu.grownDir hout houtput)
  have hnow := Disk.madeAlong_makeDirs hu.plain houtput.cleanDir
  rw [hmade] at hresult hcarried
  refine ⟨(e.makeDirs (Path.dir (outputPath root out f))).2, ?_, hnow.plain,
    hnow.home.trans hu.home, fun Z => ?_⟩
  · exact Prod.ext hresult rfl
  · by_cases heq : made.item? Z = d.item? Z
    · exact (hcarried Z).2 heq
    · rw [(hcarried Z).1 heq, hu.own Z heq]

/-- An output that could not be written still cannot. -/
theorem Undisturbed.store {made : Disk} {code : Bytes} {g : Disk.Failure} {N : List Bytes}
    (hd : d.Plain) (hbelow : Below root f N) (hout : out ≠ [])
    (hmade : d.makeDirs (Path.dir (outputPath root out f)) = (.ok (), made))
    (hstore : made.store (outputPath root out f) code = .error g)
    (hu : Undisturbed config root out d f made e) :
    ∃ e', e.makeDirs (Path.dir (outputPath root out f)) = (.ok (), e') ∧
      e'.store (outputPath root out f) code = .error g ∧ ∀ Z, e'.item? Z = e.item? Z := by
  obtain ⟨S, n, houtput⟩ := exists_output hd hout hbelow
  obtain ⟨halong, hmine⟩ := made_output hd houtput hmade
  obtain ⟨e', hmade', hplain, hhome, hitems⟩ := hu.makeDirs hd hbelow hout hmade
  refine ⟨e', hmade', ?_, hitems⟩
  have hspot : made.spot (outputPath root out f) = S ++ [n] :=
    (Disk.spot_congr halong.home _).trans houtput.spot
  have hdir : e'.item? S = some .directory := by
    have halong' := Disk.madeAlong_makeDirs hu.plain houtput.cleanDir
    rw [hmade', Disk.spot_congr hu.home, houtput.spotDir] at halong'
    exact halong'.made rfl
  have hfile : e'.item? (S ++ [n]) = made.item? (S ++ [n]) := by
    rw [hitems, ← houtput.spot, hu.output hout hmine, hmine]
  rcases Disk.store_carried code halong.plain hplain (hhome.trans halong.home.symm) houtput.clean
    hspot (halong.made rfl) hdir hfile with ⟨_, hfirst, hsecond⟩ | ⟨_, _, hfirst, _⟩
  · rw [hstore] at hfirst
    cases hfirst
    exact hsecond
  · rw [hstore] at hfirst
    cases hfirst

theorem Outcome.repeated (hs : Separate config root out d files)
    (h : Outcome config root out d files e) (hout : out ≠ []) (hf : f ∈ files)
    (hcontents : ∀ p ∈ reads config d f, e.contents p = d.contents p) :
    (alone config root out e f).1 = again (alone config root out d f).1 ∧
      ∀ Z, (alone config root out e f).2.item? Z = e.item? Z := by
  obtain ⟨N, hbelow⟩ := hs.below f hf
  obtain ⟨S, n, houtput⟩ := exists_output hs.plain hout hbelow
  have hreads (p : Bytes) (hp : p ∈ reads config d f) :
      config.loader.read e p = config.loader.read d p := Loader.read_congr (hcontents p hp)
  have hundisturbed := h.undisturbed hs hf hcontents
  have hown := h.output hs hf
  have hsame {source : Bytes} (hsource : config.loader.read d f = .ok source) :
      plainTransform config e f source = plainTransform config d f source :=
    plainTransform_congr fun p hp => hreads p (reads_chain hsource hp)
  have hcourse := course_alone config root out d f
  generalize alone config root out d f = ended at hundisturbed hown hcourse ⊢
  obtain ⟨result, last⟩ := ended
  dsimp only at hundisturbed hown hcourse ⊢
  cases hcourse with
  | unread hsource =>
    rw [alone_unread ((hreads f reads_source).trans hsource), again_failure (unread_error f _)]
    exact ⟨rfl, fun _ => rfl⟩
  | untransformed hsource hcode =>
    rw [alone_untransformed ((hreads f reads_source).trans hsource) (hsame hsource ▸ hcode),
      again_failure (untransformed_error f _)]
    exact ⟨rfl, fun _ => rfl⟩
  | nothing _ _ hnothing => exact absurd hnothing hout
  | current hsource hcode _ hcurrent =>
    have hnow := (hundisturbed rfl).isCurrent hs.plain hout houtput rfl
    rw [alone_current ((hreads f reads_source).trans hsource) (hsame hsource ▸ hcode) hout
      ((hnow _).trans hcurrent), hsame hsource, again_success rfl]
    exact ⟨rfl, fun _ => rfl⟩
  | placeless hsource hcode _ hcurrent hmade =>
    obtain ⟨_, hmine⟩ := made_output hs.plain houtput hmade
    have hu := hundisturbed hmine
    have hnow := hu.isCurrent hs.plain hout houtput hmine
    obtain ⟨e', hmade', _, _, hitems⟩ := hu.makeDirs hs.plain hbelow hout hmade
    rw [alone_directory ((hreads f reads_source).trans hsource) (hsame hsource ▸ hcode) hout
      ((hnow _).trans hcurrent) hmade', hsame hsource,
      again_failure (failure_error (OutputError.message_ne_nil _))]
    exact ⟨rfl, hitems⟩
  | unwritten hsource hcode _ hcurrent hmade hstore =>
    obtain ⟨_, hmine⟩ := made_output hs.plain houtput hmade
    have hu := hundisturbed hmine
    have hnow := hu.isCurrent hs.plain hout houtput hmine
    obtain ⟨e', hmade', hstore', hitems⟩ := hu.store hs.plain hbelow hout hmade hstore
    rw [alone_write ((hreads f reads_source).trans hsource) (hsame hsource ▸ hcode) hout
      ((hnow _).trans hcurrent) hmade' hstore', hsame hsource,
      again_failure (failure_error (OutputError.message_ne_nil _))]
    exact ⟨rfl, hitems⟩
  | @written source code made last hsource hcode _ _ hmade hstore =>
    have hwritten := contents_written hs.plain hbelow hout hmade hstore
    rw [← hown, ← Disk.spot_congr h.home] at hwritten
    have hcontents := (Disk.contents_eq_ok_iff h.plain houtput.clean).2 hwritten
    have hcurrent : isCurrent e (outputPath root out f) (Sha256.hex code) = true := by
      rw [isCurrent, hcontents]
      exact beq_self_eq_true _
    rw [alone_current ((hreads f reads_source).trans hsource) (hsame hsource ▸ hcode) hout hcurrent,
      hsame hsource, again_success rfl]
    exact ⟨rfl, fun _ => rfl⟩

end

end Graft.Build
