import Graft.Http.Transform
import Graft.Proofs.Extend.Answered
import Graft.Proofs.Extend.Spliced

/-!
# Graft.Proofs.Http.Classified

The outcome of a transform request, told from what was read. Of all reads only the last can fail, and
how it failed survives every level of the chain, so the status can be told from the first read that
fails.

* `Extend.find?_failed_transform`: the first failing read and the failure it leads to.
* `Extend.transform_kind`: no failure is internal.
* `Refuses`, `Delivers`: what a response says.
* `readsOf`, `LeavesRoot`: the reads that answering a request makes, and how they end.
* `Classified`, `transform_classified`: the response to a body.
-/

namespace Graft

namespace Extend

open Markup

variable {σ ε : Type}

/-! ## The read that failed -/

theorem ChainError.missingBase_mem_causes {e : ChainError ε} {r : ε} (h : e.readError? = some r) :
    Cause.missingBase ∈ e.causes := by
  induction e with
  | ancestor path e ih => exact List.mem_cons_of_mem _ (ih h)
  | missingBase path child e => exact List.mem_singleton_self _
  | merge e => cases h
  | source e => cases h
  | circular path base => cases h
  | tooDeep path levels => cases h
  | reparse e => cases h
  | render e => cases h

theorem Kind.ofCauses_of_missingBase {causes : List Cause} (h : Cause.missingBase ∈ causes) :
    ofCauses causes ≠ .malformedSource ∧ ofCauses causes ≠ .malformedAncestor := by
  unfold ofCauses ranking
  by_cases hc : Cause.circularExtends ∈ causes
  · simp [List.find?, hc]
  · by_cases hd : Cause.maxDepth ∈ causes
    · simp [List.find?, hc, hd]
    · simp [List.find?, hc, hd, h]

/-- Why the read at which a trail ends failed, if it did. -/
def Ending.error? : Ending ε → Option ε
  | standing _ _ => none
  | unreadable _ e => some e

/-- The read at which a trail ends, if it failed. -/
def Ending.failure? : Ending ε → Option (Bytes × Except ε Bytes)
  | standing _ _ => none
  | unreadable base e => some (base, .error e)

theorem Ends.readError? {pad : Padding} {seen : List Bytes} {e : ChainError ε} {ending : Ending ε}
    (h : Ends pad seen (.error e) ending) : e.readError? = ending.error? := by
  cases h with
  | circular => rfl
  | tooDeep => rfl
  | missing => rfl
  | malformed hk =>
    cases hr : e.readError? with
    | none => rfl
    | some r =>
      have hne := Kind.ofCauses_of_missingBase (ChainError.missingBase_mem_causes hr)
      exact absurd hk (not_or.2 hne)

theorem Ends.kind {pad : Padding} {seen : List Bytes} {e : ChainError ε} {ending : Ending ε}
    (h : Ends pad seen (.error e) ending) : e.kind ≠ .internal := by
  cases h with
  | circular => exact (by decide : Kind.circularExtends ≠ .internal)
  | tooDeep => exact (by decide : Kind.maxDepth ≠ .internal)
  | missing => exact (by decide : Kind.missingBase ≠ .internal)
  | malformed hk => rcases hk with hk | hk <;> rw [hk] <;> decide

/-- Whether a read failed. -/
def failed (read : Bytes × Except ε Bytes) : Bool :=
  match read.2 with
  | .ok _ => false
  | .error _ => true

/-- The first read that fails is the one at which the trail ends. -/
theorem Trail.find?_failed {content : Bytes → Except ε Bytes} {pad : Padding} {path source : Bytes}
    {state last : Unit} {paths : List Bytes} {ending : Ending ε}
    (h : Trail (.ofContent content) pad path source state paths last ending) :
    (paths.map fun path => (path, content path)).find? failed = ending.failure? := by
  induction h with
  | standing => rfl
  | unreadable _ hr => simp [failed, ask_ofContent hr, Ending.failure?]
  | follow _ hr _ ih => simpa [failed, ask_ofContent hr] using ih

/-! ## No failure is internal -/

/-- A transform that fails has either met a resolution that failed, or a resolved source that is no
component. -/
theorem transform_error_cases {files : Files σ ε} {opts : Options} {path source : Bytes} {state : σ}
    {e : ChainError ε} (h : (transform files opts path source state).code = .error e) :
    (resolve files opts path source state).1 = .error e ∨
      (∃ text, (resolve files opts path source state).1 = .ok text) ∧ ∃ s, e = .reparse s := by
  rw [transform_code] at h
  cases hresolved : (resolve files opts path source state).1 with
  | error e' =>
    rw [hresolved] at h
    cases h
    exact .inl rfl
  | ok text =>
    rw [hresolved] at h
    exact .inr ⟨⟨text, rfl⟩, finalize_error h⟩

theorem transform_kind {files : Files σ ε} {opts : Options} {path source : Bytes} {state : σ}
    {e : ChainError ε} (h : (transform files opts path source state).code = .error e) :
    e.kind ≠ .internal := by
  obtain ⟨ending, hasked⟩ := asked_resolve files opts path source state
  rcases transform_error_cases h with hout | ⟨_, s, rfl⟩
  · have hends := hasked.ends
    rw [hout] at hends
    exact hends.kind
  · exact (by decide : Kind.malformedAncestor ≠ .internal)

/-- A transform one of whose reads fails is a failure of the first such read, and no other failure is
one of a read. -/
theorem find?_failed_transform (content : Bytes → Except ε Bytes) (opts : Options)
    (path source : Bytes) :
    let t := transform (.ofContent content) opts path source ()
    let first := (t.chain.map fun path => (path, content path)).find? failed
    (∀ read, first = some read →
      ∃ e r, read.2 = .error r ∧ t.code = .error e ∧ e.readError? = some r) ∧
    (first = none → ∀ e, t.code = .error e → e.readError? = none) := by
  intro t first
  obtain ⟨ending, hasked⟩ := asked_resolve (.ofContent content) opts path source ()
  have hfirst : first = ending.failure? := by
    rw [← hasked.trail.find?_failed]
    simp only [first, t, transform_chain]
  have hends := hasked.ends
  rw [hfirst]
  cases ending with
  | standing last text =>
    refine ⟨fun read hread => (by cases hread), fun _ e he => ?_⟩
    rcases transform_error_cases he with hout | ⟨_, s, rfl⟩
    · rw [hout] at hends
      exact hends.readError?
    · rfl
  | unreadable base r =>
    refine ⟨fun read hread => ?_, fun hnone => (by cases hnone)⟩
    cases hread
    cases hout : (resolve (.ofContent content) opts path source ()).1 with
    | ok text =>
      rw [hout] at hends
      cases hends
    | error e =>
      rw [hout] at hends
      refine ⟨e, r, rfl, ?_, hends.readError?⟩
      show (transform (.ofContent content) opts path source ()).code = .error e
      rw [transform_code, hout]
      rfl

end Extend

namespace Http

open Extend (failed)

/-! ## Responses -/

/-- A response that refuses a request, with a kind unless the request could not be understood. -/
structure Refuses (r : Response) (status : Nat) (kind : Option Bytes) : Prop where
  status : r.status = status
  body : ∃ message, r.body = (Json.object (("error", .ofWebText message) ::
    kind.toList.map fun k => ("kind", .ofWebText k))).compact

/-- A response that delivers code. The lists are arrays also when they are empty. -/
structure Delivers (r : Response) (map : Option Json) (code : Bytes)
    (dependencies chain : List Bytes) : Prop where
  status : r.status = 200
  body : r.body = (Json.object ([(Bytes.ofString "code", Json.ofWebText code)] ++
    (map.toList.map fun j => (Bytes.ofString "map", j.secured)) ++
    [(Bytes.ofString "dependencies", .array (dependencies.map .ofWebText)),
      (Bytes.ofString "chain", .array (chain.map .ofWebText))])).compact
  tag : r.headers.value "ETag" = "\"" ++ Sha256.hex code ++ "\""

/-- The reads that answering a request makes, in their order and with what they gave. -/
def readsOf (loader : Loader) (options : Extend.Options) (d : Disk) (request : TransformRequest) :
    List (Bytes × Except ReadError Bytes) :=
  let entry := if request.source.isEmpty then [(request.filename, loader.read d request.filename)]
    else []
  match sourceOf loader d request with
  | .error _ => entry
  | .ok source =>
    entry ++ (Extend.transform (loader.files false).watched options request.filename source
      ([], d)).state.1.reverse

/-- The first read that fails is refused because its path lies outside the root. -/
def LeavesRoot (loader : Loader) (reads : List (Bytes × Except ReadError Bytes)) : Prop :=
  ∃ read, reads.find? failed = some read ∧ loader.allows read.1 = false

theorem refuses_response (r : Refusal) (h : r.kind ≠ []) :
    Refuses r.response r.status (some r.kind) :=
  ⟨rfl, r.message, by simp [Refusal.response, Response.json, h]⟩

theorem refuses_response_nil (r : Refusal) (h : r.kind = []) : Refuses r.response r.status none :=
  ⟨rfl, r.message, by simp [Refusal.response, Response.json, h]⟩

theorem delivers_success (request : TransformRequest) (code : Bytes)
    (dependencies chain : List Bytes) :
    Delivers (success request code dependencies chain) request.map code dependencies chain where
  status := rfl
  body := rfl
  tag := rfl

theorem label_ne_nil (k : Extend.Kind) : k.label ≠ [] := by cases k <;> decide

/-! ## Reads -/

variable {loader : Loader} {options : Extend.Options} {d : Disk} {request : TransformRequest}

/-- A read is refused because of the root exactly if its path lies outside. -/
theorem read_outsideRoot_iff {path : Bytes} {e : ReadError} (h : loader.read d path = .error e) :
    (∃ p, e = .outsideRoot p) ↔ loader.allows path = false := by
  constructor
  · rintro ⟨p, rfl⟩
    exact (Loader.read_eq_outsideRoot_iff.1 h).1
  · intro hallows
    rw [Loader.read_eq_outsideRoot_iff.2 ⟨hallows, rfl⟩] at h
    exact ⟨path, (Except.error.inj h).symm⟩

theorem isOutsideRoot_iff {r : Refusal} :
    r.isOutsideRoot = true ↔ ∃ p, r.readError? = some (.outsideRoot p) := by
  unfold Refusal.isOutsideRoot
  split
  · rename_i p h
    exact ⟨fun _ => ⟨p, h⟩, fun _ => rfl⟩
  · rename_i h
    refine ⟨fun hf => absurd hf (by decide), ?_⟩
    rintro ⟨p, hp⟩
    exact absurd hp (h p)

theorem loader_ask (loader : Loader) (d : Disk) (path : Bytes) :
    (loader.files false).ask path d = (loader.read d path, d) := rfl

/-- Only a request without a source needs its file. -/
theorem sourceOf_error {e : ReadError} (h : sourceOf loader d request = .error e) :
    request.source = [] ∧ loader.read d request.filename = .error e := by
  unfold sourceOf at h
  split at h
  · rename_i hs
    exact ⟨List.isEmpty_iff.1 hs, h⟩
  · cases h

theorem filename_ne_nil {body : Bytes} (h : TransformRequest.bind body = .ok request) :
    request.filename ≠ [] := by
  unfold TransformRequest.bind at h
  split at h
  · cases h
  · split at h
    · cases h
    · rename_i hne
      cases h
      simpa using hne

theorem readsOf_unreadable {e : ReadError} (h : sourceOf loader d request = .error e) :
    (readsOf loader options d request).find? failed = some (request.filename, .error e) := by
  obtain ⟨hs, hread⟩ := sourceOf_error h
  simp [readsOf, h, hs, hread, failed]

/-- Once there is a source, the first read that fails is one of the transform's. -/
theorem readsOf_source {source : Bytes} (h : sourceOf loader d request = .ok source) :
    (readsOf loader options d request).find? failed =
      ((Extend.transform (loader.files false) options request.filename source d).chain.map
        fun path => (path, loader.read d path)).find? failed := by
  have hcontent := Extend.transform_content options request.filename source .canceled
    (loader_ask loader d)
  have hentry : ∀ rest, ((if request.source.isEmpty
      then [(request.filename, loader.read d request.filename)] else []) ++ rest).find? failed =
        rest.find? failed := by
    intro rest
    unfold sourceOf at h
    split at h
    · rename_i hs
      simp [hs, h, failed]
    · rename_i hs
      simp [hs]
  unfold readsOf
  simp only [h, hentry, hcontent.1, hcontent.2, List.reverse_reverse]

/-! ## The response -/

/-- A refusal because of a read: outside the root if that is why the read failed. -/
theorem isOutsideRoot_of_read {r : Refusal} {path : Bytes} {e : ReadError}
    (hread : loader.read d path = .error e) (he : r.readError? = some e) :
    r.isOutsideRoot = true ↔ loader.allows path = false := by
  rw [isOutsideRoot_iff, he, ← read_outsideRoot_iff hread]
  simp

theorem unreadable_isOutsideRoot_iff {e : ReadError} (h : sourceOf loader d request = .error e) :
    (Refusal.unreadable e).isOutsideRoot = true ↔
      LeavesRoot loader (readsOf loader options d request) := by
  have hread := (sourceOf_error h).2
  have he : (Refusal.unreadable e).readError? = some e := rfl
  rw [isOutsideRoot_of_read hread he, LeavesRoot, readsOf_unreadable h]
  simp

theorem failed_isOutsideRoot_iff {source : Bytes} {e : Extend.ChainError ReadError}
    (h : sourceOf loader d request = .ok source)
    (he :
      (Extend.transform (loader.files false) options request.filename source d).code = .error e) :
    (Refusal.failed e).isOutsideRoot = true ↔
      LeavesRoot loader (readsOf loader options d request) := by
  have hcontent := (Extend.transform_content options request.filename source .canceled
    (loader_ask loader d)).1
  obtain ⟨hsome, hnone⟩ :=
    Extend.find?_failed_transform (loader.read d) options request.filename source
  rw [LeavesRoot, readsOf_source h, hcontent]
  rw [hcontent] at he
  cases hfirst : ((Extend.transform (.ofContent (loader.read d)) options request.filename source
      ()).chain.map fun path => (path, loader.read d path)).find? failed with
  | none =>
    rw [isOutsideRoot_iff, Refusal.readError?, hnone hfirst e he]
    simp
  | some read =>
    obtain ⟨e', r, hr, hcode, hreadError⟩ := hsome read hfirst
    obtain rfl : e = e' := Except.error.inj (he.symm.trans hcode)
    have hread : loader.read d read.1 = .error r := by
      obtain ⟨path, _, rfl⟩ := List.mem_map.1 (List.mem_of_find?_eq_some hfirst)
      exact hr
    have hrefusal : (Refusal.failed e).readError? = some r := hreadError
    rw [isOutsideRoot_of_read hread hrefusal]
    simp

theorem not_leavesRoot {source code : Bytes} (h : sourceOf loader d request = .ok source)
    (hcode : (Extend.transform (loader.files false) options request.filename source d).code =
      .ok code) :
    ¬ LeavesRoot loader (readsOf loader options d request) := by
  rintro ⟨read, hread, -⟩
  have hcontent := (Extend.transform_content options request.filename source .canceled
    (loader_ask loader d)).1
  rw [readsOf_source h, hcontent] at hread
  rw [hcontent] at hcode
  obtain ⟨e, r, -, he, -⟩ := (Extend.find?_failed_transform (loader.read d) options
    request.filename source).1 read hread
  rw [he] at hcode
  cases hcode

theorem Refuses.outsideRoot {r : Refusal} (h : r.isOutsideRoot = true) :
    Refuses r.response 403 (some "outside_root") := by
  have hstatus : r.status = 403 := by simp [Refusal.status, h]
  have hkind : r.kind = "outside_root" := by simp [Refusal.kind, h]
  have hrefuses := refuses_response r (by rw [hkind]; decide)
  rwa [hstatus, hkind] at hrefuses

theorem Refuses.unreadable {e : ReadError} (h : ¬ (Refusal.unreadable e).isOutsideRoot = true) :
    Refuses (Refusal.unreadable e).response 404 (some "not_found") := by
  have hstatus : (Refusal.unreadable e).status = 404 := by simp [Refusal.status, h]
  have hkind : (Refusal.unreadable e).kind = "not_found" := by simp [Refusal.kind, h]
  have hrefuses := refuses_response (.unreadable e) (by rw [hkind]; decide)
  rwa [hstatus, hkind] at hrefuses

theorem Refuses.failed {e : Extend.ChainError ReadError}
    (h : ¬ (Refusal.failed e).isOutsideRoot = true) (hkind : e.kind ≠ .internal) :
    Refuses (Refusal.failed e).response 422 (some e.kind.label) := by
  have hstatus : (Refusal.failed e).status = 422 := by simp [Refusal.status, h, hkind]
  have hlabel : (Refusal.failed e).kind = e.kind.label := by simp [Refusal.kind, h]
  have hrefuses := refuses_response (.failed e) (by rw [hlabel]; exact label_ne_nil e.kind)
  rwa [hstatus, hlabel] at hrefuses

/-- The response to a request with an absolute file name, told from the reads that answering it
makes. -/
inductive Classified (loader : Loader) (options : Extend.Options) (d : Disk)
    (request : TransformRequest) (r : Response) : Prop where
  | outsideRoot (hroot : LeavesRoot loader (readsOf loader options d request))
      (h : Refuses r 403 (some "outside_root"))
  | notFound (hroot : ¬ LeavesRoot loader (readsOf loader options d request))
      (hsource : request.source = []) {e : ReadError}
      (hread : loader.read d request.filename = .error e) (h : Refuses r 404 (some "not_found"))
  | failed (hroot : ¬ LeavesRoot loader (readsOf loader options d request)) {source : Bytes}
      (hsource : sourceOf loader d request = .ok source) {e : Extend.ChainError ReadError}
      (hcode : (Extend.transform (loader.files false) options request.filename source d).code =
        .error e)
      (hkind : e.kind ≠ .internal) (h : Refuses r 422 (some e.kind.label))
  | delivered (hroot : ¬ LeavesRoot loader (readsOf loader options d request)) {source : Bytes}
      (hsource : sourceOf loader d request = .ok source) {t : Extend.Transformed Disk ReadError}
      (ht : t = Extend.transform (loader.files false) options request.filename source d)
      {code : Bytes} (hcode : t.code = .ok code)
      (h : Delivers r request.map code t.dependencies t.chain)

theorem classified_answer (loader : Loader) (options : Extend.Options) (d : Disk)
    (request : TransformRequest) (m : Metrics) (h : Path.isAbsolute request.filename = true) :
    Classified loader options d request (answer loader options d request m).1 := by
  unfold answer
  rw [h, Bool.not_true, if_neg Bool.false_ne_true]
  cases hsource : sourceOf loader d request with
  | error e =>
    dsimp only
    have hroot : (Refusal.unreadable e).isOutsideRoot = true ↔
        LeavesRoot loader (readsOf loader options d request) := unreadable_isOutsideRoot_iff hsource
    by_cases hout : (Refusal.unreadable e).isOutsideRoot = true
    · exact .outsideRoot (hroot.1 hout) (.outsideRoot hout)
    · obtain ⟨hempty, hread⟩ := sourceOf_error hsource
      exact .notFound (mt hroot.2 hout) hempty hread (.unreadable hout)
  | ok source =>
    dsimp only
    cases hcode :
        (Extend.transform (loader.files false) options request.filename source d).code with
    | error e =>
      dsimp only
      have hroot := failed_isOutsideRoot_iff hsource hcode
      have hkind := Extend.transform_kind hcode
      by_cases hout : (Refusal.failed e).isOutsideRoot = true
      · exact .outsideRoot (hroot.1 hout) (.outsideRoot hout)
      · exact .failed (mt hroot.2 hout) hsource hcode hkind (.failed hout hkind)
    | ok code =>
      exact .delivered (not_leavesRoot hsource hcode) hsource rfl hcode (delivers_success _ _ _ _)

section

variable {r : Response}

theorem Classified.status_outsideRoot_iff (h : Classified loader options d request r) :
    r.status = 403 ↔ LeavesRoot loader (readsOf loader options d request) := by
  cases h with
  | outsideRoot hroot h => exact ⟨fun _ => hroot, fun _ => h.status⟩
  | notFound hroot _ _ h => simp [hroot, h.status]
  | failed hroot _ _ _ h => simp [hroot, h.status]
  | delivered hroot _ _ _ h => simp [hroot, h.status]

theorem Classified.status_notFound_iff (h : Classified loader options d request r) :
    r.status = 404 ↔ ¬ LeavesRoot loader (readsOf loader options d request) ∧
      request.source = [] ∧ ∃ e, loader.read d request.filename = .error e := by
  cases h with
  | outsideRoot hroot h => simp [hroot, h.status]
  | notFound hroot hsource hread h =>
    exact ⟨fun _ => ⟨hroot, hsource, _, hread⟩, fun _ => h.status⟩
  | failed hroot hsource _ _ h =>
    rw [h.status]
    exact ⟨fun hf => absurd hf (by decide),
      fun ⟨_, hs, _, he⟩ => by simp [sourceOf, hs, he] at hsource⟩
  | delivered hroot hsource _ _ h =>
    rw [h.status]
    exact ⟨fun hf => absurd hf (by decide),
      fun ⟨_, hs, _, he⟩ => by simp [sourceOf, hs, he] at hsource⟩

theorem Classified.status_ne (h : Classified loader options d request r) : r.status ≠ 500 := by
  cases h with
  | outsideRoot _ h => simp [h.status]
  | notFound _ _ _ h => simp [h.status]
  | failed _ _ _ _ h => simp [h.status]
  | delivered _ _ _ _ h => simp [h.status]

end

/-- The response to a body. One that is no request with a file name from the root is refused as
such; otherwise the response is classified by the reads that answering the request makes. -/
theorem transform_classified (loader : Loader) (options : Extend.Options) (d : Disk) (body : Bytes)
    (m : Metrics) :
    let response := (transform loader options d body m).1
    response.status ≠ 500 ∧
    match TransformRequest.bind body with
    | .error _ => Refuses response 400 none
    | .ok request =>
      request.filename ≠ [] ∧
      if Path.isAbsolute request.filename then
        Classified loader options d request response ∧
        (response.status = 403 ↔ LeavesRoot loader (readsOf loader options d request)) ∧
        (response.status = 404 ↔ ¬ LeavesRoot loader (readsOf loader options d request) ∧
          request.source = [] ∧ ∃ e, loader.read d request.filename = .error e)
      else Refuses response 400 none := by
  intro response
  have hresponse : response = (transform loader options d body m).1 := rfl
  unfold transform at hresponse
  cases hbind : TransformRequest.bind body with
  | error e =>
    rw [hbind] at hresponse
    have hrefuses : Refuses (Refusal.unbound e).response 400 none :=
      refuses_response_nil (.unbound e) rfl
    rw [hresponse]
    exact ⟨by simp [hrefuses.status], hrefuses⟩
  | ok request =>
    rw [hbind] at hresponse
    dsimp only at hresponse ⊢
    by_cases habs : Path.isAbsolute request.filename = true
    · have hclass := classified_answer loader options d request m habs
      rw [← hresponse] at hclass
      rw [if_pos habs]
      exact ⟨hclass.status_ne, filename_ne_nil hbind, hclass, hclass.status_outsideRoot_iff,
        hclass.status_notFound_iff⟩
    · have hrefuses : Refuses Refusal.relativeFilename.response 400 none :=
        refuses_response_nil .relativeFilename rfl
      rw [answer, if_pos (by simpa using habs)] at hresponse
      rw [if_neg habs, hresponse]
      exact ⟨by simp [hrefuses.status], filename_ne_nil hbind, hrefuses⟩

end Http

end Graft
