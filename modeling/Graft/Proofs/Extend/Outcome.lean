import Graft.Proofs.Extend.Composition
import Graft.Proofs.Extend.Followed

/-!
# Graft.Proofs.Extend.Outcome

What a resolution comes to, told from the files alone. Walking from base to base, the first obstacle
decides; where there is none, the levels are merged from the last base back to the entry, and the
first step of that to fail decides.

* `station`, `met`: the sources on the way, and the paths met up to each of them.
* `obstacle?`, `FirstObstacle`: what stands in the way.
* `MergeStep`, `Merges`, `Merging`: merging one level, and all levels.
* `Follows.decided`: the outcome of a level and all levels below it.
* `resolve_outcome`: the outcome of a resolution.
-/

namespace Graft.Extend

open Markup

variable {ε : Type}

def Files.ofContent (content : Bytes → Except ε Bytes) : Files Unit ε where
  read path state := (content path, state)

/-- A source on the way from an entry to its last base. -/
structure Station where
  path : Bytes
  source : Bytes

/-! ## The way out -/

section

variable (content : Bytes → Except ε Bytes) (opts : Options) (entry : Station)

/-- The path of the base that a source names. -/
def Station.base? (s : Station) : Option Bytes :=
  match Component.parse opts.padding s.source with
  | .error _ => none
  | .ok c => c.template.extends?.map (Path.base s.path)

/-- The source reached after a number of steps from base to base. -/
def station : Nat → Option Station
  | 0 => some entry
  | i + 1 =>
    match (station i).bind (Station.base? opts) with
    | none => none
    | some base => (content base).toOption.map (⟨base, ·⟩)

/-- The paths that may not come next after a number of steps. -/
def met : Nat → List Bytes
  | 0 => entrySeen entry.path
  | i + 1 => ((station content opts entry (i + 1)).map Station.path).toList ++ met i

def obstacle? (i : Nat) : Option Kind :=
  match station content opts entry i with
  | none => none
  | some s =>
    match Component.parse opts.padding s.source with
    | .error _ => some (if i = 0 then .malformedSource else .malformedAncestor)
    | .ok c =>
      match c.template.extends? with
      | none => none
      | some target =>
        if opts.maxDepth ≤ i then some .maxDepth
        else if (met content opts entry i).contains (Path.base s.path target) then
          some .circularExtends
        else
          match content (Path.base s.path target) with
          | .error _ => some .missingBase
          | .ok _ => none

/-- The first obstacle from a number of steps on. -/
structure FirstObstacle (start i : Nat) (kind : Kind) : Prop where
  le : start ≤ i
  here : obstacle? content opts entry i = some kind
  before : ∀ j, start ≤ j → j < i → obstacle? content opts entry j = none

end

/-! ## The way back -/

/-- The steps of merging a level with its resolved base. -/
inductive MergeStep where
  | reparse
  | overrides
  | points
deriving DecidableEq, Repr

/-- Merging a level with its resolved base, up to the first step that fails. -/
inductive Merges (level : Level) (resolved : Bytes) : Except MergeStep Bytes → Prop where
  | reparse {e : SourceError} (hp : Component.parse .none resolved = .error e) :
      Merges level resolved (.error .reparse)
  | overrides {base : Component} {e : SourceError} (hp : Component.parse .none resolved = .ok base)
      (ho : overrides level.tree = .error e) : Merges level resolved (.error .overrides)
  | points {base : Component} {all : List Override} (hp : Component.parse .none resolved = .ok base)
      (ho : overrides level.tree = .ok all) (hu : HasUnnamed (Markup.parse base.template.content)) :
      Merges level resolved (.error .points)
  | merged {base : Component} {all : List Override} {text : Bytes}
      (hp : Component.parse .none resolved = .ok base) (ho : overrides level.tree = .ok all)
      (hu : ¬ HasUnnamed (Markup.parse base.template.content))
      (hm : merge level.component base = .ok text) : Merges level resolved (.ok text)

/-- Merging levels, the last base first; the number is that of the first level. -/
inductive Merging : Nat → List Level → Except (Nat × MergeStep) Bytes → Prop where
  | last {i : Nat} {level : Level} : Merging i [level] (.ok level.source)
  | inner {i : Nat} {level : Level} {levels : List Level} {failed : Nat × MergeStep}
      (h : Merging (i + 1) levels (.error failed)) : Merging i (level :: levels) (.error failed)
  | failed {i : Nat} {level : Level} {levels : List Level} {resolved : Bytes} {step : MergeStep}
      (h : Merging (i + 1) levels (.ok resolved)) (hm : Merges level resolved (.error step)) :
      Merging i (level :: levels) (.error (i, step))
  | merged {i : Nat} {level : Level} {levels : List Level} {resolved text : Bytes}
      (h : Merging (i + 1) levels (.ok resolved)) (hm : Merges level resolved (.ok text)) :
      Merging i (level :: levels) (.ok text)

/-- The kind of a step that failed: only the overrides of the entry are a matter of its own source. -/
def MergeStep.kind (i : Nat) (step : MergeStep) : Kind :=
  if i = 0 ∧ step = .overrides then .malformedSource else .malformedAncestor

/-- A resolution comes to what merging its levels comes to. -/
inductive Agrees : Except (Nat × MergeStep) Bytes → Except (ChainError ε) Bytes → Prop where
  | ok {text : Bytes} : Agrees (.ok text) (.ok text)
  | error {i : Nat} {step : MergeStep} {e : ChainError ε} (hk : e.kind = step.kind i) :
      Agrees (.error (i, step)) (.error e)

theorem Merges.unique {level : Level} {resolved : Bytes} {out out' : Except MergeStep Bytes}
    (h : Merges level resolved out) (h' : Merges level resolved out') : out = out' := by
  cases h <;> cases h' <;> simp_all

theorem Merging.unique {i : Nat} {levels : List Level} {out out' : Except (Nat × MergeStep) Bytes}
    (h : Merging i levels out) (h' : Merging i levels out') : out = out' := by
  induction h generalizing out' with
  | last =>
    cases h' with
    | last => rfl
    | inner h' => cases h'
    | failed h' => cases h'
    | merged h' => cases h'
  | inner h ih =>
    cases h' with
    | last => cases h
    | inner h' => exact ih h'
    | failed h' => cases ih h'
    | merged h' => cases ih h'
  | failed h hm ih =>
    cases h' with
    | last => cases h
    | inner h' => cases ih h'
    | failed h' hm' =>
      cases ih h'
      cases hm.unique hm'
      rfl
    | merged h' hm' =>
      cases ih h'
      cases hm.unique hm'
  | merged h hm ih =>
    cases h' with
    | last => cases h
    | inner h' => cases ih h'
    | failed h' hm' =>
      cases ih h'
      cases hm.unique hm'
    | merged h' hm' =>
      cases ih h'
      cases hm.unique hm'
      rfl

/-! ## Walking and merging -/

section

variable {content : Bytes → Except ε Bytes} {opts : Options} {entry : Station} {i : Nat}
  {path source target : Bytes} {c : Component}

theorem ask_ofContent {base : Bytes} {state state' : Unit} {data : Except ε Bytes}
    (h : (Files.ofContent content).ask base state = (data, state')) : content base = data :=
  congrArg Prod.fst h

theorem station_none {j : Nat} (h : station content opts entry i = none) (hj : i ≤ j) :
    station content opts entry j = none := by
  induction hj with
  | refl => exact h
  | step _ ih => rw [station, ih]; rfl

theorem station_last (hst : station content opts entry i = some ⟨path, source⟩)
    (hp : Component.parse opts.padding source = .ok c) (ht : c.template.extends? = none) :
    station content opts entry (i + 1) = none := by
  rw [station, hst, Option.bind_some, Station.base?]
  simp only [hp, ht, Option.map_none]

theorem station_follow {data : Bytes} (hst : station content opts entry i = some ⟨path, source⟩)
    (hp : Component.parse opts.padding source = .ok c) (ht : c.template.extends? = some target)
    (hr : content (Path.base path target) = .ok data) :
    station content opts entry (i + 1) = some ⟨Path.base path target, data⟩ := by
  rw [station, hst, Option.bind_some, Station.base?]
  simp only [hp, ht, Option.map_some, hr]
  rfl

theorem met_follow {data : Bytes}
    (hst : station content opts entry (i + 1) = some ⟨path, data⟩) :
    met content opts entry (i + 1) = path :: met content opts entry i := by
  rw [met, hst]
  rfl

theorem obstacle?_none {j : Nat} (h : station content opts entry i = none) (hj : i ≤ j) :
    obstacle? content opts entry j = none := by
  rw [obstacle?, station_none h hj]

variable (content opts entry) in
/-- An obstacle from a number of steps on decides the outcome. -/
def Blocked (i : Nat) (out : Except (ChainError ε) Bytes) : Prop :=
  ∃ j kind e, FirstObstacle content opts entry i j kind ∧ out = .error e ∧ e.kind = kind

variable (content opts entry) in
/-- There is no obstacle from a number of steps on, and merging decides the outcome. -/
def Merged (i : Nat) (path source : Bytes) (out : Except (ChainError ε) Bytes) : Prop :=
  (∀ j, i ≤ j → obstacle? content opts entry j = none) ∧ ∃ levels merged,
    Chain (.ofContent content) opts.padding path source () levels ∧ Merging i levels merged ∧
      Agrees merged out

theorem blocked_here {e : ChainError ε} (h : obstacle? content opts entry i = some e.kind) :
    Blocked content opts entry i (.error e) :=
  ⟨i, e.kind, e, ⟨Nat.le_refl i, h, fun _ hle hlt => absurd hle (Nat.not_le_of_lt hlt)⟩, rfl, rfl⟩

/-- An obstacle further on is the first one, if there is none here. -/
theorem Blocked.mergeInto {out : Except (ChainError ε) Bytes}
    (h : Blocked content opts entry (i + 1) out) (hi : obstacle? content opts entry i = none)
    (isEntry : Bool) (base : Bytes) :
    Blocked content opts entry i (mergeInto isEntry path base c out) := by
  obtain ⟨j, kind, e, ⟨hle, hj, hbefore⟩, rfl, hk⟩ := h
  refine ⟨j, kind, e, ⟨by omega, hj, fun k hik hkj => ?_⟩, rfl, hk⟩
  by_cases heq : i = k
  · exact heq ▸ hi
  · exact hbefore k (by omega) hkj

theorem Merged.mergeInto {out : Except (ChainError ε) Bytes} {data : Bytes} {isEntry : Bool}
    (h : Merged content opts entry (i + 1) (Path.base path target) data out)
    (hi : obstacle? content opts entry i = none) (he : isEntry = decide (i = 0))
    (hp : Component.parse opts.padding source = .ok c) (ht : c.template.extends? = some target)
    (hr : content (Path.base path target) = .ok data) :
    Merged content opts entry i path source
      (mergeInto isEntry path (Path.base path target) c out) := by
  obtain ⟨hnone, levels, merged, hchain, hmerging, hagrees⟩ := h
  refine ⟨fun j hij => ?_, ⟨source, c⟩ :: levels, ?_⟩
  · by_cases heq : i = j
    · exact heq ▸ hi
    · exact hnone j (by omega)
  have hchain' : Chain (.ofContent content) opts.padding path source () (⟨source, c⟩ :: levels) :=
    .cons hp ht (Prod.ext hr rfl) hchain
  cases hagrees with
  | error hk => exact ⟨_, hchain', .inner hmerging, .error hk⟩
  | @ok resolved =>
    rcases mergeInto_cases c isEntry path (Path.base path target) resolved with
      ⟨e, hreparse, hm⟩ | ⟨next, hnext, ⟨e, ho, hm⟩ | ⟨all, ho, ⟨hu, hm⟩ | ⟨hu, text, hmerge, hm⟩⟩⟩
    · rw [hm]
      refine ⟨_, hchain', .failed hmerging (.reparse hreparse), .error ?_⟩
      rw [kind_ancestor]
      simp [MergeStep.kind]
    · rw [hm]
      refine ⟨_, hchain', .failed hmerging (.overrides hnext ho), .error ?_⟩
      rw [kind_override, he]
      simp [MergeStep.kind]
    · rw [hm]
      refine ⟨_, hchain', .failed hmerging (.points hnext ho hu), .error ?_⟩
      rw [kind_point]
      simp [MergeStep.kind]
    · rw [hm]
      exact ⟨_, hchain', .merged hmerging (.merged hnext ho hu hmerge), .ok⟩

theorem Follows.decided {levels : Nat} {isEntry : Bool} {walk walk' : Walk Unit}
    {out : Except (ChainError ε) Bytes}
    (h : Follows (.ofContent content) opts levels isEntry path source walk out walk') :
    ∀ {i}, station content opts entry i = some ⟨path, source⟩ → i + levels = opts.maxDepth →
      isEntry = decide (i = 0) → walk.seen = met content opts entry i →
        Blocked content opts entry i out ∨ Merged content opts entry i path source out := by
  -- on the way out the walk stands at station `i`, and what may still be followed adds up with `i`
  induction h with
  | malformed hp =>
    intro i hst _ he _
    refine .inl (blocked_here ?_)
    rw [kind_source, he]
    simp only [obstacle?, hst, hp, decide_eq_true_eq]
  | last hp ht =>
    intro i hst _ _ _
    refine .inr ⟨fun j hij => ?_, _, _, .last hp ht, .last, .ok⟩
    by_cases heq : i = j
    · subst heq
      simp only [obstacle?, hst, hp, ht]
    · exact obstacle?_none (station_last hst hp ht) (by omega)
  | tooDeep hp ht =>
    intro i hst hlevels _ _
    refine .inl (blocked_here ?_)
    simp only [obstacle?, hst, hp, ht]
    rw [if_pos (by omega)]
    rfl
  | circular hp ht hs =>
    intro i hst hlevels _ hseen
    refine .inl (blocked_here ?_)
    rw [hseen] at hs
    simp only [obstacle?, hst, hp, ht]
    rw [if_neg (by omega), if_pos (List.contains_iff_mem.2 hs)]
    rfl
  | missing hp ht hs hr =>
    intro i hst hlevels _ hseen
    refine .inl (blocked_here ?_)
    rw [hseen] at hs
    simp only [obstacle?, hst, hp, ht]
    rw [if_neg (by omega), if_neg (mt List.contains_iff_mem.1 hs), ask_ofContent hr]
    rfl
  | followed hp ht hs hr _ ih =>
    intro i hst hlevels he hseen
    have hdata := ask_ofContent hr
    have hnext := station_follow hst hp ht hdata
    have hnone : obstacle? content opts entry i = none := by
      rw [hseen] at hs
      simp only [obstacle?, hst, hp, ht]
      rw [if_neg (by omega), if_neg (mt List.contains_iff_mem.1 hs), hdata]
    have hpushed := ih hnext (by omega) (by simp) (by rw [met_follow hnext, Walk.push, hseen])
    rcases hpushed with hblocked | hmerged
    · exact .inl (hblocked.mergeInto hnone _ _)
    · exact .inr (hmerged.mergeInto hnone he hp ht hdata)

theorem FirstObstacle.unique {start j : Nat} {kind kind' : Kind}
    (h : FirstObstacle content opts entry start i kind)
    (h' : FirstObstacle content opts entry start j kind') : kind = kind' := by
  have hij : i = j := by
    rcases Nat.lt_trichotomy i j with hlt | heq | hlt
    · have := h'.before i h.le hlt
      rw [h.here] at this
      cases this
    · exact heq
    · have := h.before j h'.le hlt
      rw [h'.here] at this
      cases this
  subst hij
  have := h.here
  rw [h'.here] at this
  exact (Option.some.inj this).symm

theorem kind_of_obstacle? {kind : Kind} (h : obstacle? content opts entry i = some kind) :
    kind ≠ .internal := by
  rintro rfl
  unfold obstacle? at h
  split at h
  · cases h
  split at h
  · rw [Option.some.injEq] at h
    split at h <;> cases h
  split at h
  · cases h
  split at h
  · cases h
  split at h
  · cases h
  split at h <;> cases h

end

/-- The outcome of a resolution. The first obstacle on the way from base to base decides it; where
there is none, merging the levels does, and the first step to fail decides. No other failure exists. -/
theorem resolve_outcome (content : Bytes → Except ε Bytes) (opts : Options) (path source : Bytes) :
    let out := (resolve (.ofContent content) opts path source ()).1
    (∀ i kind, FirstObstacle content opts ⟨path, source⟩ 0 i kind →
      ∃ e, out = .error e ∧ e.kind = kind) ∧
    ((∀ i, obstacle? content opts ⟨path, source⟩ i = none) →
      (∃ levels merged, Chain (.ofContent content) opts.padding path source () levels ∧
        Merging 0 levels merged) ∧
      ∀ levels merged, Chain (.ofContent content) opts.padding path source () levels →
        Merging 0 levels merged → Agrees merged out) ∧
    ∀ e, out = .error e → e.kind ≠ .internal := by
  intro out
  have hdecided : Blocked content opts ⟨path, source⟩ 0 out ∨
      Merged content opts ⟨path, source⟩ 0 path source out :=
    (follows_resolve (.ofContent content) opts path source ()).decided rfl (Nat.zero_add _) rfl rfl
  rcases hdecided with ⟨j, kind, e, hfirst, hout, hk⟩ |
    ⟨hnone, levels, merged, hchain, hmerging, hagrees⟩
  · refine ⟨fun i kind' h => ⟨e, hout, hk.trans (hfirst.unique h)⟩, fun hnone => ?_, fun e' he' => ?_⟩
    · have := hfirst.here
      rw [hnone j] at this
      cases this
    · rw [hout] at he'
      cases he'
      rw [hk]
      exact kind_of_obstacle? hfirst.here
  · refine ⟨fun i kind h => ?_, fun _ => ⟨⟨levels, merged, hchain, hmerging⟩, ?_⟩, fun e he => ?_⟩
    · have := h.here
      rw [hnone i (Nat.zero_le i)] at this
      cases this
    · intro levels' merged' hchain' hmerging'
      obtain rfl := hchain.unique hchain'
      obtain rfl := hmerging.unique hmerging'
      exact hagrees
    · rw [he] at hagrees
      cases hagrees with
      | @error _ step _ hk =>
        rw [hk, MergeStep.kind]
        split <;> decide

end Graft.Extend
