import Graft.Proofs.Extend.Merged
import Graft.Proofs.Extend.Within

/-!
# Graft.Proofs.Extend.Followed

All that resolving a level can come to: it is malformed, it is the last, it stops in front of its
base, or it follows its base and is merged with what that resolves to.

* `HasUnnamed`, `merge_cases`: what merging can come to.
* `Files.ask`, `Walk.push`: asking for a base.
* `mergeInto`: a level and its resolved base.
* `Follows`: the outcomes of a level.
* `follows_iff`: they are those of `resolveLevel`.
-/

namespace Graft.Extend

open Markup

variable {σ ε : Type}

/-! ## Merging -/

/-- Some point of the forest has no usable name. -/
def HasUnnamed (forest : List Node) : Prop :=
  ∃ address ∈ addresses pointTag forest,
    usable ((get? address forest).bind (Node.attr? nameKey)) = none

theorem settleAll_cases (unspliced : List Node) (all : List Override) (s : Splicing)
    (points : List Address) :
    (s.settleAll unspliced all points = .error .pointWithoutName ∧
        ∃ address ∈ points, usable ((get? address unspliced).bind (Node.attr? nameKey)) = none) ∨
      (∃ s', s.settleAll unspliced all points = .ok s') ∧
        ∀ address ∈ points, usable ((get? address unspliced).bind (Node.attr? nameKey)) ≠ none := by
  induction points generalizing s with
  | nil => exact .inr ⟨⟨s, rfl⟩, by simp⟩
  | cons address points ih =>
    rw [Splicing.settleAll]
    cases hname : usable ((get? address unspliced).bind (Node.attr? nameKey)) with
    | none =>
      have hsettle : s.settle unspliced all address = .error .pointWithoutName := by
        rw [Splicing.settle, hname]
      rw [hsettle]
      exact .inl ⟨rfl, address, List.mem_cons_self .., hname⟩
    | some name =>
      obtain ⟨next, hnext⟩ : ∃ next, s.settle unspliced all address = .ok next := by
        rw [Splicing.settle, hname]
        dsimp only
        split
        · exact ⟨_, rfl⟩
        · split <;> exact ⟨_, rfl⟩
      rw [hnext]
      rcases ih next with ⟨he, point, hmem, hnone⟩ | ⟨hok, hall⟩
      · exact .inl ⟨he, point, List.mem_cons_of_mem _ hmem, hnone⟩
      · refine .inr ⟨hok, List.forall_mem_cons.2 ⟨?_, hall⟩⟩
        rw [hname]
        exact Option.some_ne_none name

theorem splice_cases (all : List Override) (forest : List Node) :
    splice all forest = .error .pointWithoutName ∧ HasUnnamed forest ∨
      (∃ spliced, splice all forest = .ok spliced) ∧ ¬ HasUnnamed forest := by
  rw [splice]
  rcases settleAll_cases forest all ⟨forest, []⟩ (addresses pointTag forest) with
    ⟨he, hnone⟩ | ⟨⟨s, hs⟩, hall⟩
  · rw [he]
    exact .inl ⟨rfl, hnone⟩
  · rw [hs]
    refine .inr ⟨⟨_, rfl⟩, ?_⟩
    rintro ⟨address, hmem, hnone⟩
    exact hall address hmem hnone

theorem exists_render_of_splice {child base : Component} {all : List Override} {spliced : List Node}
    (hall : overrides (Markup.parse child.template.content) = .ok all)
    (hs : splice all (Markup.parse base.template.content) = .ok spliced) :
    ∃ body, render spliced = .ok body := by
  rw [spliced_eq hall hs]
  exact exists_render (forall_substituteAll kept_writable
    (forall_replacement? Writable.children (writable_parse _)) _ (writable_parse _))

theorem merge_cases (child base : Component) :
    (∃ e, overrides (Markup.parse child.template.content) = .error e ∧
        merge child base = .error (.override e)) ∨
      ∃ all, overrides (Markup.parse child.template.content) = .ok all ∧
        (HasUnnamed (Markup.parse base.template.content) ∧
            merge child base = .error .pointWithoutName ∨
          ¬ HasUnnamed (Markup.parse base.template.content) ∧
            ∃ merged, merge child base = .ok merged) := by
  rw [merge]
  cases hall : overrides (Markup.parse child.template.content) with
  | error e => exact .inl ⟨e, rfl, rfl⟩
  | ok all =>
    refine .inr ⟨all, rfl, ?_⟩
    dsimp only
    rcases splice_cases all (Markup.parse base.template.content) with
      ⟨he, hnone⟩ | ⟨⟨spliced, hs⟩, hnamed⟩
    · rw [he]
      exact .inl ⟨hnone, rfl⟩
    · obtain ⟨body, hbody⟩ := exists_render_of_splice hall hs
      rw [hs]
      dsimp only
      rw [hbody]
      exact .inr ⟨hnamed, _, rfl⟩

/-! ## One level -/

def Files.ask (files : Files σ ε) (path : Bytes) (state : σ) : Except ε Bytes × σ :=
  files.read path (files.register path state)

/-- The walk when a path has been asked for. -/
def Walk.push (walk : Walk σ) (path : Bytes) (state : σ) : Walk σ :=
  ⟨path :: walk.seen, walk.chain ++ [path], state⟩

/-- What becomes of a level once its base is resolved. -/
def mergeInto (isEntry : Bool) (path base : Bytes) (component : Component) :
    Except (ChainError ε) Bytes → Except (ChainError ε) Bytes
  | .error e => .error e
  | .ok resolved =>
    match Component.parse .none resolved with
    | .error e => .error (.ancestor base (.source e))
    | .ok next =>
      match merge component next with
      | .error e => .error (.atLevel isEntry path (.merge e))
      | .ok merged => .ok merged

theorem mergeInto_cases (c : Component) (isEntry : Bool) (path base resolved : Bytes) :
    (∃ e, Component.parse .none resolved = .error e ∧
        mergeInto (ε := ε) isEntry path base c (.ok resolved) = .error (.ancestor base (.source e))) ∨
      ∃ next, Component.parse .none resolved = .ok next ∧
        ((∃ e, overrides (Markup.parse c.template.content) = .error e ∧
            mergeInto (ε := ε) isEntry path base c (.ok resolved) =
              .error (.atLevel isEntry path (.merge (.override e)))) ∨
          ∃ all, overrides (Markup.parse c.template.content) = .ok all ∧
            (HasUnnamed (Markup.parse next.template.content) ∧
                mergeInto (ε := ε) isEntry path base c (.ok resolved) =
                  .error (.atLevel isEntry path (.merge .pointWithoutName)) ∨
              ¬ HasUnnamed (Markup.parse next.template.content) ∧ ∃ merged,
                merge c next = .ok merged ∧
                mergeInto (ε := ε) isEntry path base c (.ok resolved) = .ok merged)) := by
  rw [mergeInto]
  cases hnext : Component.parse .none resolved with
  | error e => exact .inl ⟨e, rfl, rfl⟩
  | ok next =>
    refine .inr ⟨next, rfl, ?_⟩
    dsimp only
    rcases merge_cases c next with ⟨e, ho, hm⟩ | ⟨all, ho, ⟨hu, hm⟩ | ⟨hu, merged, hm⟩⟩
    · rw [hm]
      exact .inl ⟨e, ho, rfl⟩
    · rw [hm]
      exact .inr ⟨all, ho, .inl ⟨hu, rfl⟩⟩
    · rw [hm]
      exact .inr ⟨all, ho, .inr ⟨hu, merged, rfl, rfl⟩⟩

/-! ### Kinds -/

section

variable (isEntry : Bool) (path : Bytes) (e : SourceError)

theorem kind_source : (ChainError.atLevel isEntry path (.source e : ChainError ε)).kind =
    if isEntry then .malformedSource else .malformedAncestor := by
  cases isEntry <;> rfl

theorem kind_override :
    (ChainError.atLevel isEntry path (.merge (.override e) : ChainError ε)).kind =
      if isEntry then .malformedSource else .malformedAncestor := by
  cases isEntry <;> rfl

theorem kind_point : (ChainError.atLevel isEntry path (.merge .pointWithoutName : ChainError ε)).kind =
    .malformedAncestor := by
  cases isEntry <;> rfl

theorem kind_ancestor : (ChainError.ancestor path (.source e : ChainError ε)).kind =
    .malformedAncestor := rfl

end

/-! ### Outcomes -/

/-- The outcomes of the level at a path, with the walk before and after it. -/
inductive Follows (files : Files σ ε) (opts : Options) :
    Nat → Bool → Bytes → Bytes → Walk σ → Except (ChainError ε) Bytes → Walk σ → Prop where
  | malformed {levels : Nat} {isEntry : Bool} {path source : Bytes} {walk : Walk σ} {e : SourceError}
      (hp : Component.parse opts.padding source = .error e) :
      Follows files opts levels isEntry path source walk
        (.error (.atLevel isEntry path (.source e))) walk
  | last {levels : Nat} {isEntry : Bool} {path source : Bytes} {walk : Walk σ} {c : Component}
      (hp : Component.parse opts.padding source = .ok c) (ht : c.template.extends? = none) :
      Follows files opts levels isEntry path source walk (.ok source) walk
  | tooDeep {isEntry : Bool} {path source target : Bytes} {walk : Walk σ} {c : Component}
      (hp : Component.parse opts.padding source = .ok c) (ht : c.template.extends? = some target) :
      Follows files opts 0 isEntry path source walk (.error (.tooDeep path opts.maxDepth)) walk
  | circular {levels : Nat} {isEntry : Bool} {path source target : Bytes} {walk : Walk σ}
      {c : Component} (hp : Component.parse opts.padding source = .ok c)
      (ht : c.template.extends? = some target) (hs : Path.base path target ∈ walk.seen) :
      Follows files opts (levels + 1) isEntry path source walk
        (.error (.circular path (Path.base path target))) walk
  | missing {levels : Nat} {isEntry : Bool} {path source target : Bytes} {walk : Walk σ}
      {c : Component} {state : σ} {e : ε} (hp : Component.parse opts.padding source = .ok c)
      (ht : c.template.extends? = some target) (hs : Path.base path target ∉ walk.seen)
      (hr : files.ask (Path.base path target) walk.state = (.error e, state)) :
      Follows files opts (levels + 1) isEntry path source walk
        (.error (.missingBase (Path.base path target) path e))
        (walk.push (Path.base path target) state)
  | followed {levels : Nat} {isEntry : Bool} {path source target data : Bytes} {walk walk' : Walk σ}
      {c : Component} {state : σ} {out : Except (ChainError ε) Bytes}
      (hp : Component.parse opts.padding source = .ok c) (ht : c.template.extends? = some target)
      (hs : Path.base path target ∉ walk.seen)
      (hr : files.ask (Path.base path target) walk.state = (.ok data, state))
      (h : Follows files opts levels false (Path.base path target) data
        (walk.push (Path.base path target) state) out walk') :
      Follows files opts (levels + 1) isEntry path source walk
        (mergeInto isEntry path (Path.base path target) c out) walk'

section

variable {files : Files σ ε} {opts : Options}

theorem Follows.eq {levels : Nat} {isEntry : Bool} {path source : Bytes} {walk walk' : Walk σ}
    {out : Except (ChainError ε) Bytes}
    (h : Follows files opts levels isEntry path source walk out walk') :
    resolveLevel files opts levels isEntry path source walk = (out, walk') := by
  induction h with
  | malformed hp => rw [resolveLevel.eq_def]; simp only [hp]
  | last hp ht => rw [resolveLevel.eq_def]; simp only [hp, ht]
  | tooDeep hp ht => rw [resolveLevel.eq_def]; simp only [hp, ht]
  | circular hp ht hs => rw [resolveLevel.eq_def]; simp [hp, ht, hs]
  | missing hp ht hs hr =>
    rw [Files.ask] at hr
    rw [resolveLevel.eq_def]
    simp [hp, ht, hs, hr, Walk.push]
  | @followed _ _ _ _ _ _ _ _ c _ out hp ht hs hr _ ih =>
    rw [Files.ask] at hr
    rw [Walk.push] at ih
    rw [resolveLevel.eq_def]
    simp only [hp, ht, List.contains_eq_mem, hs, decide_false, Bool.false_eq_true, if_false, hr, ih]
    cases out with
    | error e => rfl
    | ok resolved =>
      dsimp only [mergeInto]
      cases Component.parse .none resolved with
      | error e => rfl
      | ok next => dsimp only; cases merge c next <;> rfl

variable (files opts) in
theorem exists_follows (levels : Nat) (isEntry : Bool) (path source : Bytes) (walk : Walk σ) :
    ∃ out walk', Follows files opts levels isEntry path source walk out walk' := by
  induction levels generalizing isEntry path source walk with
  | zero =>
    cases hp : Component.parse opts.padding source with
    | error e => exact ⟨_, _, .malformed hp⟩
    | ok c =>
      cases ht : c.template.extends? with
      | none => exact ⟨_, _, .last hp ht⟩
      | some target => exact ⟨_, _, .tooDeep hp ht⟩
  | succ levels ih =>
    cases hp : Component.parse opts.padding source with
    | error e => exact ⟨_, _, .malformed hp⟩
    | ok c =>
      cases ht : c.template.extends? with
      | none => exact ⟨_, _, .last hp ht⟩
      | some target =>
        by_cases hs : Path.base path target ∈ walk.seen
        · exact ⟨_, _, .circular hp ht hs⟩
        · obtain ⟨data, state, hr⟩ : ∃ data state,
              files.ask (Path.base path target) walk.state = (data, state) := ⟨_, _, rfl⟩
          cases data with
          | error e => exact ⟨_, _, .missing hp ht hs hr⟩
          | ok data =>
            obtain ⟨out, walk', h⟩ := ih false (Path.base path target) data
              (walk.push (Path.base path target) state)
            exact ⟨_, _, .followed hp ht hs hr h⟩

theorem follows_iff {levels : Nat} {isEntry : Bool} {path source : Bytes} {walk walk' : Walk σ}
    {out : Except (ChainError ε) Bytes} :
    Follows files opts levels isEntry path source walk out walk' ↔
      resolveLevel files opts levels isEntry path source walk = (out, walk') := by
  refine ⟨Follows.eq, fun h => ?_⟩
  obtain ⟨out', walk'', hf⟩ := exists_follows files opts levels isEntry path source walk
  rw [hf.eq] at h
  cases h
  exact hf

/-- The entry's own path counts as met. -/
def entrySeen (path : Bytes) : List Bytes := if path.isEmpty then [] else [Path.clean path]

theorem follows_resolve (files : Files σ ε) (opts : Options) (path source : Bytes) (state : σ) :
    Follows files opts opts.maxDepth true path source (.start path state)
      (resolve files opts path source state).1 (resolve files opts path source state).2 :=
  follows_iff.2 rfl

end

end Graft.Extend
