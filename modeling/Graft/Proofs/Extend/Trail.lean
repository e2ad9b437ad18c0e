import Graft.Proofs.Extend.Recorded

/-!
# Graft.Proofs.Extend.Trail

What a resolution asks for. Every ancestor is registered and then read, none of them twice, each one
is the base that the source before it names, and nothing else is asked for, however the resolution
ends.

* `Request`, `Files.logged`: files that write down what is asked of them.
* `Trail`: ancestors asked for one after the other, and where that ends.
* `Ends`: how the outcome goes with the end of the trail.
* `Follows.asked`: what one level asks for, with all levels below it.
* `resolve_trail`: what a whole resolution asks for.
-/

namespace Graft.Extend

variable {σ ε : Type}

/-- Something asked of files. -/
inductive Request where
  | register (path : Bytes)
  | read (path : Bytes)
deriving DecidableEq, Repr

def Files.logged (files : Files σ ε) : Files (List Request × σ) ε where
  read path state :=
    let (data, below) := files.read path state.2
    (data, state.1 ++ [.read path], below)
  register path state := (state.1 ++ [.register path], files.register path state.2)

/-- Paths that are registered and read one after the other. -/
def requests (paths : List Bytes) : List Request :=
  paths.flatMap fun path => [.register path, .read path]

def Names (pad : Padding) (path source base : Bytes) : Prop :=
  ∃ c target, Component.parse pad source = .ok c ∧ c.template.extends? = some target ∧
    base = Path.base path target

/-- Where a trail ends: at a source from which nothing more is asked for, or at a path that cannot be
read. -/
inductive Ending (ε : Type) where
  | standing (path source : Bytes)
  | unreadable (path : Bytes) (e : ε)

/-- Ancestors asked for one after the other, from a source at a path on. -/
inductive Trail (files : Files σ ε) (pad : Padding) :
    Bytes → Bytes → σ → List Bytes → σ → Ending ε → Prop where
  | standing {path source : Bytes} {state : σ} :
      Trail files pad path source state [] state (.standing path source)
  | unreadable {path source base : Bytes} {state state' : σ} {e : ε}
      (hb : Names pad path source base) (hr : files.ask base state = (.error e, state')) :
      Trail files pad path source state [base] state' (.unreadable base e)
  | follow {path source base data : Bytes} {state state' last : σ} {paths : List Bytes}
      {ending : Ending ε} (hb : Names pad path source base)
      (hr : files.ask base state = (.ok data, state'))
      (h : Trail files pad base data state' paths last ending) :
      Trail files pad path source state (base :: paths) last ending

/-- How an outcome goes with the end of its trail. A base that has been met before, or that is too
far away, is not asked for. -/
inductive Ends (pad : Padding) (seen : List Bytes) :
    Except (ChainError ε) Bytes → Ending ε → Prop where
  | done {text path source : Bytes} {c : Component} (hp : Component.parse pad source = .ok c)
      (ht : c.template.extends? = none) : Ends pad seen (.ok text) (.standing path source)
  | circular {path source base : Bytes} (hb : Names pad path source base) (hs : base ∈ seen) :
      Ends pad seen (.error (.circular path base)) (.standing path source)
  | tooDeep {path source base : Bytes} {levels : Nat} (hb : Names pad path source base) :
      Ends pad seen (.error (.tooDeep path levels)) (.standing path source)
  | missing {path child : Bytes} {e : ε} :
      Ends pad seen (.error (.missingBase path child e)) (.unreadable path e)
  | malformed {path source : Bytes} {e : ChainError ε}
      (hk : e.kind = .malformedSource ∨ e.kind = .malformedAncestor) :
      Ends pad seen (.error e) (.standing path source)

/-! ## One level -/

section

variable {files : Files σ ε} {opts : Options}

theorem Ends.mergeInto {pad : Padding} {seen : List Bytes} {out : Except (ChainError ε) Bytes}
    {ending : Ending ε} (c : Component) (isEntry : Bool) (path base : Bytes)
    (h : Ends pad seen out ending) :
    Ends pad seen (mergeInto isEntry path base c out) ending := by
  cases h with
  | circular hb hs => exact .circular hb hs
  | tooDeep hb => exact .tooDeep hb
  | missing => exact .missing
  | malformed hk => exact .malformed hk
  | @done resolved _ _ _ hp' ht =>
    rcases mergeInto_cases c isEntry path base resolved with
      ⟨e, _, hm⟩ | ⟨_, _, ⟨e, _, hm⟩ | ⟨_, _, ⟨_, hm⟩ | ⟨_, merged, _, hm⟩⟩⟩
    · rw [hm]
      exact .malformed (.inr (kind_ancestor base e))
    · rw [hm]
      refine .malformed ?_
      rw [kind_override]
      cases isEntry <;> simp
    · rw [hm]
      exact .malformed (.inr (kind_point isEntry path))
    · rw [hm]
      exact .done hp' ht

variable (files opts) in
/-- What a level asks for, with all levels below it: `levels` paths at most, none of which has been
met before. -/
structure Asked (levels : Nat) (path source : Bytes) (walk : Walk σ)
    (out : Except (ChainError ε) Bytes) (walk' : Walk σ) (paths : List Bytes)
    (ending : Ending ε) : Prop where
  met : Met walk walk' paths
  length : paths.length ≤ levels
  trail : Trail files opts.padding path source walk.state paths walk'.state ending
  ends : Ends opts.padding walk'.seen out ending

theorem asked_nothing {levels : Nat} {path source : Bytes} {walk : Walk σ}
    {out : Except (ChainError ε) Bytes} (h : Ends opts.padding walk.seen out (.standing path source)) :
    Asked files opts levels path source walk out walk [] (.standing path source) where
  met := .nil walk
  length := Nat.zero_le _
  trail := .standing
  ends := h

theorem Follows.asked {levels : Nat} {isEntry : Bool} {path source : Bytes} {walk walk' : Walk σ}
    {out : Except (ChainError ε) Bytes}
    (h : Follows files opts levels isEntry path source walk out walk') :
    ∃ paths ending, Asked files opts levels path source walk out walk' paths ending := by
  induction h with
  | malformed hp =>
    refine ⟨[], _, asked_nothing (.malformed ?_)⟩
    rw [kind_source]
    split <;> simp
  | last hp ht => exact ⟨[], _, asked_nothing (.done hp ht)⟩
  | tooDeep hp ht => exact ⟨[], _, asked_nothing (.tooDeep ⟨_, _, hp, ht, rfl⟩)⟩
  | circular hp ht hs => exact ⟨[], _, asked_nothing (.circular ⟨_, _, hp, ht, rfl⟩ hs)⟩
  | missing hp ht hs hr =>
    exact ⟨_, _, met_push _ hs, Nat.succ_le_succ (Nat.zero_le _),
      .unreadable ⟨_, _, hp, ht, rfl⟩ hr, .missing⟩
  | @followed _ isEntry path _ target _ walk _ _ _ _ hp ht hs hr _ ih =>
    obtain ⟨paths, ending, hasked⟩ := ih
    refine ⟨Path.base path target :: paths, ending, ?_, ?_, ?_, ?_⟩
    · exact (met_push _ hs).trans hasked.met
    · exact Nat.succ_le_succ hasked.length
    · exact .follow ⟨_, _, hp, ht, rfl⟩ hr hasked.trail
    · exact hasked.ends.mergeInto _ isEntry path _

end

/-! ## A whole resolution -/

theorem Trail.getLast?_unreadable {files : Files σ ε} {pad : Padding} {path source base : Bytes}
    {state state' : σ} {paths : List Bytes} {e : ε}
    (h : Trail files pad path source state paths state' (.unreadable base e)) :
    paths.getLast? = some base := by
  generalize hending : Ending.unreadable base e = ending at h
  induction h with
  | standing => cases hending
  | unreadable => cases hending; rfl
  | follow _ _ _ ih =>
    rw [List.getLast?_cons, ih hending]
    rfl

theorem asked_resolve (files : Files σ ε) (opts : Options) (path source : Bytes) (state : σ) :
    ∃ ending, Asked files opts opts.maxDepth path source (.start path state)
      (resolve files opts path source state).1 (resolve files opts path source state).2
      (resolve files opts path source state).2.chain ending := by
  obtain ⟨paths, ending, h⟩ := (follows_resolve files opts path source state).asked
  obtain rfl : (resolve files opts path source state).2.chain = paths := h.met.chain
  exact ⟨ending, h⟩

theorem mirrors_logged (files : Files σ ε) :
    Mirrors files files.logged fun asked state => (requests asked, state) := by
  intro asked path state state' data h
  rw [Files.ask] at h
  simp only [Files.ask, Files.logged, requests, List.flatMap_append, List.flatMap_singleton, h,
    List.append_assoc, List.cons_append, List.nil_append]

/-- Writing down changes nothing else, and each ancestor is registered right before it is read. -/
theorem logged_resolve (files : Files σ ε) (opts : Options) (path source : Bytes) (state : σ) :
    let run := resolve files opts path source state
    resolve files.logged opts path source ([], state) =
      (run.1, run.2.withState (requests run.2.chain, run.2.state)) :=
  (resolve_mirrored opts path source state (mirrors_logged files)).2

/-- The trace of a resolution, whether it succeeds or fails: the ancestors asked for are registered
and read one after the other, each the base of the one before; they are distinct, none is the entry,
and there are no more of them than may be followed. The outcome agrees with the place where that
ends, and the dependencies of a transform are those ancestors in order. -/
theorem resolve_trail (files : Files σ ε) (opts : Options) (path source : Bytes) (state : σ) :
    let run := resolve files opts path source state
    let logged := resolve files.logged opts path source ([], state)
    let transformed := transform files opts path source state
    ∃ ending,
      (logged.1 = run.1 ∧ logged.2.chain = run.2.chain ∧
        logged.2.state = (requests run.2.chain, run.2.state)) ∧
      run.2.chain.Nodup ∧ (path ≠ [] → Path.clean path ∉ run.2.chain) ∧
      run.2.chain.length ≤ opts.maxDepth ∧
      Trail files opts.padding path source state run.2.chain run.2.state ending ∧
      Ends opts.padding (run.2.chain.reverse ++ entrySeen path) run.1 ending ∧
      (∀ base e, ending = .unreadable base e → run.2.chain.getLast? = some base) ∧
      transformed.chain = run.2.chain ∧ transformed.state = run.2.state ∧
      transformed.dependencies.Perm run.2.chain ∧ transformed.dependencies.Nodup ∧
      transformed.dependencies.Pairwise fun s t => Bytes.le s t = true := by
  intro run logged transformed
  obtain ⟨ending, h⟩ := asked_resolve files opts path source state
  have hlogged : logged = (run.1, run.2.withState (requests run.2.chain, run.2.state)) :=
    logged_resolve files opts path source state
  have hchain : run.2.chain.Nodup := nodup_chain files opts path source state
  have hdependencies : transformed.dependencies = Bytes.sort run.2.chain :=
    transform_dependencies files opts path source state
  have hends := h.ends
  rw [h.met.seen] at hends
  refine ⟨ending, ?_, hchain, ?_, h.length, h.trail, hends, ?_,
    transform_chain files opts path source state, transform_state files opts path source state,
    ?_, ?_, ?_⟩
  · rw [hlogged]
    exact ⟨rfl, rfl, rfl⟩
  · intro hpath hmem
    obtain ⟨_, _, hdisjoint⟩ := List.nodup_append.1 (nodup_resolve files opts path source state)
    refine hdisjoint _ (List.mem_reverse.2 hmem) (Path.clean path) ?_ rfl
    rw [entrySeen, if_neg (by simpa using hpath)]
    exact List.mem_singleton_self _
  · rintro base e rfl
    exact h.trail.getLast?_unreadable
  · rw [hdependencies]
    exact Bytes.sort_perm _
  · rw [hdependencies]
    exact (Bytes.sort_perm _).nodup_iff.2 hchain
  · rw [hdependencies]
    exact Bytes.pairwise_sort _

end Graft.Extend
