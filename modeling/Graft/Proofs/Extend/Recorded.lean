import Graft.Extend.Transform
import Graft.Proofs.Extend.Followed
import Graft.Proofs.Text.Order

/-!
# Graft.Proofs.Extend.Recorded

Files that remember what is asked of them are resolved over like the files themselves. What a
transform lists as its dependencies is what it remembers: its ancestors, in order.

* `Met`: the paths met between two walks.
* `Mirrors`: files with a state that is told from another one and the paths asked for.
* `Follows.mirrored`, `resolve_mirrored`: resolving over such files.
* `recorded_resolve`: resolving over files that remember.
* `transform_eq`: a transform, told from what its component resolves to.
-/

namespace Graft.Extend

variable {σ τ ε : Type}

/-! ## The paths met -/

/-- The paths that a walk has met since another one, none of which that one had met. -/
structure Met (walk walk' : Walk σ) (paths : List Bytes) : Prop where
  chain : walk'.chain = walk.chain ++ paths
  seen : walk'.seen = paths.reverse ++ walk.seen
  nodup : walk.seen.Nodup → walk'.seen.Nodup

theorem Met.nil (walk : Walk σ) : Met walk walk [] where
  chain := (List.append_nil _).symm
  seen := rfl
  nodup := id

theorem met_push {walk : Walk σ} {base : Bytes} (state : σ) (h : base ∉ walk.seen) :
    Met walk (walk.push base state) [base] where
  chain := rfl
  seen := rfl
  nodup hn := List.nodup_cons.2 ⟨h, hn⟩

theorem Met.trans {walk walk' walk'' : Walk σ} {paths paths' : List Bytes}
    (h : Met walk walk' paths) (h' : Met walk' walk'' paths') :
    Met walk walk'' (paths ++ paths') where
  chain := by rw [h'.chain, h.chain, List.append_assoc]
  seen := by rw [h'.seen, h.seen, List.reverse_append, List.append_assoc]
  nodup := h'.nodup ∘ h.nodup

/-! ## Files that answer alike -/

/-- The walk over other files that has met the same paths. -/
def Walk.withState (walk : Walk σ) (state : τ) : Walk τ := ⟨walk.seen, walk.chain, state⟩

/-- The outer files answer like the inner ones; their state is told from the inner one and from the
paths asked for so far. -/
def Mirrors (inner : Files σ ε) (outer : Files τ ε) (host : List Bytes → σ → τ) : Prop :=
  ∀ asked path state state' data, inner.ask path state = (data, state') →
    outer.ask path (host asked state) = (data, host (asked ++ [path]) state')

section

variable {inner : Files σ ε} {outer : Files τ ε} {host : List Bytes → σ → τ} {opts : Options}

theorem Follows.mirrored (hm : Mirrors inner outer host) {levels : Nat} {isEntry : Bool}
    {path source : Bytes} {walk walk' : Walk σ} {out : Except (ChainError ε) Bytes}
    (h : Follows inner opts levels isEntry path source walk out walk') :
    ∃ paths, Met walk walk' paths ∧ ∀ asked,
      Follows outer opts levels isEntry path source (walk.withState (host asked walk.state)) out
        (walk'.withState (host (asked ++ paths) walk'.state)) := by
  have nothing {walk : Walk σ} (asked : List Bytes) :
      walk.withState (host (asked ++ []) walk.state) = walk.withState (host asked walk.state) := by
    rw [List.append_nil]
  induction h with
  | malformed hp => exact ⟨[], .nil _, fun asked => nothing asked ▸ .malformed hp⟩
  | last hp ht => exact ⟨[], .nil _, fun asked => nothing asked ▸ .last hp ht⟩
  | tooDeep hp ht => exact ⟨[], .nil _, fun asked => nothing asked ▸ .tooDeep hp ht⟩
  | circular hp ht hs => exact ⟨[], .nil _, fun asked => nothing asked ▸ .circular hp ht hs⟩
  | missing hp ht hs hr =>
    exact ⟨_, met_push _ hs, fun asked => .missing hp ht hs (hm asked _ _ _ _ hr)⟩
  | @followed _ _ path _ target _ _ _ _ _ _ hp ht hs hr _ ih =>
    obtain ⟨paths, hmet, hfollows⟩ := ih
    refine ⟨_, (met_push _ hs).trans hmet, fun asked => ?_⟩
    have hrest := hfollows (asked ++ [Path.base path target])
    rw [List.append_assoc] at hrest
    exact .followed hp ht hs (hm asked _ _ _ _ hr) hrest

variable (opts) (path source : Bytes) (state : σ)

theorem resolve_mirrored (hm : Mirrors inner outer host) :
    let run := resolve inner opts path source state
    Met (.start path state) run.2 run.2.chain ∧
      resolve outer opts path source (host [] state) =
        (run.1, run.2.withState (host run.2.chain run.2.state)) := by
  intro run
  obtain ⟨paths, hmet, hfollows⟩ := (follows_resolve inner opts path source state).mirrored hm
  obtain rfl : run.2.chain = paths := hmet.chain
  exact ⟨hmet, (hfollows []).eq⟩

end

theorem nodup_entrySeen (path : Bytes) : (entrySeen path).Nodup := by
  rw [entrySeen]
  split
  · exact List.nodup_nil
  · exact List.nodup_singleton _

section

variable (files : Files σ ε) (opts : Options) (path source : Bytes) (state : σ)

/-- The ancestors are distinct, and none is the entry. -/
theorem nodup_resolve :
    ((resolve files opts path source state).2.chain.reverse ++ entrySeen path).Nodup := by
  have hself : Mirrors files files fun _ state => state := fun _ _ _ _ _ h => h
  have hmet := (resolve_mirrored opts path source state hself).1
  exact hmet.seen ▸ hmet.nodup (nodup_entrySeen path)

theorem nodup_chain : (resolve files opts path source state).2.chain.Nodup :=
  List.nodup_reverse.1 (List.nodup_append.1 (nodup_resolve files opts path source state)).1

/-! ## Files that remember -/

/-- What is remembered of paths registered one after the other. -/
def remembered (paths : List Bytes) : List Bytes :=
  paths.foldl (fun seen path => seen.insert path) []

theorem remembered_concat (paths : List Bytes) (path : Bytes) :
    remembered (paths ++ [path]) = (remembered paths).insert path := List.foldl_concat ..

theorem remembered_of_nodup {paths : List Bytes} (h : paths.Nodup) :
    remembered paths = paths.reverse := by
  induction paths using List.reverseRecOn with
  | nil => rfl
  | append_singleton paths path ih =>
    obtain ⟨hpaths, _, hdisjoint⟩ := List.nodup_append.1 h
    have hnew : path ∉ paths.reverse := fun hmem =>
      hdisjoint path (List.mem_reverse.1 hmem) path (List.mem_singleton_self _) rfl
    rw [remembered_concat, ih hpaths, List.insert_of_not_mem hnew, List.reverse_concat]

theorem mirrors_recorded :
    Mirrors files files.recorded fun asked state => ⟨remembered asked, state⟩ := by
  intro asked path state state' data h
  rw [Files.ask] at h
  simp only [Files.ask, Files.recorded, remembered_concat, h]

theorem recorded_resolve :
    let run := resolve files opts path source state
    resolve files.recorded opts path source ⟨[], state⟩ =
      (run.1, run.2.withState ⟨run.2.chain.reverse, run.2.state⟩) := by
  intro run
  have hresolve := (resolve_mirrored opts path source state (mirrors_recorded files)).2
  rw [remembered_of_nodup (nodup_chain files opts path source state)] at hresolve
  exact hresolve

theorem transform_eq :
    let run := resolve files opts path source state
    transform files opts path source state =
      ⟨run.1.bind finalize, run.2.chain, Bytes.sort run.2.chain, run.2.state⟩ := by
  intro run
  rw [transform, recorded_resolve, ← Bytes.sort_congr (List.reverse_perm run.2.chain)]
  rfl

@[simp] theorem transform_code : (transform files opts path source state).code =
    (resolve files opts path source state).1.bind finalize := by
  rw [transform_eq]

@[simp] theorem transform_chain : (transform files opts path source state).chain =
    (resolve files opts path source state).2.chain := by
  rw [transform_eq]

@[simp] theorem transform_state : (transform files opts path source state).state =
    (resolve files opts path source state).2.state := by
  rw [transform_eq]

@[simp] theorem transform_dependencies : (transform files opts path source state).dependencies =
    Bytes.sort (resolve files opts path source state).2.chain := by
  rw [transform_eq]

/-- A component that cannot be read fails before anything is asked for. -/
theorem transform_of_parse_error {e : SourceError}
    (h : Component.parse opts.padding source = .error e) :
    transform files opts path source state = ⟨.error (.source e), [], [], state⟩ := by
  have hresolve : resolve files opts path source state = (.error (.source e), .start path state) :=
    (Follows.malformed h).eq
  have hsort : Bytes.sort [] = [] := List.mergeSort_nil
  rw [transform_eq, hresolve]
  dsimp only [Walk.start]
  rw [hsort]
  rfl

end

end Graft.Extend
