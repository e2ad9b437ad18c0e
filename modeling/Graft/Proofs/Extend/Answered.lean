import Graft.Proofs.Extend.Outcome
import Graft.Proofs.Extend.Trail

/-!
# Graft.Proofs.Extend.Answered

A transform depends on files only through the answers to what it asks of them, one after the other.
Given the answers beforehand it comes to the same; given some of them it asks for the next path.

* `Files.watched`: files that write down what each read gives.
* `Asks`: paths asked for one after the other, with their answers.
* `Files.replayed`: answers in place of files.
* `Follows.answered`: what one level asks for, and how it goes with answers alone.
* `transform_answered`, `length_of_asked`: a whole transform.
-/

namespace Graft.Extend

variable {σ ε : Type}

/-- Files that write down each read with what it gave, the latest first. -/
def Files.watched (files : Files σ ε) : Files (List (Bytes × Except ε Bytes) × σ) ε where
  read path state :=
    let (data, below) := files.read path state.2
    (data, (path, data) :: state.1, below)
  register path state := (state.1, files.register path state.2)

/-- Paths asked for one after the other, with the answers. -/
inductive Asks (files : Files σ ε) : List Bytes → σ → List (Except ε Bytes) → σ → Prop where
  | nil {state : σ} : Asks files [] state [] state
  | cons {path : Bytes} {paths : List Bytes} {state next last : σ} {data : Except ε Bytes}
      {answers : List (Except ε Bytes)} (h : files.ask path state = (data, next))
      (hs : Asks files paths next answers last) :
      Asks files (path :: paths) state (data :: answers) last

/-- Answers given one after the other in place of files. What is asked for when none is left is
written down, and the answer to that means nothing. -/
def Files.replayed (stop : ε) : Files (List (Except ε Bytes) × Option Bytes) ε where
  read path state :=
    match state.1 with
    | answer :: answers => (answer, answers, state.2)
    | [] => (.error stop, [], some path)

/-! ## Answers -/

section

variable {files : Files σ ε}

theorem Asks.eq_map {content : Bytes → Except ε Bytes} {paths : List Bytes} {state last : Unit}
    {answers : List (Except ε Bytes)} (h : Asks (.ofContent content) paths state answers last) :
    answers = paths.map content := by
  induction h with
  | nil => rfl
  | cons h _ ih => rw [List.map_cons, ← ih, ask_ofContent h]

theorem Asks.watched {paths : List Bytes} {state last : σ} {answers : List (Except ε Bytes)}
    (h : Asks files paths state answers last) (log : List (Bytes × Except ε Bytes)) :
    Asks files.watched paths (log, state) answers ((paths.zip answers).reverse ++ log, last) := by
  induction h generalizing log with
  | nil => exact .nil
  | @cons path paths state next last data answers h _ ih =>
    rw [List.zip_cons_cons, List.reverse_cons, List.append_assoc]
    refine .cons ?_ (ih ((path, data) :: log))
    rw [Files.ask] at h
    simp only [Files.ask, Files.watched, h]

variable (stop : ε)

theorem replayed_ask (path : Bytes) (answer : Except ε Bytes) (answers : List (Except ε Bytes)) :
    (Files.replayed stop).ask path (answer :: answers, none) = (answer, answers, none) := rfl

theorem replayed_ask_nil (path : Bytes) :
    (Files.replayed stop).ask path ([], none) = (.error stop, [], some path) := rfl

theorem asks_replayed {files : Files σ ε} {paths : List Bytes} {state last : σ}
    {answers : List (Except ε Bytes)} (h : Asks files paths state answers last) :
    Asks (.replayed stop) paths (answers, none) answers ([], none) := by
  induction h with
  | nil => exact .nil
  | cons _ _ ih => exact .cons (replayed_ask stop _ _ _) ih

theorem Asks.length_of_asked {paths : List Bytes} {answers given : List (Except ε Bytes)}
    {state last : List (Except ε Bytes) × Option Bytes}
    (h : Asks (.replayed stop) paths state answers last) (hstate : state = (given, none))
    (hlast : last.2 ≠ none) : given.length < paths.length := by
  induction h generalizing given with
  | nil =>
    rw [hstate] at hlast
    exact absurd rfl hlast
  | @cons path paths state next last data answers h _ ih =>
    subst hstate
    cases given with
    | nil => exact Nat.succ_pos _
    | cons answer given =>
      rw [replayed_ask] at h
      cases h
      exact Nat.succ_lt_succ (ih rfl hlast)

end

/-! ## One level -/

section

variable {files : Files σ ε} {opts : Options} (stop : ε)

/-- What a level asks for with all levels below it. Other files that give the same answers lead to
the same, and with the first few of the answers it asks for the next path. -/
theorem Follows.answered {levels : Nat} {isEntry : Bool} {path source : Bytes} {walk walk' : Walk σ}
    {out : Except (ChainError ε) Bytes}
    (h : Follows files opts levels isEntry path source walk out walk') :
    ∃ paths answers, walk'.chain = walk.chain ++ paths ∧
      Asks files paths walk.state answers walk'.state ∧
      (∀ {τ : Type} (other : Files τ ε) (state last : τ), Asks other paths state answers last →
        Follows other opts levels isEntry path source (walk.withState state) out
          (walk'.withState last)) ∧
      ∀ k base, paths[k]? = some base → ∃ e last,
        Follows (.replayed stop) opts levels isEntry path source
          (walk.withState (answers.take k, none)) (.error e) last ∧
        last.state = ([], some base) := by
  have nothing {levels : Nat} {isEntry : Bool} {path source : Bytes} {walk : Walk σ}
      {out : Except (ChainError ε) Bytes}
      (h : ∀ {τ : Type} (other : Files τ ε) (state : τ),
        Follows other opts levels isEntry path source
        (walk.withState state) out (walk.withState state)) {τ : Type} (other : Files τ ε)
      (state last : τ) (hasks : Asks other [] state [] last) :
      Follows other opts levels isEntry path source (walk.withState state) out
        (walk.withState last) := by
    cases hasks
    exact h other state
  induction h with
  | malformed hp =>
    exact ⟨[], [], (List.append_nil _).symm, .nil, nothing fun _ _ => .malformed hp, by simp⟩
  | last hp ht =>
    exact ⟨[], [], (List.append_nil _).symm, .nil, nothing fun _ _ => .last hp ht, by simp⟩
  | tooDeep hp ht =>
    exact ⟨[], [], (List.append_nil _).symm, .nil, nothing fun _ _ => .tooDeep hp ht, by simp⟩
  | circular hp ht hs =>
    exact ⟨[], [], (List.append_nil _).symm, .nil, nothing fun _ _ => .circular hp ht hs, by simp⟩
  | @missing _ _ path _ target walk _ _ e hp ht hs hr =>
    refine ⟨[Path.base path target], [.error e], rfl, .cons hr .nil,
      fun other state last hasks => ?_,
      fun k base hbase => ?_⟩
    · cases hasks with
      | cons hother hrest =>
        cases hrest
        exact .missing hp ht hs hother
    · cases k with
      | zero =>
        cases hbase
        exact ⟨_, _, .missing hp ht hs (replayed_ask_nil stop _), rfl⟩
      | succ k => simp at hbase
  | @followed _ isEntry path source target data walk _ c _ _ hp ht hs hr _ ih =>
    obtain ⟨paths, answers, hchain, hasks, hsame, hsome⟩ := ih
    refine ⟨Path.base path target :: paths, .ok data :: answers, ?_, .cons hr hasks,
      fun other state last hasks => ?_, fun k base hbase => ?_⟩
    · rw [hchain, Walk.push, List.append_assoc]
      rfl
    · cases hasks with
      | cons hother hrest => exact .followed hp ht hs hother (hsame other _ _ hrest)
    · cases k with
      | zero =>
        cases hbase
        exact ⟨_, _, .missing hp ht hs (replayed_ask_nil stop _), rfl⟩
      | succ k =>
        obtain ⟨e, last, hfollows, hlast⟩ := hsome k base hbase
        have hmerged : Follows (.replayed stop) opts _ isEntry path source
            (walk.withState (.ok data :: answers.take k, none))
            (mergeInto isEntry path (Path.base path target) c (.error e)) last :=
          .followed hp ht hs (replayed_ask stop _ _ _) hfollows
        exact ⟨e, last, hmerged, hlast⟩

end

/-! ## A whole transform -/

section

variable (opts : Options) (path source : Bytes) (stop : ε)

/-- What a transform asks for. Other files that give the same answers lead to the same, and with the
first few of the answers it asks for the next path. -/
theorem transform_answered (files : Files σ ε) (state : σ) :
    let t := transform files opts path source state
    ∃ answers, Asks files t.chain state answers t.state ∧
      (∀ {τ : Type} (other : Files τ ε) (state last : τ), Asks other t.chain state answers last →
        transform other opts path source state = ⟨t.code, t.chain, t.dependencies, last⟩) ∧
      ∀ k base, t.chain[k]? = some base →
        (transform (.replayed stop) opts path source (answers.take k, none)).state =
          ([], some base) := by
  intro t
  obtain ⟨paths, answers, hchain, hasks, hsame, hsome⟩ :=
    (follows_resolve files opts path source state).answered stop
  have ht : t = _ := transform_eq files opts path source state
  have hpaths : t.chain = paths := by rw [ht]; exact hchain
  have hstate : t.state = _ := transform_state files opts path source state
  refine ⟨answers, hpaths ▸ hstate ▸ hasks, fun other s last hother => ?_, fun k base hbase => ?_⟩
  · have hresolve : resolve other opts path source s = _ :=
      (hsame other s last (hpaths ▸ hother)).eq
    rw [transform_eq, hresolve, ht]
    rfl
  · obtain ⟨e, last, hfollows, hlast⟩ := hsome k base (hpaths ▸ hbase)
    have hresolve : resolve (.replayed stop) opts path source (answers.take k, none) = _ :=
      hfollows.eq
    rw [transform_state, hresolve]
    exact hlast

theorem length_of_asked {answers : List (Except ε Bytes)} {base : Bytes}
    (h : (transform (.replayed stop) opts path source (answers, none)).state.2 = some base) :
    answers.length < opts.maxDepth := by
  obtain ⟨ending, hasked⟩ := asked_resolve (.replayed stop) opts path source (answers, none)
  obtain ⟨given, hasks, _, _⟩ :=
    transform_answered opts path source stop (.replayed stop) (answers, none)
  have hlt := hasks.length_of_asked stop rfl (by rw [h]; exact Option.some_ne_none base)
  rw [transform_chain] at hlt
  exact Nat.lt_of_lt_of_le hlt hasked.length

end

/-! ## Files that stay as they are -/

section

variable {content : Bytes → Except ε Bytes} {files : Files σ ε} {state : σ}

theorem asks_of_content (h : ∀ path, files.ask path state = (content path, state))
    (paths : List Bytes) : Asks files paths state (paths.map content) state := by
  induction paths with
  | nil => exact .nil
  | cons path paths ih => exact .cons (h path) ih

variable (opts : Options) (path source : Bytes)

/-- Files whose reads leave their state alone are as good as their content. -/
theorem transform_content (stop : ε) (h : ∀ path, files.ask path state = (content path, state)) :
    let t := transform (.ofContent content) opts path source ()
    transform files opts path source state = ⟨t.code, t.chain, t.dependencies, state⟩ ∧
      transform files.watched opts path source ([], state) =
        ⟨t.code, t.chain, t.dependencies,
          (t.chain.map fun path => (path, content path)).reverse, state⟩ := by
  intro t
  obtain ⟨answers, hasks, hsame, _⟩ :=
    transform_answered opts path source stop (.ofContent content) ()
  obtain rfl := hasks.eq_map
  have hfiles := asks_of_content h t.chain
  refine ⟨hsame files state state hfiles, ?_⟩
  rw [hsame files.watched _ _ (hfiles.watched []), List.append_nil, ← List.map_prod_left_eq_zip]

end

end Graft.Extend
