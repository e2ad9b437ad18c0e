import Graft.Cache
import Graft.Proofs.Extend.Answered

/-!
# Graft.Proofs.Cache.Recency

What a cache holds after any history: the files read last, as they were when they were last read
from below.

* `recent`: the latest distinct paths of a list.
* `Event`, `History`: what happens to a cache, and what has come of it.
* `Upkeep`: what every history keeps up.
* `Still`: files below that do not change.
* `cache_contract`: what the cache holds and what the next read does.
-/

namespace Graft.Cache

open Extend (Files)

/-! ## The latest distinct paths -/

/-- The first `size` distinct paths of a list that has the latest one first. -/
def recent (size : Nat) (paths : List Bytes) : List Bytes := paths.eraseDups.take size

theorem eraseDups_filter (p : Bytes → Bool) (paths : List Bytes) :
    (paths.filter p).eraseDups = paths.eraseDups.filter p := by
  cases paths with
  | nil => rfl
  | cons path paths =>
    have hrest := eraseDups_filter p (paths.filter fun other => !other == path)
    by_cases hp : p path = true
    · rw [List.filter_cons_of_pos hp, List.eraseDups_cons, List.eraseDups_cons,
        List.filter_cons_of_pos hp, ← hrest, List.filter_filter, List.filter_filter]
      simp only [Bool.and_comm]
    · rw [List.filter_cons_of_neg hp, List.eraseDups_cons, List.filter_cons_of_neg hp, ← hrest,
        List.filter_filter]
      congr 1
      refine List.filter_congr fun other _ => ?_
      by_cases heq : other = path
      · simp [heq, hp]
      · simp [heq]
termination_by paths.length
decreasing_by exact Nat.lt_succ_of_le (List.length_filter_le _ _)

theorem nodup_eraseDups (paths : List Bytes) : paths.eraseDups.Nodup := by
  cases paths with
  | nil => exact List.nodup_nil
  | cons path paths =>
    rw [List.eraseDups_cons, List.nodup_cons]
    refine ⟨?_, nodup_eraseDups _⟩
    simp [List.mem_eraseDups]
termination_by paths.length
decreasing_by exact Nat.lt_succ_of_le (List.length_filter_le _ _)

theorem nodup_recent (size : Nat) (paths : List Bytes) : (recent size paths).Nodup :=
  (nodup_eraseDups paths).sublist (List.take_sublist _ _)

theorem length_recent (size : Nat) (paths : List Bytes) :
    (recent size paths).length = min size paths.eraseDups.length := List.length_take

/-- A path that is read again moves to the front, and what does not fit falls off the end. -/
theorem recent_cons {size : Nat} (hsize : 0 < size) (path : Bytes) (paths : List Bytes) :
    recent size (path :: paths) =
      (path :: (recent size paths).filter fun other => other != path).take size := by
  obtain ⟨n, rfl⟩ : ∃ n, size = n + 1 := ⟨size - 1, by omega⟩
  have hnodup := nodup_eraseDups paths
  rw [recent, recent, List.eraseDups_cons, eraseDups_filter, List.take_succ_cons,
    List.take_succ_cons]
  congr 1
  show (paths.eraseDups.filter fun other => other != path).take n = _
  generalize paths.eraseDups = distinct at hnodup
  by_cases hshort : distinct.length ≤ n + 1
  · rw [List.take_of_length_le hshort]
  · have hlength : n ≤ ((distinct.take (n + 1)).filter fun other => other != path).length := by
      rw [← (hnodup.sublist (List.take_sublist _ _)).erase_eq_filter, List.length_erase,
        List.length_take]
      split <;> omega
    conv_lhs => rw [← List.take_append_drop (n + 1) distinct, List.filter_append]
    rw [List.take_append_of_le_length hlength]

theorem recent_cons_of_mem {size : Nat} {path : Bytes} {paths : List Bytes}
    (h : path ∈ recent size paths) :
    recent size (path :: paths) =
      path :: (recent size paths).filter fun other => other != path := by
  have hle := List.length_take_le size paths.eraseDups
  have hsize : 0 < size := Nat.lt_of_lt_of_le (List.length_pos_of_mem h) hle
  rw [recent_cons hsize, List.take_of_length_le]
  rw [← (nodup_recent size paths).erase_eq_filter, List.length_cons, List.length_erase_of_mem h]
  have : (recent size paths).length ≤ size := hle
  omega

/-! ## A cache -/

theorem get?_eq_none_iff {c : Cache} {path : Bytes} :
    c.get? path = none ↔ path ∉ c.files.map Prod.fst := by
  rw [get?]
  cases h : c.files.find? fun f => f.1 == path with
  | none =>
    rw [List.find?_eq_none] at h
    simp only [true_iff]
    intro hmem
    obtain ⟨f, hf, heq⟩ := List.mem_map.1 hmem
    exact h f hf (by simp [heq])
  | some f =>
    have hmem := List.mem_of_find?_eq_some h
    have heq : f.1 = path := by simpa using List.find?_some h
    simp only [reduceCtorEq, List.mem_map, false_iff, not_not]
    exact ⟨f, hmem, heq⟩

theorem get?_eq_some {c c' : Cache} {path data : Bytes} (h : c.get? path = some (data, c')) :
    (path, data) ∈ c.files ∧
      c' = { c with files := (path, data) :: c.files.filter fun f => f.1 != path } := by
  rw [get?] at h
  cases hf : c.files.find? fun f => f.1 == path with
  | none => simp [hf] at h
  | some f =>
    have hmem := List.mem_of_find?_eq_some hf
    have heq : f.1 = path := by simpa using List.find?_some hf
    rw [hf] at h
    obtain ⟨p, bytes⟩ := f
    obtain rfl : p = path := heq
    cases h
    exact ⟨hmem, rfl⟩

theorem map_fst_filter (files : List (Bytes × Bytes)) (path : Bytes) :
    (files.filter fun f => f.1 != path).map Prod.fst =
      (files.map Prod.fst).filter fun other => other != path := by
  rw [List.filter_map]
  rfl

/-! ## Histories -/

variable {σ ε : Type}

/-- Something that happens to a cache or to the files below it. -/
inductive Event (σ : Type) where
  | read (canceled : Bool) (path : Bytes)
  | register (path : Bytes)
  | change (f : σ → σ)

/-- What has come of events. -/
structure History (σ ε : Type) where
  cache : Cache
  below : σ
  /-- The paths of reads that succeeded, the latest first. -/
  served : List Bytes
  /-- The reads that reached the files below, with what they gave, the latest first. -/
  calls : List (Bytes × Except ε Bytes)

namespace History

/-- A cache before anything has happened. -/
def start (size : Nat) (below : σ) : History σ ε := ⟨⟨size, []⟩, below, [], []⟩

/-- The paths of the files kept, the most recent first. -/
def kept (h : History σ ε) : List Bytes := h.cache.files.map Prod.fst

variable (inner : Bool → Files σ ε)

/-- One read through the cache; `inner` says what the files below do when called off, and when
not. -/
def ask (canceled : Bool) (path : Bytes) (h : History σ ε) : Except ε Bytes × History σ ε :=
  let (data, cache, calls, below) :=
    (before (inner canceled).watched).read path (h.cache, h.calls, h.below)
  let served := match data with
    | .ok _ => path :: h.served
    | .error _ => h.served
  (data, ⟨cache, below, served, calls⟩)

/-- What comes of one more event. -/
def next (h : History σ ε) : Event σ → History σ ε
  | .read canceled path => (h.ask inner canceled path).2
  | .register path =>
    let (cache, below) := (before (inner false)).register path (h.cache, h.below)
    { h with cache := cache, below := below }
  | .change f => { h with below := f h.below }

/-- What comes of events, one after the other. -/
def after (size : Nat) (below : σ) (events : List (Event σ)) : History σ ε :=
  events.foldl (next inner) (start size below)

end History

section

variable {inner : Bool → Files σ ε} {h : History σ ε} {path : Bytes}

theorem ask_of_hit (canceled : Bool) {bytes : Bytes} {c : Cache}
    (hget : h.cache.get? path = some (bytes, c)) :
    h.ask inner canceled path = (.ok bytes, { h with cache := c, served := path :: h.served }) := by
  simp only [History.ask, before, hget]

theorem ask_of_fetched {canceled : Bool} {data : Bytes} {below : σ}
    (hget : h.cache.get? path = none)
    (hread : (inner canceled).read path h.below = (.ok data, below)) :
    h.ask inner canceled path =
      (.ok data,
        ⟨h.cache.add path data, below, path :: h.served, (path, .ok data) :: h.calls⟩) := by
  simp only [History.ask, before, hget, Files.watched, hread]

theorem ask_of_failed {canceled : Bool} {e : ε} {below : σ} (hget : h.cache.get? path = none)
    (hread : (inner canceled).read path h.below = (.error e, below)) :
    h.ask inner canceled path =
      (.error e, ⟨h.cache, below, h.served, (path, .error e) :: h.calls⟩) := by
  simp only [History.ask, before, hget, Files.watched, hread]

theorem ask_cases (inner : Bool → Files σ ε) (canceled : Bool) (path : Bytes) (h : History σ ε) :
    (∃ bytes c, h.cache.get? path = some (bytes, c)) ∨
      h.cache.get? path = none ∧
        ((∃ data below, (inner canceled).read path h.below = (.ok data, below)) ∨
          ∃ e below, (inner canceled).read path h.below = (.error e, below)) := by
  cases hget : h.cache.get? path with
  | some hit => exact .inl ⟨hit.1, hit.2, rfl⟩
  | none =>
    refine .inr ⟨rfl, ?_⟩
    rcases (inner canceled).read path h.below with ⟨e | data, below⟩
    · exact .inr ⟨e, below, rfl⟩
    · exact .inl ⟨data, below, rfl⟩

/-- What every history keeps up: the files kept are those served last, each as the latest read below
gave it. -/
structure Upkeep (size : Nat) (h : History σ ε) : Prop where
  room : h.cache.size = size
  kept : h.kept = recent size h.served
  latest : ∀ f ∈ h.cache.files, h.calls.lookup f.1 = some (.ok f.2)

theorem upkeep_start (size : Nat) (below : σ) :
    Upkeep size (History.start size below : History σ ε) where
  room := rfl
  kept := by simp [History.kept, History.start, recent]
  latest := by simp [History.start]

theorem Upkeep.hit {size : Nat} (hu : Upkeep size h) {bytes : Bytes} {c : Cache}
    (hget : h.cache.get? path = some (bytes, c)) :
    Upkeep size { h with cache := c, served := path :: h.served } := by
  obtain ⟨hmem, rfl⟩ := get?_eq_some hget
  have hkept : path ∈ recent size h.served := by
    rw [← hu.kept]
    exact List.mem_map_of_mem hmem
  refine ⟨hu.room, ?_, List.forall_mem_cons.2 ⟨hu.latest _ hmem, fun f hf => ?_⟩⟩
  · rw [recent_cons_of_mem hkept, ← hu.kept]
    exact congrArg (path :: ·) (map_fst_filter _ _)
  · exact hu.latest f (List.mem_filter.1 hf).1

theorem Upkeep.fetched {size : Nat} (hsize : 0 < size) (hu : Upkeep size h) (data : Bytes)
    (below : σ) :
    Upkeep size
      ⟨h.cache.add path data, below, path :: h.served, (path, .ok data) :: h.calls⟩ := by
  refine ⟨hu.room, ?_, fun f hf => ?_⟩
  · rw [recent_cons hsize, ← hu.kept, History.kept, add, hu.room, List.map_take, List.map_cons,
      map_fst_filter]
    rfl
  · rcases List.mem_cons.1 (List.mem_of_mem_take hf) with rfl | hmem
    · exact List.lookup_cons_self
    · obtain ⟨hmem, hne⟩ := List.mem_filter.1 hmem
      have hne : (f.1 == path) = false := by simpa using hne
      rw [List.lookup_cons, hne]
      exact hu.latest f hmem

theorem Upkeep.failed {size : Nat} (hu : Upkeep size h) (hget : h.cache.get? path = none) (e : ε)
    (below : σ) : Upkeep size ⟨h.cache, below, h.served, (path, .error e) :: h.calls⟩ := by
  refine ⟨hu.room, hu.kept, fun f hf => ?_⟩
  have hne : f.1 ≠ path := by
    rintro rfl
    exact get?_eq_none_iff.1 hget (List.mem_map_of_mem hf)
  rw [List.lookup_cons, beq_false_of_ne hne]
  exact hu.latest f hf

theorem Upkeep.next {size : Nat} (hsize : 0 < size) (hu : Upkeep size h) (event : Event σ) :
    Upkeep size (h.next inner event) := by
  cases event with
  | register path => exact ⟨hu.room, hu.kept, hu.latest⟩
  | change f => exact ⟨hu.room, hu.kept, hu.latest⟩
  | read canceled path =>
    rw [History.next]
    rcases ask_cases inner canceled path h with
      ⟨bytes, c, hget⟩ | ⟨hget, ⟨data, below, hread⟩ | ⟨e, below, hread⟩⟩
    · rw [ask_of_hit canceled hget]
      exact hu.hit hget
    · rw [ask_of_fetched hget hread]
      exact hu.fetched hsize data below
    · rw [ask_of_failed hget hread]
      exact hu.failed hget e below

theorem upkeep_after {size : Nat} (hsize : 0 < size) (below : σ) (events : List (Event σ)) :
    Upkeep size (History.after inner size below events) := by
  rw [History.after]
  generalize hstart : (History.start size below : History σ ε) = h
  have hu : Upkeep size h := hstart ▸ upkeep_start size below
  clear hstart
  induction events generalizing h with
  | nil => exact hu
  | cons event events ih => exact ih (h.next inner event) (hu.next hsize event)

end

/-! ## Files that do not change -/

/-- Files below that do not change: reading and registering leaves them in a state with the same
content, and a read that is called off gives nothing else. -/
structure Still (inner : Bool → Files σ ε) (steady : σ → Prop) (content : Bytes → Except ε Bytes) :
    Prop where
  read : ∀ canceled path below, steady below → steady ((inner canceled).read path below).2
  register : ∀ path below, steady below → steady ((inner false).register path below)
  answer : ∀ path below, steady below → ((inner false).read path below).1 = content path
  canceled : ∀ path below data, steady below →
    ((inner true).read path below).1 = .ok data → content path = .ok data

section

variable {inner : Bool → Files σ ε} {h : History σ ε} {steady : σ → Prop}
  {content : Bytes → Except ε Bytes}

/-- What is kept is the content of files that have not changed. -/
structure Steady (steady : σ → Prop) (content : Bytes → Except ε Bytes) (h : History σ ε) :
    Prop where
  below : steady h.below
  files : ∀ f ∈ h.cache.files, content f.1 = .ok f.2

theorem Still.ok (hs : Still inner steady content) {canceled : Bool} {path data : Bytes} {below : σ}
    (hbelow : steady below) (h : ((inner canceled).read path below).1 = .ok data) :
    content path = .ok data := by
  cases canceled with
  | true => exact hs.canceled path below data hbelow h
  | false => rw [← hs.answer path below hbelow, h]

theorem Steady.next (hs : Still inner steady content) (hh : Steady steady content h)
    {event : Event σ} (hevent : ∀ f, event ≠ .change f) :
    Steady steady content (h.next inner event) := by
  cases event with
  | register path => exact ⟨hs.register path h.below hh.below, hh.files⟩
  | change f => exact absurd rfl (hevent f)
  | read canceled path =>
    rw [History.next]
    have hread := hs.read canceled path h.below hh.below
    rcases ask_cases inner canceled path h with
      ⟨bytes, c, hget⟩ | ⟨hget, ⟨data, below, hfetched⟩ | ⟨e, below, hfailed⟩⟩
    · rw [ask_of_hit canceled hget]
      obtain ⟨hmem, rfl⟩ := get?_eq_some hget
      exact ⟨hh.below, List.forall_mem_cons.2
        ⟨hh.files _ hmem, fun f hf => hh.files f (List.mem_filter.1 hf).1⟩⟩
    · rw [ask_of_fetched hget hfetched]
      have hdata := hs.ok hh.below (congrArg Prod.fst hfetched)
      rw [hfetched] at hread
      refine ⟨hread, fun f hf => ?_⟩
      rcases List.mem_cons.1 (List.mem_of_mem_take hf) with rfl | hmem
      · exact hdata
      · exact hh.files f (List.mem_filter.1 hmem).1
    · rw [ask_of_failed hget hfailed]
      rw [hfailed] at hread
      exact ⟨hread, hh.files⟩

theorem steady_after (hs : Still inner steady content) (size : Nat) {below : σ}
    (hbelow : steady below) {events : List (Event σ)}
    (hevents : ∀ event ∈ events, ∀ f, event ≠ .change f) :
    Steady steady content (History.after inner size below events) := by
  rw [History.after]
  generalize hstart : (History.start size below : History σ ε) = h
  have hh : Steady steady content h := by
    subst hstart
    exact ⟨hbelow, by simp [History.start]⟩
  clear hstart
  induction events generalizing h with
  | nil => exact hh
  | cons event events ih =>
    rw [List.forall_mem_cons] at hevents
    exact ih hevents.2 (h.next inner event) (hh.next hs hevents.1)

end

/-! ## The contract -/

/-- After any history of reads, registrations and changes of the files below, the files kept are the
`size` distinct paths served last. A read of one of them, called off or not, reaches no file below
and gives what the latest read below gave; any other read is one read below and gives what that
gives; one that fails leaves the cache as it is. Over files that do not change, a read gives what the
files below would give. -/
theorem cache_contract {size : Nat} (hsize : 0 < size) (inner : Bool → Files σ ε) (below : σ)
    (events : List (Event σ)) :
    let h := History.after inner size below events
    (h.kept = recent size h.served ∧ h.cache.files.length = min size h.served.eraseDups.length) ∧
    (∀ canceled path, let (data, next) := h.ask inner canceled path
      (before (inner canceled)).read path (h.cache, h.below) = (data, next.cache, next.below) ∧
      (path ∈ h.kept → (∃ bytes, data = .ok bytes ∧ h.calls.lookup path = some (.ok bytes)) ∧
        next.calls = h.calls ∧ next.below = h.below) ∧
      (path ∉ h.kept → (data, next.below) = (inner canceled).read path h.below ∧
        next.calls = (path, data) :: h.calls) ∧
      ((∃ e, data = .error e) → next.cache = h.cache)) ∧
    ∀ steady content, Still inner steady content → steady below →
      (∀ event ∈ events, ∀ f, event ≠ .change f) →
      ∀ path, (h.ask inner false path).1 = ((inner false).read path h.below).1 := by
  intro h
  have hu : Upkeep size h := upkeep_after hsize below events
  refine ⟨⟨hu.kept, ?_⟩, fun canceled path => ?_, fun steady content hs hbelow hevents path => ?_⟩
  · rw [← length_recent, ← hu.kept, History.kept, List.length_map]
  · rcases ask_cases inner canceled path h with
      ⟨bytes, c, hget⟩ | ⟨hget, ⟨data, below, hread⟩ | ⟨e, below, hread⟩⟩
    · have hmem := (get?_eq_some hget).1
      rw [ask_of_hit canceled hget]
      refine ⟨by simp only [before, hget], fun _ => ⟨⟨bytes, rfl, hu.latest _ hmem⟩, rfl, rfl⟩,
        fun hnot => absurd (List.mem_map_of_mem hmem) hnot, ?_⟩
      rintro ⟨e, he⟩
      cases he
    · rw [ask_of_fetched hget hread]
      refine ⟨by simp only [before, hget, hread],
        fun hmem => absurd hmem (get?_eq_none_iff.1 hget), fun _ => ⟨hread.symm, rfl⟩, ?_⟩
      rintro ⟨e, he⟩
      cases he
    · rw [ask_of_failed hget hread]
      exact ⟨by simp only [before, hget, hread], fun hmem => absurd hmem (get?_eq_none_iff.1 hget),
        fun _ => ⟨hread.symm, rfl⟩, fun _ => rfl⟩
  · have hh : Steady steady content h := steady_after hs size hbelow hevents
    rw [hs.answer path h.below hh.below]
    rcases ask_cases inner false path h with
      ⟨bytes, c, hget⟩ | ⟨hget, ⟨data, below, hread⟩ | ⟨e, below, hread⟩⟩
    · rw [ask_of_hit false hget, hh.files _ (get?_eq_some hget).1]
    · rw [ask_of_fetched hget hread, ← hs.answer path h.below hh.below, hread]
    · rw [ask_of_failed hget hread, ← hs.answer path h.below hh.below, hread]

/-- Files in memory by path. -/
def shelf (canceled : Bool) : Files (List (Bytes × Bytes)) Bytes where
  read path files :=
    (if canceled then .error "called off"
      else match files.lookup path with
        | some data => .ok data
        | none => .error "not there", files)

theorem still_shelf (files : List (Bytes × Bytes)) :
    Still shelf (· = files) fun path => ((shelf false).read path files).1 where
  read := fun _ _ _ h => h
  register := fun _ _ h => h
  answer := by
    rintro path below rfl
    rfl
  canceled := fun _ _ _ _ h => nomatch h

def shelved : List (Bytes × Bytes) := [("a", "old"), ("b", "B"), ("c", "C")]

/-- Three files are read, `a` twice. -/
def readings : List (Event (List (Bytes × Bytes))) :=
  [.read false "a", .read false "b", .read false "a", .read true "c", .read false "c",
    .register "a"]

/-- The same, and then a change of `a`. -/
def changing : List (Event (List (Bytes × Bytes))) :=
  readings ++ [.change fun _ => [("a", "new")]]

theorem after_changing :
    let h : History (List (Bytes × Bytes)) Bytes := .after shelf 2 shelved changing
    recent 2 h.served = ["c", "a"] ∧ min 2 h.served.eraseDups.length = 2 ∧
      h.calls.lookup ("a" : Bytes) = some (.ok ("old" : Bytes)) ∧
      h.below = [(("a" : Bytes), ("new" : Bytes))] := by
  refine ⟨?_, ?_, rfl, rfl⟩ <;> decide +kernel

/-- Two files are kept. The change of `a` below does not reach the cache, and a read of it that is
called off succeeds. Without the change, reads give what stands below. -/
theorem cache_contract_two :
    let h := History.after shelf 2 shelved changing
    let quiet := History.after shelf 2 shelved readings
    (0 < 2 ∧ h.kept = ["c", "a"] ∧ h.cache.files.length = 2 ∧
      (h.ask shelf true "a").1 = .ok "old" ∧ (h.ask shelf false "b").1 = .error "not there") ∧
    ∀ path, (quiet.ask shelf false path).1 = ((shelf false).read path quiet.below).1 := by
  intro h quiet
  have hsize : 0 < 2 := by decide
  obtain ⟨⟨hkept, hlength⟩, hask, _⟩ := cache_contract hsize shelf shelved changing
  obtain ⟨_, _, hquiet⟩ := cache_contract hsize shelf shelved readings
  obtain ⟨hrecent, hcount, hold, hbelow⟩ := after_changing
  rw [hrecent] at hkept
  refine ⟨⟨hsize, hkept, hlength.trans hcount, ?_, ?_⟩, ?_⟩
  · have ha := hask true "a"
    rcases hasked : h.ask shelf true "a" with ⟨data, next⟩
    rw [hasked] at ha
    obtain ⟨_, hhit, _, _⟩ := ha
    obtain ⟨⟨bytes, rfl, hcall⟩, _⟩ := hhit (by rw [hkept]; decide)
    rw [hold] at hcall
    cases hcall
    rfl
  · have hb := hask false "b"
    rcases hasked : h.ask shelf false "b" with ⟨data, next⟩
    rw [hasked] at hb
    obtain ⟨_, _, hmiss, _⟩ := hb
    have hread := (hmiss (by rw [hkept]; decide)).1
    rw [hbelow] at hread
    exact congrArg Prod.fst hread
  · have hevents : ∀ event ∈ readings, ∀ f, event ≠ .change f := by simp [readings]
    exact hquiet (· = shelved) _ (still_shelf shelved) rfl hevents

end Graft.Cache
