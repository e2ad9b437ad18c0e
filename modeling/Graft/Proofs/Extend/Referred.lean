import Graft.Proofs.Extend.Trail
import Graft.Proofs.Path.Evaluated
import Graft.Proofs.Path.InPlace

/-!
# Graft.Proofs.Extend.Referred

The path a base is found at is a key for the place it stands for: references that lead to one place
share a key, however they are spelled, and a chain never comes back to a place.

* `Reference`: a base that a component names, with its key and its place.
* `Successive`: references followed one after the other.
* `Trail.references`: the references behind the ancestors asked for.
* `base_canonical`: keys and places, for single references and for a whole resolution.
-/

namespace Graft.Extend

open Graft.Path (Canonical IsName basePlace placeOf)

variable {σ ε : Type}

/-- A base as the component at a path names it. -/
structure Reference where
  origin : Bytes
  target : Bytes
deriving DecidableEq, Repr

namespace Reference

/-- The path that may not be met again. -/
def key (r : Reference) : Bytes := Path.base r.origin r.target

def place (r : Reference) : List Bytes := basePlace r.origin r.target

end Reference

/-- Each reference stands in the component that the one before it leads to. -/
def Successive : Bytes → List Reference → Prop
  | _, [] => True
  | path, r :: rest => r.origin = path ∧ Successive r.key rest

theorem Reference.key_eq_spell {r : Reference} (h : Path.isAbsolute r.origin = true) :
    r.key = Path.spell true r.place := Path.base_eq_spell h r.target

theorem Reference.isName_place (r : Reference) : ∀ n ∈ r.place, IsName n :=
  Path.basePlace_names r.origin r.target

theorem Reference.canonical_key {r : Reference} (h : Path.isAbsolute r.origin = true) :
    Canonical r.key := by
  rw [r.key_eq_spell h]
  exact Path.canonical_spell r.isName_place

theorem Reference.key_eq_iff {r r' : Reference} (h : Path.isAbsolute r.origin = true)
    (h' : Path.isAbsolute r'.origin = true) : r.key = r'.key ↔ r.place = r'.place := by
  rw [key_eq_spell h, key_eq_spell h', Path.spell_injective r.isName_place r'.isName_place]

theorem Successive.absolute {path : Bytes} {refs : List Reference} (h : Successive path refs)
    (habs : Path.isAbsolute path = true) : ∀ r ∈ refs, Path.isAbsolute r.origin = true := by
  induction refs generalizing path with
  | nil => simp
  | cons r refs ih =>
    obtain ⟨rfl, hrest⟩ := h
    exact List.forall_mem_cons.2 ⟨habs, ih hrest (r.canonical_key habs).absolute⟩

/-- The ancestors asked for are the keys of references, and the source where the trail stands is the one
that the last of them leads to. -/
theorem Trail.references {files : Files σ ε} {pad : Padding} {path source : Bytes} {state last : σ}
    {paths : List Bytes} {ending : Ending ε}
    (h : Trail files pad path source state paths last ending) :
    ∃ refs, Successive path refs ∧ refs.map Reference.key = paths ∧
      ∀ path' source', ending = .standing path' source' →
        ∀ target, Successive path (refs ++ [⟨path', target⟩]) := by
  induction h with
  | standing =>
    refine ⟨[], trivial, rfl, ?_⟩
    rintro path' source' heq target
    cases heq
    exact ⟨rfl, trivial⟩
  | @unreadable path source _ _ _ _ hb _ =>
    obtain ⟨_, target, _, _, rfl⟩ := hb
    exact ⟨[⟨path, target⟩], ⟨rfl, trivial⟩, rfl, by simp⟩
  | @follow path source _ _ _ _ _ _ _ hb _ _ ih =>
    obtain ⟨_, target, _, _, rfl⟩ := hb
    obtain ⟨refs, hrefs, hkeys, hlast⟩ := ih
    refine ⟨⟨path, target⟩ :: refs, ⟨rfl, hrefs⟩, by rw [List.map_cons, hkeys]; rfl, ?_⟩
    intro path' source' heq target'
    exact ⟨rfl, hlast path' source' heq target'⟩

theorem Successive.nodup_places {path : Bytes} {refs : List Reference} (h : Successive path refs)
    (habs : Path.isAbsolute path = true)
    (hkeys : (Path.clean path :: refs.map Reference.key).Nodup) :
    (placeOf path :: refs.map Reference.place).Nodup := by
  refine List.Nodup.of_map (Path.spell true) ?_
  have hspelled : (refs.map Reference.place).map (Path.spell true) = refs.map Reference.key := by
    rw [List.map_map]
    exact List.map_congr_left fun r hr => (Reference.key_eq_spell (h.absolute habs r hr)).symm
  rw [List.map_cons, hspelled, ← Path.clean_eq_spell habs]
  exact hkeys

theorem Successive.mem_places {path : Bytes} {refs : List Reference} (h : Successive path refs)
    (habs : Path.isAbsolute path = true) {r : Reference} (hr : Path.isAbsolute r.origin = true) :
    r.key ∈ Path.clean path :: refs.map Reference.key ↔
      r.place ∈ placeOf path :: refs.map Reference.place := by
  have hentry : r.key = Path.clean path ↔ r.place = placeOf path := by
    rw [r.key_eq_spell hr, Path.clean_eq_spell habs]
    exact Path.spell_injective r.isName_place (Path.placeOf_names path)
  have hmet : r.key ∈ refs.map Reference.key ↔ r.place ∈ refs.map Reference.place := by
    simp only [List.mem_map]
    refine exists_congr fun r' => and_congr_right fun hr' => ?_
    exact Reference.key_eq_iff (h.absolute habs r' hr') hr
  rw [List.mem_cons, List.mem_cons, hentry, hmet]

/-- The path of a base, for a component at an absolute path, is absolute, clean and spelled from the
place that the segments of the reference lead to; cleaning in one pass over the texts gives it, and
never looks or writes outside. Two references share it exactly if they lead to one place, and a
reference shares it with an entry exactly if it leads to the place of the entry. The references that a
resolution follows lead to different places, none of them that of the entry; one that is refused as
circular leads to the place of the entry or of a reference before it. -/
theorem base_canonical {origin : Bytes} (h : Path.isAbsolute origin = true) :
    (∀ target, Path.InPlace.base? origin target = some (Path.base origin target) ∧
      Canonical (Path.base origin target) ∧
      Path.base origin target =
        Byte.slash :: Bytes.joinWith [Byte.slash] (basePlace origin target) ∧
      (∀ origin' target', Path.isAbsolute origin' = true →
        (Path.base origin target = Path.base origin' target' ↔
          basePlace origin target = basePlace origin' target')) ∧
      ∀ entry, Path.isAbsolute entry = true →
        Path.InPlace.clean? entry = some (Path.clean entry) ∧
          (Path.base origin target = Path.clean entry ↔ basePlace origin target = placeOf entry)) ∧
    ∀ (files : Files σ ε) (opts : Options) (source : Bytes) (state : σ),
      let run := resolve files opts origin source state
      ∃ refs, Successive origin refs ∧ run.2.chain = refs.map Reference.key ∧
        (placeOf origin :: refs.map Reference.place).Nodup ∧
        ∀ path key, run.1 = .error (.circular path key) → ∃ target,
          Successive origin (refs ++ [⟨path, target⟩]) ∧ key = Path.base path target ∧
            basePlace path target ∈ placeOf origin :: refs.map Reference.place := by
  refine ⟨fun target => ⟨Path.InPlace.base?_eq origin target, ?_, ?_, ?_, ?_⟩,
    fun files opts source state => ?_⟩
  · exact Reference.canonical_key (r := ⟨origin, target⟩) h
  · exact Path.base_eq_spell h target
  · exact fun origin' target' h' => @Reference.key_eq_iff ⟨origin, target⟩ ⟨origin', target'⟩ h h'
  · intro entry hentry
    refine ⟨Path.InPlace.clean?_eq entry, ?_⟩
    rw [Path.base_eq_spell h, Path.clean_eq_spell hentry]
    exact Path.spell_injective (Path.basePlace_names origin target) (Path.placeOf_names entry)
  intro run
  obtain ⟨ending, hasked⟩ := asked_resolve files opts origin source state
  obtain ⟨refs, hrefs, hkeys, hlast⟩ := hasked.trail.references
  have hentry : entrySeen origin = [Path.clean origin] := by
    have hne : origin ≠ [] := by
      rintro rfl
      cases h
    rw [entrySeen, if_neg (by simpa using hne)]
  have hseen : run.2.seen = (refs.map Reference.key).reverse ++ [Path.clean origin] := by
    rw [hkeys, ← hentry]
    exact hasked.met.seen
  have hperm : run.2.seen.Perm (Path.clean origin :: refs.map Reference.key) := by
    rw [hseen]
    exact List.perm_append_comm.trans ((List.reverse_perm _).cons _)
  have hnodup : (Path.clean origin :: refs.map Reference.key).Nodup :=
    hperm.nodup_iff.1 (hasked.met.nodup (nodup_entrySeen origin))
  refine ⟨refs, hrefs, hkeys.symm, hrefs.nodup_places h hnodup, fun path key hrun => ?_⟩
  have hends := hasked.ends
  rw [show (resolve files opts origin source state).1 = .error (.circular path key) from hrun] at hends
  cases hends with
  | malformed hk => rcases hk with hk | hk <;> cases hk
  | circular hb hs =>
    obtain ⟨_, target, _, _, rfl⟩ := hb
    have hstep : Successive origin (refs ++ [⟨path, target⟩]) := hlast _ _ rfl target
    refine ⟨target, hstep, rfl, ?_⟩
    exact (hrefs.mem_places h (hstep.absolute h ⟨path, target⟩ (by simp))).1 (hperm.mem_iff.1 hs)

/-- A base that extends its own descendant, both named in a roundabout way. -/
def loopFiles : Files Unit Unit where
  read path state :=
    (if path = "/app/B.vue" then .ok "<template extends='//app/./A.vue/'/>" else .error (), state)

def loopSource : Bytes := "<template extends='x/..//B.vue'/>"

theorem base_canonical_loop :
    Path.isAbsolute "/app/A.vue" = true ∧ Canonical (Path.base "/app/A.vue" "../..") ∧
      Path.base "/app/A.vue" "x/..//B.vue" = Path.base "/C.vue" "/../app/./B.vue/" ∧
      (resolve loopFiles ⟨2, .none⟩ "/app/A.vue" loopSource ()).1 =
        .error (.circular "/app/B.vue" "/app/A.vue") ∧
      ∃ refs target, Successive "/app/A.vue" (refs ++ [⟨"/app/B.vue", target⟩]) ∧
        basePlace "/app/B.vue" target ∈ placeOf "/app/A.vue" :: refs.map Reference.place := by
  have habs : Path.isAbsolute "/app/A.vue" = true := by decide
  obtain ⟨hbase, hrun⟩ := base_canonical (σ := Unit) (ε := Unit) habs
  have hcircular : (resolve loopFiles ⟨2, .none⟩ "/app/A.vue" loopSource ()).1 =
      .error (.circular "/app/B.vue" "/app/A.vue") := by
    have hentry : Component.parse .none loopSource =
        .ok ⟨⟨"template", [⟨"extends", "x/..//B.vue"⟩], []⟩, ⟨none, [], []⟩⟩ := by
      decide +kernel
    have hbase : Component.parse .none "<template extends='//app/./A.vue/'/>" =
        .ok ⟨⟨"template", [⟨"extends", "//app/./A.vue/"⟩], []⟩, ⟨none, [], []⟩⟩ := by
      decide +kernel
    have hlevel : Follows loopFiles ⟨2, .none⟩ 2 true "/app/A.vue" loopSource
        (.start "/app/A.vue" ()) _ _ :=
      .followed hentry rfl (by decide) rfl (.circular hbase rfl (by decide))
    exact congrArg Prod.fst hlevel.eq
  obtain ⟨refs, _, _, _, hrefs⟩ := hrun loopFiles ⟨2, .none⟩ loopSource ()
  obtain ⟨target, hstep, _, hplace⟩ := hrefs _ _ hcircular
  exact ⟨habs, (hbase _).2.1, ((hbase _).2.2.2.1 _ _ (by decide)).2 (by decide), hcircular, refs,
    target, hstep, hplace⟩

end Graft.Extend
