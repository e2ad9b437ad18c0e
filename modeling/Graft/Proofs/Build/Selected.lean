import Graft.Proofs.Build.Schedule
import Graft.Proofs.Discovery.Found

/-!
# Graft.Proofs.Build.Selected

The files of a target as a search finds them. They lie below the root, none above another, so their
outputs do not meet; what they read has clean paths.

* `Disk.Apart`: paths of which none lies above the other.
* `Extend.transform_spelled`: the ancestors of a component have absolute and clean paths.
* `Build.finds_discovered`: what a target selects.
* `Finds.below`, `Finds.outputs`: its files and their outputs.
* `Finds.separate`: files that do not read what others write.
-/

namespace Graft

open Graft.Path (IsName spell)

/-! ## Paths asked for -/

namespace Extend

variable {σ ε : Type} {files : Files σ ε}

theorem Trail.spelled {pad : Padding} {path source : Bytes} {state last : σ} {paths : List Bytes}
    {ending : Ending ε} (h : Trail files pad path source state paths last ending)
    (habs : Path.isAbsolute path = true) :
    ∀ p ∈ paths, ∃ X, (∀ n ∈ X, IsName n) ∧ p = spell true X := by
  induction h with
  | standing => simp
  | unreadable hb =>
    obtain ⟨_, target, _, _, rfl⟩ := hb
    intro p hp
    rw [List.mem_singleton.1 hp]
    exact Path.base_spell habs target
  | @follow path source base _ _ _ _ _ _ hb _ _ ih =>
    obtain ⟨_, target, _, _, rfl⟩ := hb
    obtain ⟨X, hX, hbase⟩ := Path.base_spell habs target
    have habs' : Path.isAbsolute (Path.base path target) = true := by
      rw [hbase, Path.isAbsolute_spell (.of_names hX true)]
    intro p hp
    rcases List.mem_cons.1 hp with rfl | hp
    · exact ⟨X, hX, hbase⟩
    · exact ih habs' p hp

theorem transform_spelled (opts : Options) {path : Bytes} (habs : Path.isAbsolute path = true)
    (source : Bytes) (state : σ) : ∀ p ∈ (transform files opts path source state).chain,
      ∃ X, (∀ n ∈ X, IsName n) ∧ p = spell true X := by
  obtain ⟨ending, hasked⟩ := asked_resolve files opts path source state
  rw [transform_chain]
  exact hasked.trail.spelled habs

end Extend

/-! ## Paths on branches of their own -/

/-- Neither of two paths lies at or above the other, and the first one is looked up in the same
directories whether or not those above the second one are made: they are there already, or all names
are short enough to be looked up anywhere. -/
def Disk.Apart (d : Disk) (X Y : List Bytes) : Prop :=
  ¬ X <+: Y ∧ ¬ Y <+: X ∧
    ((∀ n ∈ X, n.length ≤ Disk.maxName) ∨ ∀ P, P <+: X → P <+: Y → d.item? P ≠ none)

theorem Disk.Apart.spared {d : Disk} {X Y : List Bytes} (h : d.Apart X Y) : d.Spared X Y :=
  ⟨h.2.1, h.2.2.symm.imp id fun hshort => ⟨hshort, h.1⟩⟩

open Build

/-! ## What a target selects -/

section

variable {config : Config} {canceled : Bool} {target : Target} {d : Disk} {files : List Bytes}

theorem Build.finds_discovered (hd : d.Plain) (h : discovered canceled target d = .ok files) :
    Finds d (patternOf target) (exclusions target d) (d.spot target.root) files ∧
      d.item? (d.spot target.root) = some .directory := by
  have hR : ∀ n ∈ d.spot target.root, IsName n := Disk.spot_isName
  rw [discovered, Disk.absolute_eq] at h
  obtain ⟨⟨_, _, _, _, hdir⟩, rfl⟩ := (discover_eq_ok_iff hd hR).1 h
  exact ⟨.of_visit hd hR, hdir⟩

theorem Build.discovered_eq_ok
    (h : d.Plain ∧ Glob.isValid (patternOf target) = true ∧
      ((exclusions target d).find? fun p => !Glob.isValid p) = none ∧
      Disk.textFault? (spell true (d.spot target.root)) = none ∧
      d.item? (d.spot target.root) = some .directory ∧
      (Discovery.visit d (patternOf target) (exclusions target d) (Discovery.levels d)
        (d.spot target.root) []).map (Path.join (spell true (d.spot target.root))) = files ∧
      files.Pairwise fun f g => Bytes.le f g = true) :
    discovered false target d = .ok files := by
  obtain ⟨hd, hpattern, hexclude, htext, hdir, hvisit, hsorted⟩ := h
  rw [discovered, Disk.absolute_eq, discover_eq_ok_iff hd Disk.spot_isName]
  refine ⟨⟨hpattern, hexclude, rfl, htext, hdir⟩, ?_⟩
  rw [show (fun path => Path.join (spell true (d.spot target.root)) path) =
    Path.join (spell true (d.spot target.root)) from rfl, hvisit, Bytes.sort]
  exact (List.mergeSort_of_pairwise hsorted).symm

variable {pattern : Bytes} {exclude R : List Bytes} {root out : Bytes}

theorem Discovery.Found.below {N : List Bytes} (hd : d.Plain) (hR : ∀ n ∈ R, IsName n)
    (h : Discovery.Found d pattern exclude R [] N) :
    Below (spell true R) (spell true (R ++ N)) N :=
  ⟨R, hR, h.isName hd, h.ne_nil, rfl, rfl⟩

theorem Finds.below (hd : d.Plain) (hR : ∀ n ∈ R, IsName n) (h : Finds d pattern exclude R files)
    {f : Bytes} (hf : f ∈ files) : ∃ N, Below (spell true R) f N := by
  obtain ⟨N, hfound, rfl⟩ := (h.mem f).1 hf
  exact ⟨N, hfound.below hd hR⟩

theorem Finds.outputs (hd : d.Plain) (hR : ∀ n ∈ R, IsName n) (h : Finds d pattern exclude R files)
    (hout : out ≠ []) {f g : Bytes} (hf : f ∈ files) (hg : g ∈ files)
    (hpre : d.spot (outputPath (spell true R) out f) <+: d.spot (outputPath (spell true R) out g)) :
    f = g := by
  obtain ⟨N, hfound, rfl⟩ := (h.mem f).1 hf
  obtain ⟨M, hfound', rfl⟩ := (h.mem g).1 hg
  rw [spot_outputPath hd hout (hfound.below hd hR), spot_outputPath hd hout (hfound'.below hd hR),
    List.prefix_append_right_inj] at hpre
  obtain ⟨rest, rfl⟩ := hpre
  obtain ⟨content, hfile⟩ := hfound.file
  obtain ⟨content', hfile'⟩ := hfound'.file
  have hrest : rest = [] := by
    by_contra hne
    rw [List.nil_append, ← List.append_assoc] at hfile'
    have hdir := hd.above_prefix hfile' hne
    rw [List.nil_append, hdir] at hfile
    cases hfile
  rw [hrest, List.append_nil]

theorem Finds.clean (hd : d.Plain) (hR : ∀ n ∈ R, IsName n) (h : Finds d pattern exclude R files)
    {f p : Bytes} (hf : f ∈ files) (hp : p ∈ reads config d f) : Path.clean p = p := by
  obtain ⟨N, hbelow⟩ := h.below hd hR hf
  rcases List.mem_cons.1 hp with rfl | hp
  · exact hbelow.clean
  · cases hsource : config.loader.read d f with
    | error e =>
      rw [hsource] at hp
      cases hp
    | ok source =>
      rw [hsource] at hp
      obtain ⟨X, hX, rfl⟩ :=
        Extend.transform_spelled config.options hbelow.isAbsolute source () p hp
      exact Path.clean_spell (.of_names hX true)

/-- Files of a search do not read what others write, if all that they read is spared by the
outputs. -/
theorem Finds.separate (hd : d.Plain) (hR : ∀ n ∈ R, IsName n) (h : Finds d pattern exclude R files)
    (hsettled : ∀ p, ReadBySome config d files p → d.Settled p)
    (hspared : out ≠ [] → ∀ p, ReadBySome config d files p → ∀ g ∈ files,
      d.Spared (d.spot p) (d.spot (outputPath (spell true R) out g))) :
    Separate config (spell true R) out d files where
  plain := hd
  below _ hf := h.below hd hR hf
  distinct := h.nodup
  outputs hout _ hf _ hg := h.outputs hd hR hout hf hg
  clean _ hf _ hp := h.clean hd hR hf hp
  settled f hf p hp := hsettled p ⟨f, hf, hp⟩
  spared hout f hf p hp g hg := hspared hout p ⟨f, hf, hp⟩ g hg

end

end Graft
