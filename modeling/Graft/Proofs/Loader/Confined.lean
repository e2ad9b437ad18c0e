import Graft.Loader
import Graft.Proofs.Disk.Linked
import Graft.Proofs.Extend.Trail

/-!
# Graft.Proofs.Loader.Confined

Reads confined to a root. Whether a path may be read is told from its text, while reading it follows
links. So what is read lies below the root as long as no link there leads out of it and no step up is
taken behind a link.

* `allows_iff`: the paths that may be read.
* `Confined`: what was read stands at or below the root.
* `read_confined`: when it does.
* `read_escapes`: two reads for which it does not.
-/

namespace Graft

open Disk (locate_clean_found locate_spell_found_iff textFault?_of_sublist)
open Graft.Path (IsName Normal)

namespace Path

/-- A spelling does not begin with a step up exactly if its segments do not. -/
theorem not_startsUp_iff {X : List Bytes} (h : ∀ s ∈ X, Byte.slash ∉ s) :
    (spell false X != parent && !(parent ++ [Byte.slash]).isPrefixOf (spell false X)) = true ↔
      X.head? ≠ some parent := by
  cases X with
  | nil => decide
  | cons s X =>
    have hsplit : (spell false (s :: X)).split Byte.slash = s :: X := by
      rw [spell_false (List.cons_ne_nil s X), Bytes.split_joinWith (List.cons_ne_nil s X) h]
    rw [List.head?_cons, Ne, Option.some.injEq]
    constructor
    · rintro hup rfl
      cases X with
      | nil => exact absurd hup (by decide)
      | cons t X =>
        rw [spell_false (List.cons_ne_nil parent (t :: X)), Bytes.joinWith_cons_cons,
          ← List.append_assoc] at hup
        have hbegins : (parent ++ [Byte.slash]).isPrefixOf
            (parent ++ [Byte.slash] ++ Bytes.joinWith [Byte.slash] (t :: X)) = true :=
          List.isPrefixOf_iff_prefix.2 (List.prefix_append ..)
        rw [hbegins, Bool.not_true, Bool.and_false] at hup
        cases hup
    · intro hne
      rw [Bool.and_eq_true, bne_iff_ne, Bool.not_eq_true', ← Bool.not_eq_true,
        List.isPrefixOf_iff_prefix]
      constructor
      · intro heq
        rw [heq] at hsplit
        exact hne (List.cons.inj hsplit).1.symm
      · rintro ⟨t, ht⟩
        rw [← ht, List.append_assoc, List.singleton_append, Bytes.split_append_sep] at hsplit
        exact hne (List.cons.inj hsplit).1.symm

theorem head?_ne_parent {X : List Bytes} (h : ∀ n ∈ X, IsName n) : X.head? ≠ some parent :=
  fun hhead => (h parent (List.mem_of_mem_head? hhead)).ne_parent rfl

section

variable {A B : List Bytes}

theorem dropCommon_names (hA : ∀ n ∈ A, IsName n) (hB : ∀ n ∈ B, IsName n) :
    (∀ n ∈ (dropCommon A B).1, IsName n) ∧ ∀ n ∈ (dropCommon A B).2, IsName n := by
  obtain ⟨common, hup, hdown⟩ := exists_dropCommon A B
  constructor
  · intro n hn
    exact hA n (hup ▸ List.mem_append_right _ hn)
  · intro n hn
    exact hB n (hdown ▸ List.mem_append_right _ hn)

theorem no_slash_steps (A : List Bytes) (hB : ∀ n ∈ B, IsName n) :
    ∀ s ∈ A.map (fun _ => parent) ++ B, Byte.slash ∉ s := by
  intro s hs
  rcases List.mem_append.1 hs with hs | hs
  · obtain ⟨_, _, rfl⟩ := List.mem_map.1 hs
    exact not_mem_parent
  · exact (hB s hs).no_slash

/-- The way from one list of names to another begins with a step up unless the other goes on from it. -/
theorem continues_iff (hB : ∀ n ∈ (dropCommon A B).2, IsName n) :
    ((dropCommon A B).1.map (fun _ => parent) ++ (dropCommon A B).2).head? ≠ some parent ↔ A <+: B := by
  obtain ⟨common, hup, hdown⟩ := exists_dropCommon A B
  cases hfirst : (dropCommon A B).1 with
  | nil =>
    have hbegins : A <+: B := by
      rw [hfirst, List.append_nil] at hup
      rw [hup, hdown]
      exact List.prefix_append ..
    simp only [List.map_nil, List.nil_append, ne_eq, head?_ne_parent hB, not_false_eq_true, hbegins]
  | cons first up =>
    have hbegins : ¬ A <+: B := by
      rintro ⟨more, rfl⟩
      rw [dropCommon_append] at hfirst
      cases hfirst
    simp only [List.map_cons, List.cons_append, List.head?_cons, ne_eq, not_true, hbegins]

end

end Path

namespace Loader

section

variable {l : Loader} {d : Disk} {R : List Bytes} {path data : Bytes}

theorem allows_iff (hroot : l.root = Path.spell true R) (hR : ∀ n ∈ R, IsName n) :
    l.allows path = true ↔ Path.isAbsolute path = true ∧ R <+: Path.segments path := by
  have hnormal := Normal.of_names hR true
  have hunconfined : ¬ (l.root.isEmpty = true ∨ l.root = Path.current) := by
    rintro (h | h)
    · rw [hroot, List.isEmpty_iff] at h
      exact Path.spell_ne_nil hnormal h
    · have habs := Path.isAbsolute_spell hnormal
      rw [← hroot, h] at habs
      cases habs
  rw [allows, if_neg hunconfined, Path.relative?, hroot, Path.isAbsolute_spell hnormal,
    Path.isAbsolute_clean, Path.segments_spell hnormal, Path.segments_clean]
  cases habs : Path.isAbsolute path with
  | false => simp
  | true =>
    obtain ⟨hup, hdown⟩ := Path.dropCommon_names hR (Path.clean_absolute habs).1
    have hslash := Path.no_slash_steps (Path.dropCommon R (Path.segments path)).1 hdown
    simp only [ne_eq, not_true, if_false, if_neg (Path.head?_ne_parent hup),
      Path.not_startsUp_iff hslash, true_and]
    exact Path.continues_iff hdown

theorem exists_of_read (h : l.read d path = .ok data) :
    l.allows path = true ∧ ∃ spot content,
      d.locate true path = .ok (.found spot (.file content)) ∧
        data = l.detector.decode content := by
  unfold read at h
  split at h
  · cases h
  rename_i hallows
  refine ⟨by simpa using hallows, ?_⟩
  split at h
  · cases h
  rename_i content hcontent
  split at h
  · cases h
    unfold Disk.contents at hcontent
    split at hcontent
    · cases hcontent
    · cases hcontent
    · rename_i spot _ hfound
      cases hcontent
      exact ⟨spot, _, hfound, rfl⟩
    · cases hcontent
  · cases h

theorem exists_root (d : Disk) {root : Bytes} (h : root ≠ []) :
    ∃ R, (∀ n ∈ R, IsName n) ∧ (ofRoot d root).root = Path.spell true R := by
  have habsolute : ∃ p, Path.isAbsolute p = true ∧ (ofRoot d root).root = Path.clean p := by
    rw [ofRoot, if_neg (by simpa using h), Disk.absolute]
    split
    · rename_i hroot
      exact ⟨root, hroot, rfl⟩
    · have hne : d.workingPath ≠ [] := List.cons_ne_nil _ _
      exact ⟨d.workingPath ++ Byte.slash :: root, rfl, Path.join_eq hne root⟩
  obtain ⟨p, hp, hroot⟩ := habsolute
  obtain ⟨hnames, hclean⟩ := Path.clean_absolute hp
  exact ⟨Path.segments p, hnames, hroot.trans hclean⟩

end

/-- What was read is the text of a file that stands at or below the place the root leads to. -/
def Confined (l : Loader) (d : Disk) (path data : Bytes) : Prop :=
  ∃ R e spot content, d.locate true l.root = .ok (.found R e) ∧
    d.locate true path = .ok (.found spot (.file content)) ∧ data = l.detector.decode content ∧
      R <+: spot

section

variable {l : Loader} {d : Disk} {R : List Bytes} {path data : Bytes}

theorem confined_of_clean (hroot : l.root = Path.spell true R) (hR : ∀ n ∈ R, IsName n)
    (hsealed : ∀ S e, d.locate true l.root = .ok (.found S e) → d.Sealed S)
    (h : l.read d path = .ok data)
    (hclean : ∀ spot e, d.locate true path = .ok (.found spot e) →
      d.locate true (Path.clean path) = .ok (.found spot e)) : l.Confined d path data := by
  obtain ⟨hallows, spot, content, hfound, rfl⟩ := exists_of_read h
  obtain ⟨habs, more, hsegments⟩ := (allows_iff hroot hR).1 hallows
  obtain ⟨hnames, hspell⟩ := Path.clean_absolute habs
  obtain ⟨hfault, hleads⟩ := (locate_spell_found_iff hnames).1 (hspell ▸ hclean spot _ hfound)
  have hbegins : R.Sublist (Path.segments path) := hsegments ▸ List.sublist_append_left ..
  have hrootfault := textFault?_of_sublist (Path.spell_sublist hbegins) hfault
  rw [← hsegments] at hleads hnames
  by_cases hmore : more = []
  · rw [hmore, List.append_nil] at hleads
    have hhere := (locate_spell_found_iff hR).2 ⟨hrootfault, hleads⟩
    exact ⟨spot, _, spot, content, hroot ▸ hhere, hfound, rfl, List.prefix_refl spot⟩
  · obtain ⟨through, left, hle, hfront, hbehind⟩ := hleads.append hmore
    have hhere := (locate_spell_found_iff hR).2 ⟨hrootfault, hfront⟩
    rw [← hroot] at hhere
    have hup : Path.parent ∉ more := fun hmem =>
      (hnames _ (List.mem_append_right _ hmem)).ne_parent rfl
    exact ⟨through, _, spot, content, hhere, hfound, rfl,
      hbehind.sealed (hsealed _ _ hhere) hle (List.prefix_refl through) hup⟩

end

end Loader

namespace Extend

theorem Trail.clean {σ ε : Type} {files : Files σ ε} {pad : Padding} {path source : Bytes}
    {state last : σ} {paths : List Bytes} {ending : Ending ε}
    (h : Trail files pad path source state paths last ending) :
    ∀ base ∈ paths, Path.clean base = base := by
  have hbase {path source base : Bytes} (hb : Names pad path source base) : Path.clean base = base := by
    obtain ⟨_, target, _, _, rfl⟩ := hb
    exact Path.clean_base path target
  induction h with
  | standing => simp
  | unreadable hb _ => simpa using hbase hb
  | follow hb _ _ ih => exact List.forall_mem_cons.2 ⟨hbase hb, ih⟩

end Extend

namespace Loader

/-- With a root, what was read stands at or below the place the root leads to: on a disk without links
always, and if there are links, but none at or below the root leads out of it, for every path without
steps up or that leads where its clean spelling leads, and so for every ancestor that resolving any
source asks for. -/
theorem read_confined (d₀ d : Disk) {root : Bytes} (hroot : root ≠ []) :
    (d.Linkless → ∀ path data, (ofRoot d₀ root).read d path = .ok data →
      (ofRoot d₀ root).Confined d path data) ∧
    ((∀ R e, d.locate true (ofRoot d₀ root).root = .ok (.found R e) → d.Sealed R) →
      (∀ path data, (ofRoot d₀ root).read d path = .ok data →
        Path.parent ∉ path.split Byte.slash ∨ d.locate true path = d.locate true (Path.clean path) →
          (ofRoot d₀ root).Confined d path data) ∧
      ∀ canceled opts path source,
        ∀ base ∈ (Extend.transform ((ofRoot d₀ root).files canceled) opts path source d).chain,
          ∀ data, (ofRoot d₀ root).read d base = .ok data → (ofRoot d₀ root).Confined d base data) := by
  obtain ⟨R, hR, hspell⟩ := exists_root d₀ hroot
  have habsolute {path data : Bytes} (h : (ofRoot d₀ root).read d path = .ok data) :
      Path.isAbsolute path = true :=
    ((allows_iff hspell hR).1 (exists_of_read h).1).1
  refine ⟨fun hd path data h => ?_, fun hsealed => ⟨fun path data h hup => ?_, ?_⟩⟩
  · exact confined_of_clean hspell hR (fun S _ _ => hd.sealed S) h fun spot e hf =>
      locate_clean_found (habsolute h) hf (.inr hd)
  · refine confined_of_clean hspell hR hsealed h fun spot e hf => ?_
    rcases hup with hup | hsame
    · exact locate_clean_found (habsolute h) hf (.inl hup)
    · rw [← hsame, hf]
  · intro canceled opts path source base hbase data h
    obtain ⟨ending, hasked⟩ :=
      Extend.asked_resolve ((ofRoot d₀ root).files canceled) opts path source d
    rw [Extend.transform_chain] at hbase
    have hclean := hasked.trail.clean base hbase
    exact confined_of_clean hspell hR hsealed h fun spot e hf => by rwa [hclean]

/-- A root with a link that leads to a file below it. -/
def withLink : Disk where
  entries := [(["app"], .directory), (["app", "lib"], .directory), (["app", "lib", "b"], .file "b"),
    (["app", "l"], .link "lib/b")]
  workingDir := []

def withLinkOut : Disk where
  entries := [(["app"], .directory), (["app", "l.vue"], .link "../secret.vue"),
    (["secret.vue"], .file "s")]
  workingDir := []

/-- A root with a link to itself, and a file beside it. -/
def withLinkBack : Disk where
  entries := [(["app"], .directory), (["app", "a"], .link "."), (["x.vue"], .file "s")]
  workingDir := []

/-- An ancestor that a link below the root leads to. -/
theorem read_confined_link :
    (ofRoot withLink "/app").read withLink "/app/l" = .ok "b" ∧
      ("/app/l" : Bytes) ∈ (Extend.transform ((ofRoot withLink "/app").files false) ⟨1, .none⟩ "/app/x"
        "<template extends=\"l\"/>" withLink).chain ∧
      (ofRoot withLink "/app").Confined withLink "/app/l" "b" := by
  have hread : (ofRoot withLink "/app").read withLink "/app/l" = .ok "b" := by decide +kernel
  have hchain : ("/app/l" : Bytes) ∈ (Extend.transform ((ofRoot withLink "/app").files false) ⟨1, .none⟩
      "/app/x" "<template extends=\"l\"/>" withLink).chain := by decide +kernel
  have hroot : withLink.locate true (ofRoot withLink "/app").root = .ok (.found ["app"] .directory) :=
    rfl
  have hsealed : ∀ R e, withLink.locate true (ofRoot withLink "/app").root = .ok (.found R e) →
      withLink.Sealed R := by
    intro R e h
    rw [hroot] at h
    cases h
    exact Disk.sealed_of_staysWithin (by decide +kernel)
  exact ⟨hread, hchain, ((read_confined withLink withLink (by decide)).2 hsealed).2 _ _ _ _ _ hchain _
    hread⟩

/-- What a path leads to outside the place the root leads to is not confined. -/
theorem not_confined {l : Loader} {d : Disk} {R spot : List Bytes} {e : Disk.Entry}
    {path content data : Bytes} (hroot : d.locate true l.root = .ok (.found R e))
    (hpath : d.locate true path = .ok (.found spot (.file content))) (hout : ¬ R <+: spot) :
    ¬ l.Confined d path data := by
  rintro ⟨_, _, _, _, hroot', hpath', _, hbelow⟩
  rw [hroot] at hroot'
  rw [hpath] at hpath'
  cases hroot'
  cases hpath'
  exact hout hbelow

/-- Two reads that leave the root: through a link that leads out of it, also as an ancestor, and by a
step up behind a link that does not. -/
theorem read_escapes :
    ((ofRoot withLinkOut "/app").read withLinkOut "/app/l.vue" = .ok "s" ∧
      ("/app/l.vue" : Bytes) ∈ (Extend.transform ((ofRoot withLinkOut "/app").files false) ⟨1, .none⟩
        "/app/x" "<template extends=\"l.vue\"/>" withLinkOut).chain ∧
      ¬ (ofRoot withLinkOut "/app").Confined withLinkOut "/app/l.vue" "s") ∧
    (withLinkBack.Sealed ["app"] ∧
      (ofRoot withLinkBack "/app").read withLinkBack "/app/a/../x.vue" = .ok "s" ∧
      ¬ (ofRoot withLinkBack "/app").Confined withLinkBack "/app/a/../x.vue" "s") := by
  constructor
  · have hroot : withLinkOut.locate true (ofRoot withLinkOut "/app").root =
        .ok (.found ["app"] .directory) := rfl
    have hpath : withLinkOut.locate true "/app/l.vue" = .ok (.found ["secret.vue"] (.file "s")) := rfl
    exact ⟨by decide +kernel, by decide +kernel, not_confined hroot hpath (by decide)⟩
  · have hroot : withLinkBack.locate true (ofRoot withLinkBack "/app").root =
        .ok (.found ["app"] .directory) := rfl
    have hpath : withLinkBack.locate true "/app/a/../x.vue" = .ok (.found ["x.vue"] (.file "s")) := rfl
    exact ⟨Disk.sealed_of_staysWithin (by decide +kernel), by decide +kernel,
      not_confined hroot hpath (by decide)⟩

end Loader

end Graft
