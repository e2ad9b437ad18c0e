import Graft.Proofs.Disk.Plain
import Graft.Proofs.Discovery.Visited

/-!
# Graft.Proofs.Discovery.Found

What a search of a disk without links finds: the files below the root whose relative path matches,
each once, unless a pattern excludes the file or a directory above it.

* `Discovery.Found`, `Discovery.found_iff_selected`: a file that a search finds, by its names from
  the root on.
* `discover_eq_ok_iff`: when a search is not refused, and what it gives then.
* `Finds`, `Finds.of_visit`: the files found, in their order.
* `discover_congr`: disks on which the same is found.
-/

namespace Graft

open Graft.Path (IsName spell)

namespace Discovery

/-- A file that a search of a directory finds, by its names from there: its path matches the pattern,
and nothing on the way to it is excluded. The names `M` lead from the root to the directory. -/
structure Found (d : Disk) (pattern : Bytes) (exclude : List Bytes) (R M N : List Bytes) :
    Prop where
  ne_nil : N ≠ []
  file : ∃ content, d.item? (R ++ (M ++ N)) = some (.file content)
  accepted : Glob.accepts pattern (textOf (M ++ N)) = true
  entered : ∀ P, P <+: N → P ≠ [] → isExcluded exclude (textOf (M ++ P)) = false

section

variable {d : Disk} {pattern : Bytes} {exclude : List Bytes} {R M N : List Bytes}

theorem found_iff_selected (hd : d.Plain) :
    Found d pattern exclude R M N ↔ Selected d pattern exclude R M N := by
  constructor
  · rintro ⟨hne, ⟨content, hfile⟩, haccepted, hentered⟩
    exact ⟨hne, ⟨_, hfile, by simp⟩, haccepted, hentered⟩
  · rintro ⟨hne, ⟨e, hentry, he⟩, haccepted, hentered⟩
    refine ⟨hne, ?_, haccepted, hentered⟩
    cases e with
    | file content => exact ⟨content, hentry⟩
    | directory => exact absurd rfl he
    | link target => exact absurd hentry hd.not_link

theorem Found.isName (hd : d.Plain) (h : Found d pattern exclude R M N) :
    ∀ n ∈ M ++ N, IsName n := ((found_iff_selected hd).1 h).isName hd.tree

end

end Discovery

/-! ## The files found -/

section

variable {d : Disk} {canceled : Bool} {root pattern : Bytes} {exclude files : List Bytes}

theorem discover_eq_ok_iff (hd : d.Plain) {R : List Bytes} (hR : ∀ n ∈ R, IsName n) :
    discover d canceled (spell true R) pattern exclude = .ok files ↔
      (Glob.isValid pattern = true ∧ (exclude.find? fun p => !Glob.isValid p) = none ∧
        canceled = false ∧ Disk.textFault? (spell true R) = none ∧
        d.item? R = some .directory) ∧
      files = Bytes.sort ((Discovery.visit d pattern exclude (Discovery.levels d) R []).map
        fun path => Path.join (spell true R) path) := by
  have hclean := Path.clean_spell (Path.Normal.of_names hR true)
  have habs : d.absolute (spell true R) = spell true R := by
    rw [Disk.absolute, Path.isAbsolute_spell (.of_names hR true), if_pos rfl, hclean]
  have hspot := Disk.spot_spell_true d hR
  unfold discover
  rw [habs]
  cases hvalid : Glob.isValid pattern with
  | false => simp
  | true =>
    rw [Bool.not_true, if_neg Bool.false_ne_true]
    cases hexclude : exclude.find? fun p => !Glob.isValid p with
    | some p => simp
    | none =>
      dsimp only
      cases hstat : d.stat (spell true R) with
      | error e =>
        have hnot : ¬ (Disk.textFault? (spell true R) = none ∧ d.item? R = some .directory) := by
          rintro ⟨hf, hdir⟩
          rw [(Disk.stat_eq_ok_iff hd hclean).2 ⟨hf, hspot.symm ▸ hdir⟩] at hstat
          cases hstat
        simp only [reduceCtorEq, false_iff]
        rintro ⟨⟨_, _, _, hf, hdir⟩, _⟩
        exact hnot ⟨hf, hdir⟩
      | ok e =>
        obtain ⟨hf, he⟩ := (Disk.stat_eq_ok_iff hd hclean).1 hstat
        have hlocate : d.locate true (spell true R) = .ok (.found R e) :=
          (Disk.locate_eq_found_iff hd hclean).2 ⟨hf, hspot ▸ he, hspot⟩
        rw [hspot] at he
        cases canceled with
        | true => simp
        | false =>
          rw [if_neg Bool.false_ne_true, hlocate]
          cases e with
          | directory => simp [hf, he, eq_comm]
          | file content => simp [he]
          | link target => exact absurd he hd.not_link

/-- What a search that is not refused finds: each file once, in ascending order. -/
structure Finds (d : Disk) (pattern : Bytes) (exclude : List Bytes) (R files : List Bytes) :
    Prop where
  mem : ∀ f, f ∈ files ↔
    ∃ N, Discovery.Found d pattern exclude R [] N ∧ f = spell true (R ++ N)
  nodup : files.Nodup
  sorted : files.Pairwise fun f g => Bytes.le f g = true

theorem Finds.of_visit (hd : d.Plain) {R : List Bytes} (hR : ∀ n ∈ R, IsName n) :
    Finds d pattern exclude R
      (Bytes.sort ((Discovery.visit d pattern exclude (Discovery.levels d) R []).map
        fun path => Path.join (spell true R) path)) := by
  have hlists := Discovery.lists_visit pattern exclude R hd.tree hR
  refine ⟨fun f => ?_, hlists.ascending.imp And.right, hlists.ascending.imp And.left⟩
  rw [hlists.mem]
  exact exists_congr fun N => and_congr_left fun _ => (Discovery.found_iff_selected hd).symm

theorem Finds.unique {R files' : List Bytes} {e : Disk} (h : Finds d pattern exclude R files)
    (h' : Finds e pattern exclude R files') (hsame : ∀ f, f ∈ files ↔ f ∈ files') :
    files = files' :=
  List.Perm.eq_of_pairwise (fun _ _ _ _ => Bytes.le_antisymm) h.sorted h'.sorted
    ((List.perm_ext_iff_of_nodup h.nodup h'.nodup).2 hsame)

theorem discover_congr {e : Disk} (hd : d.Plain) (he : e.Plain) {R : List Bytes}
    (hR : ∀ n ∈ R, IsName n) (hdir : e.item? R = some .directory)
    (hfound : ∀ N,
      Discovery.Found e pattern exclude R [] N ↔ Discovery.Found d pattern exclude R [] N)
    (h : discover d canceled (spell true R) pattern exclude = .ok files) :
    discover e canceled (spell true R) pattern exclude = .ok files := by
  obtain ⟨⟨hvalid, hexclude, hcanceled, hf, _⟩, rfl⟩ := (discover_eq_ok_iff hd hR).1 h
  refine (discover_eq_ok_iff he hR).2 ⟨⟨hvalid, hexclude, hcanceled, hf, hdir⟩, ?_⟩
  refine Finds.unique (.of_visit hd hR) (.of_visit he hR) fun f => ?_
  rw [(Finds.of_visit hd hR).mem, (Finds.of_visit he hR).mem]
  exact exists_congr fun N => and_congr_left fun _ => (hfound N).symm

end

end Graft
