import Graft.Proofs.Loader.Confined

/-!
# Graft.Proofs.Loader.Rooted

The paths that a loader with an absolute root accepts, told from the texts of the clean paths: the
names of the root stand in front of the names of the path.

* `Path.names`: the names between the slashes of a text.
* `names_clean`: those of a clean path are its segments.
* `allows_iff_names`: the rule, for the check alone and for reads.
-/

namespace Graft

open Graft.Path (IsName Normal)

namespace Path

def names (p : Bytes) : List Bytes := (p.split Byte.slash).filter fun s => !s.isEmpty

theorem names_clean {p : Bytes} (h : isAbsolute p = true) : names (clean p) = segments p := by
  obtain ⟨hnames, hclean⟩ := clean_absolute h
  rw [names, hclean]
  by_cases hroot : segments p = []
  · rw [hroot]
    decide
  · have hkept : ∀ s ∈ segments p, (!s.isEmpty) = true := by
      intro s hs
      simpa using (hnames s hs).ne_nil
    rw [split_spell (Normal.of_names hnames true) hroot, List.filter_append,
      List.filter_eq_self.2 hkept]
    rfl

end Path

namespace Loader

/-- A loader with an absolute root accepts a path exactly if the path is absolute and the names of the
clean root stand in front of those of the clean path, and refuses to read the others whatever is on the
disk. -/
theorem allows_iff_names (d₀ : Disk) {root : Bytes} (h : Path.isAbsolute root = true) (path : Bytes) :
    ((ofRoot d₀ root).allows path = true ↔
      Path.isAbsolute path = true ∧ Path.names (Path.clean root) <+: Path.names (Path.clean path)) ∧
    ∀ d, (ofRoot d₀ root).read d path = .error (.outsideRoot path) ↔
      ¬ (Path.isAbsolute path = true ∧
        Path.names (Path.clean root) <+: Path.names (Path.clean path)) := by
  obtain ⟨hnames, hclean⟩ := Path.clean_absolute h
  have hne : root ≠ [] := by
    rintro rfl
    cases h
  have hroot : (ofRoot d₀ root).root = Path.spell true (Path.segments root) := by
    rw [ofRoot, if_neg (by simpa using hne), Disk.absolute, if_pos h, hclean]
  have hrule : (ofRoot d₀ root).allows path = true ↔ Path.isAbsolute path = true ∧
      Path.names (Path.clean root) <+: Path.names (Path.clean path) := by
    rw [allows_iff hroot hnames, Path.names_clean h]
    refine and_congr_right fun hpath => ?_
    rw [Path.names_clean hpath]
  refine ⟨hrule, fun d => ?_⟩
  rw [read_eq_outsideRoot_iff, and_iff_left rfl, ← hrule, Bool.not_eq_true]

/-- Below `/a/b` stands a name that begins with two dots, and beside it one that begins with the name
of the root. -/
theorem allows_iff_names_sibling :
    Path.isAbsolute "//a/./b/" = true ∧
      (ofRoot ⟨[], []⟩ "//a/./b/").allows "/a/c/../b//..d" = true ∧
      (ofRoot ⟨[], []⟩ "//a/./b/").allows "/a/bc" = false := by
  have hroot : Path.isAbsolute "//a/./b/" = true := by decide
  refine ⟨hroot, (allows_iff_names ⟨[], []⟩ hroot _).1.2 (by decide), ?_⟩
  rw [← Bool.not_eq_true, (allows_iff_names ⟨[], []⟩ hroot _).1]
  decide

end Loader

end Graft
