import Graft.Proofs.Disk.Tree
import Graft.Discovery
import Graft.Proofs.Text.Order
import Mathlib.Data.List.Nodup

/-!
# Graft.Proofs.Discovery.Visited

What a search of a tree comes to: the entries that are no directories and whose relative path
matches, each once, unless a pattern excludes the entry or a directory above it.

* `Discovery.Selected`: an entry that a search selects, by its names from the root on.
* `Discovery.mem_visit`, `Discovery.nodup_visit`: the search of a directory.
* `Discovery.Lists`, `Discovery.lists_visit`: the paths of the entries selected, in their order.
-/

namespace Graft

open Graft.Path (IsName spell)

namespace Discovery

/-! ## Relative paths -/

/-- A relative path. -/
def textOf (names : List Bytes) : Bytes := Bytes.joinWith [Byte.slash] names

theorem textOf_eq_nil_iff {names : List Bytes} (h : ∀ n ∈ names, IsName n) :
    textOf names = [] ↔ names = [] := by
  constructor
  · intro htext
    by_contra hne
    have hsplit := Bytes.split_joinWith hne fun n hn => (h n hn).no_slash
    rw [show Bytes.joinWith [Byte.slash] names = [] from htext] at hsplit
    rw [← hsplit] at h
    exact (h [] (by simp [Bytes.split])).ne_nil rfl
  · rintro rfl
    rfl

theorem textOf_injective {names names' : List Bytes} (h : ∀ n ∈ names, IsName n)
    (h' : ∀ n ∈ names', IsName n) (heq : textOf names = textOf names') : names = names' := by
  by_cases hne : names = []
  · subst hne
    exact ((textOf_eq_nil_iff h').1 heq.symm).symm
  · have hne' : names' ≠ [] := fun hnil => hne ((textOf_eq_nil_iff h).1 (by rw [heq, hnil]; rfl))
    rw [← Bytes.split_joinWith hne fun n hn => (h n hn).no_slash,
      ← Bytes.split_joinWith hne' fun n hn => (h' n hn).no_slash]
    exact congrArg (Bytes.split Byte.slash) heq

theorem below_textOf {names : List Bytes} (h : ∀ n ∈ names, IsName n) (n : Bytes) :
    below (textOf names) n = textOf (names ++ [n]) := by
  rw [below]
  by_cases hne : names = []
  · subst hne
    rw [if_pos (by rfl)]
    simp [textOf, Bytes.joinWith_singleton]
  · rw [if_neg (by simpa using mt (textOf_eq_nil_iff h).1 hne)]
    simp [textOf, Bytes.joinWith_append _ hne, Bytes.joinWith_singleton]

theorem join_textOf {R N : List Bytes} (hR : ∀ n ∈ R, IsName n) (hN : ∀ n ∈ N, IsName n)
    (hne : N ≠ []) : Path.join (spell true R) (textOf N) = spell true (R ++ N) := by
  have hnormal := Path.Normal.of_names hR true
  have hjoin := Path.join_names (Path.spell_ne_nil hnormal) hne hN
  rw [Path.spell_false hne, Path.isAbsolute_spell hnormal, Path.segments_spell hnormal] at hjoin
  exact hjoin

/-! ## The search -/

/-- An entry that a search of a directory selects, by its names from there: it is no directory, its
path matches the pattern, and nothing on the way to it is excluded. The root stands at `S`, and the
names `M` lead from it to the directory. -/
structure Selected (d : Disk) (pattern : Bytes) (exclude : List Bytes) (S M N : List Bytes) :
    Prop where
  ne_nil : N ≠ []
  entry : ∃ e, d.item? (S ++ (M ++ N)) = some e ∧ e ≠ .directory
  accepted : Glob.accepts pattern (textOf (M ++ N)) = true
  entered : ∀ P, P <+: N → P ≠ [] → isExcluded exclude (textOf (M ++ P)) = false

section

variable {d : Disk} {pattern : Bytes} {exclude : List Bytes} {S M : List Bytes}

theorem Selected.cons {name : Bytes} {N : List Bytes}
    (h : Selected d pattern exclude S (M ++ [name]) N)
    (hname : isExcluded exclude (textOf (M ++ [name])) = false) :
    Selected d pattern exclude S M (name :: N) := by
  have hsplit (N : List Bytes) : M ++ name :: N = M ++ [name] ++ N := by simp
  refine ⟨by simp, hsplit N ▸ h.entry, hsplit N ▸ h.accepted, fun P hP hne => ?_⟩
  cases P with
  | nil => exact absurd rfl hne
  | cons n P =>
    obtain ⟨rfl, hrest⟩ := List.cons_prefix_cons.1 hP
    by_cases hnil : P = []
    · rw [hnil]
      exact hname
    · rw [hsplit]
      exact h.entered P hrest hnil

theorem Selected.tail {name : Bytes} {N : List Bytes}
    (h : Selected d pattern exclude S M (name :: N)) (hN : N ≠ []) :
    Selected d pattern exclude S (M ++ [name]) N := by
  have hsplit (N : List Bytes) : M ++ [name] ++ N = M ++ name :: N := by simp
  refine ⟨hN, hsplit N ▸ h.entry, hsplit N ▸ h.accepted, fun P hP _ => ?_⟩
  rw [hsplit]
  exact h.entered (name :: P) (List.cons_prefix_cons.2 ⟨rfl, hP⟩) (by simp)

theorem Selected.isName (hd : d.Tree) {N : List Bytes} (h : Selected d pattern exclude S M N) :
    ∀ n ∈ M ++ N, IsName n := by
  obtain ⟨e, hentry, _⟩ := h.entry
  exact fun n hn => hd.isName hentry (List.mem_append_right S hn)

/-- The first step to an entry: it is the entry, or the directory that is searched for it. -/
theorem selected_cons_iff (hd : d.Tree) {name : Bytes} {N : List Bytes} :
    Selected d pattern exclude S M (name :: N) ↔
      isExcluded exclude (textOf (M ++ [name])) = false ∧
        (d.item? (S ++ (M ++ [name])) = some .directory ∧
          Selected d pattern exclude S (M ++ [name]) N ∨
          (∃ e, d.item? (S ++ (M ++ [name])) = some e ∧ e ≠ .directory) ∧
            Glob.accepts pattern (textOf (M ++ [name])) = true ∧ N = []) := by
  constructor
  · intro h
    refine ⟨h.entered [name] (by simp) (by simp), ?_⟩
    by_cases hN : N = []
    · subst hN
      exact .inr ⟨h.entry, h.accepted, rfl⟩
    · obtain ⟨e, hentry, _⟩ := h.entry
      have hsplit : S ++ (M ++ name :: N) = S ++ (M ++ [name]) ++ N := by simp
      rw [hsplit] at hentry
      exact .inl ⟨hd.above_prefix hentry hN, h.tail hN⟩
  · rintro ⟨hentered, ⟨_, h⟩ | ⟨hentry, haccepted, rfl⟩⟩
    · exact h.cons hentered
    · refine ⟨by simp, hentry, haccepted, fun P hP hne => ?_⟩
      rcases List.prefix_cons_iff.1 hP with rfl | ⟨P, rfl, hrest⟩
      · exact absurd rfl hne
      · rw [List.prefix_nil.1 hrest]
        exact hentered

/-- What a search finds through one child of the directory. -/
def visitChild (d : Disk) (pattern : Bytes) (exclude : List Bytes) (levels : Nat) (R M : List Bytes)
    (child : Bytes × Disk.Entry) : List Bytes :=
  if isExcluded exclude (textOf (M ++ [child.1])) then []
  else
    match child.2 with
    | .directory => visit d pattern exclude levels (R ++ (M ++ [child.1])) (textOf (M ++ [child.1]))
    | _ =>
      if Glob.accepts pattern (textOf (M ++ [child.1])) then [textOf (M ++ [child.1])] else []

theorem visit_succ (hM : ∀ m ∈ M, IsName m) (levels : Nat) :
    visit d pattern exclude (levels + 1) (S ++ M) (textOf M) =
      (d.children (S ++ M)).flatMap (visitChild d pattern exclude levels S M) := by
  rw [visit]
  refine congrArg (List.flatMap · _) (funext fun child => ?_)
  obtain ⟨name, e⟩ := child
  cases e <;> simp only [visitChild, below_textOf hM, List.append_assoc]

theorem isName_concat (hd : d.Tree) (hM : ∀ m ∈ M, IsName m) {name : Bytes} {e : Disk.Entry}
    (h : d.item? (S ++ M ++ [name]) = some e) : ∀ m ∈ M ++ [name], IsName m := by
  intro m hm
  rcases List.mem_append.1 hm with hm | hm
  · exact hM m hm
  · exact List.mem_singleton.1 hm ▸ hd.isName h (by simp)

theorem mem_visitChild_iff {levels : Nat} {name : Bytes} {e : Disk.Entry} {p : Bytes} :
    p ∈ visitChild d pattern exclude levels S M (name, e) ↔
      isExcluded exclude (textOf (M ++ [name])) = false ∧
        (e = .directory ∧
            p ∈ visit d pattern exclude levels (S ++ (M ++ [name])) (textOf (M ++ [name])) ∨
          e ≠ .directory ∧
            Glob.accepts pattern (textOf (M ++ [name])) = true ∧ p = textOf (M ++ [name])) := by
  rw [visitChild]
  cases hexcluded : isExcluded exclude (textOf (M ++ [name])) with
  | true => simp
  | false =>
    cases e with
    | directory => simp
    | file content => cases Glob.accepts pattern (textOf (M ++ [name])) <;> simp
    | link target => cases Glob.accepts pattern (textOf (M ++ [name])) <;> simp

theorem mem_visit (hd : d.Tree) (hM : ∀ m ∈ M, IsName m) {levels : Nat} {p : Bytes} :
    p ∈ visit d pattern exclude levels (S ++ M) (textOf M) ↔
      ∃ N, Selected d pattern exclude S M N ∧ N.length ≤ levels ∧ p = textOf (M ++ N) := by
  induction levels generalizing M with
  | zero =>
    rw [visit]
    refine ⟨fun h => (by cases h), ?_⟩
    rintro ⟨N, hselected, hlen, -⟩
    exact absurd (List.length_eq_zero_iff.1 (Nat.le_zero.1 hlen)) hselected.ne_nil
  | succ levels ih =>
    rw [visit_succ hM, List.mem_flatMap]
    constructor
    · rintro ⟨⟨name, e⟩, hchild, hp⟩
      rw [Disk.mem_children hd] at hchild
      have hM' := isName_concat hd hM hchild
      rw [List.append_assoc] at hchild
      obtain ⟨hentered, ⟨rfl, hbelow⟩ | ⟨he, haccepted, rfl⟩⟩ := mem_visitChild_iff.1 hp
      · obtain ⟨N, hselected, hlen, rfl⟩ := (ih hM').1 hbelow
        exact ⟨name :: N, hselected.cons hentered, Nat.succ_le_succ hlen, by simp⟩
      · exact ⟨[name],
          (selected_cons_iff hd).2 ⟨hentered, .inr ⟨⟨e, hchild, he⟩, haccepted, rfl⟩⟩,
          by simp, rfl⟩
    · rintro ⟨N, hselected, hlen, rfl⟩
      cases N with
      | nil => exact absurd rfl hselected.ne_nil
      | cons name N =>
        have hchild {e : Disk.Entry} (h : d.item? (S ++ (M ++ [name])) = some e) :
            (name, e) ∈ d.children (S ++ M) :=
          (Disk.mem_children hd).2 (List.append_assoc .. ▸ h)
        obtain ⟨hentered, ⟨hdir, hselected⟩ | ⟨⟨e, hentry, he⟩, haccepted, rfl⟩⟩ :=
          (selected_cons_iff hd).1 hselected
        · have hM' := isName_concat hd hM (List.append_assoc .. ▸ hdir)
          have hp := (ih hM').2 ⟨N, hselected, Nat.le_of_succ_le_succ hlen, by simp⟩
          exact ⟨_, hchild hdir, mem_visitChild_iff.2 ⟨hentered, .inl ⟨rfl, hp⟩⟩⟩
        · exact ⟨_, hchild hentry, mem_visitChild_iff.2 ⟨hentered, .inr ⟨he, haccepted, rfl⟩⟩⟩

theorem exists_of_mem_visitChild (hd : d.Tree) (hM : ∀ m ∈ M, IsName m) {levels : Nat}
    {name : Bytes} {e : Disk.Entry} (h : (name, e) ∈ d.children (S ++ M)) {p : Bytes}
    (hp : p ∈ visitChild d pattern exclude levels S M (name, e)) :
    ∃ N, (∀ n ∈ M ++ name :: N, IsName n) ∧ p = textOf (M ++ name :: N) := by
  have hM' := isName_concat hd hM ((Disk.mem_children hd).1 h)
  obtain ⟨_, ⟨_, hbelow⟩ | ⟨_, _, rfl⟩⟩ := mem_visitChild_iff.1 hp
  · obtain ⟨N, hselected, _, rfl⟩ := (mem_visit hd hM').1 hbelow
    have hnames := hselected.isName hd
    rw [List.append_assoc] at hnames
    exact ⟨N, hnames, by simp⟩
  · exact ⟨[], hM', rfl⟩

theorem nodup_visit (hd : d.Tree) (hM : ∀ m ∈ M, IsName m) (levels : Nat) :
    (visit d pattern exclude levels (S ++ M) (textOf M)).Nodup := by
  induction levels generalizing M with
  | zero => exact List.nodup_nil
  | succ levels ih =>
    rw [visit_succ hM, List.nodup_flatMap]
    constructor
    · rintro ⟨name, e⟩ hx
      have hM' := isName_concat hd hM ((Disk.mem_children hd).1 hx)
      rw [visitChild]
      split
      · exact List.nodup_nil
      · split
        · exact ih hM'
        · split
          · exact List.nodup_singleton _
          · exact List.nodup_nil
    · refine (Disk.pairwise_children hd (S ++ M)).imp_of_mem fun {x y} hx hy hne => ?_
      refine List.disjoint_left.2 fun p hp hp' => ?_
      obtain ⟨N, hN, rfl⟩ := exists_of_mem_visitChild hd hM hx hp
      obtain ⟨N', hN', heq⟩ := exists_of_mem_visitChild hd hM hy hp'
      have hsame := textOf_injective hN hN' heq
      rw [List.append_cancel_left_eq] at hsame
      exact hne (List.cons.inj hsame).1

theorem length_lt_levels_of_mem (d : Disk) {x : List Bytes × Disk.Entry} (h : x ∈ d.entries) :
    x.1.length < levels d := by
  have hfold (entries : List (List Bytes × Disk.Entry)) (start : Nat) :
      start ≤ entries.foldl (fun n e => max n e.1.length) start ∧
        ∀ x ∈ entries, x.1.length ≤ entries.foldl (fun n e => max n e.1.length) start := by
    induction entries generalizing start with
    | nil => simp
    | cons y entries ih =>
      obtain ⟨hstart, hall⟩ := ih (max start y.1.length)
      rw [List.foldl_cons]
      refine ⟨by omega, fun x hx => ?_⟩
      rcases List.mem_cons.1 hx with rfl | hx
      · omega
      · exact hall x hx
  have := (hfold d.entries 0).2 x h
  rw [levels]
  omega

theorem length_lt_levels (hd : d.Tree) {X : List Bytes} {e : Disk.Entry} (h : d.item? X = some e) :
    X.length < levels d := by
  by_cases hX : X = []
  · subst hX
    exact Nat.succ_pos _
  · exact length_lt_levels_of_mem d ((hd.mem hX).2 h)

/-! ## The paths found -/

/-- The paths of the entries that a search selects, in strictly ascending order. The root has the
segments `R` and stands at `S`. -/
structure Lists (d : Disk) (pattern : Bytes) (exclude : List Bytes) (R S : List Bytes)
    (files : List Bytes) : Prop where
  mem : ∀ f, f ∈ files ↔ ∃ N, Selected d pattern exclude S [] N ∧ f = spell true (R ++ N)
  ascending : files.Pairwise fun f g => Bytes.le f g = true ∧ f ≠ g

variable (pattern exclude S) in
theorem lists_visit (hd : d.Tree) {R : List Bytes} (hR : ∀ n ∈ R, IsName n) :
    Lists d pattern exclude R S (Bytes.sort ((visit d pattern exclude (levels d) S []).map
      fun path => Path.join (spell true R) path)) := by
  have hnone : ∀ m ∈ ([] : List Bytes), IsName m := by simp
  have hvisit (p : Bytes) : p ∈ visit d pattern exclude (levels d) S [] ↔
      ∃ N, Selected d pattern exclude S [] N ∧ p = textOf N := by
    have h : p ∈ visit d pattern exclude (levels d) (S ++ []) [] ↔
        ∃ N, Selected d pattern exclude S [] N ∧ N.length ≤ levels d ∧ p = textOf ([] ++ N) :=
      mem_visit hd hnone
    rw [List.append_nil] at h
    refine h.trans (exists_congr fun N => and_congr_right fun hselected => ?_)
    obtain ⟨e, hentry, _⟩ := hselected.entry
    have hlen := length_lt_levels hd hentry
    rw [List.nil_append, List.length_append] at hlen
    rw [List.nil_append]
    exact and_iff_right (by omega)
  have hperm := Bytes.sort_perm ((visit d pattern exclude (levels d) S []).map
    fun path => Path.join (spell true R) path)
  have hnodup : (visit d pattern exclude (levels d) (S ++ []) []).Nodup :=
    nodup_visit hd hnone (levels d)
  rw [List.append_nil] at hnodup
  refine ⟨fun f => ?_, (Bytes.pairwise_sort _).and (hperm.symm.nodup ?_)⟩
  · rw [hperm.mem_iff, List.mem_map]
    constructor
    · rintro ⟨p, hp, rfl⟩
      obtain ⟨N, hselected, rfl⟩ := (hvisit p).1 hp
      exact ⟨N, hselected, join_textOf hR (hselected.isName hd) hselected.ne_nil⟩
    · rintro ⟨N, hselected, rfl⟩
      exact ⟨_, (hvisit _).2 ⟨N, hselected, rfl⟩,
        join_textOf hR (hselected.isName hd) hselected.ne_nil⟩
  · refine List.Nodup.map_on (fun p hp q hq heq => ?_) hnodup
    obtain ⟨N, hselected, rfl⟩ := (hvisit p).1 hp
    obtain ⟨N', hselected', rfl⟩ := (hvisit q).1 hq
    have hN : ∀ n ∈ N, IsName n := hselected.isName hd
    have hN' : ∀ n ∈ N', IsName n := hselected'.isName hd
    rw [join_textOf hR hN hselected.ne_nil, join_textOf hR hN' hselected'.ne_nil] at heq
    have hsegments := congrArg Path.segments heq
    rw [Path.segments_spell ((Path.Normal.of_names hR true).append hN),
      Path.segments_spell ((Path.Normal.of_names hR true).append hN'),
      List.append_cancel_left_eq] at hsegments
    rw [hsegments]

/-- Two lists in strictly ascending order with the same members are the same. -/
theorem eq_of_ascending {files files' : List Bytes}
    (h : files.Pairwise fun f g => Bytes.le f g = true ∧ f ≠ g)
    (h' : files'.Pairwise fun f g => Bytes.le f g = true ∧ f ≠ g)
    (hsame : ∀ f, f ∈ files ↔ f ∈ files') : files = files' := by
  have hnodup := h.imp And.right
  have hnodup' := h'.imp And.right
  exact List.Perm.eq_of_pairwise (fun _ _ _ _ => Bytes.le_antisymm) (h.imp And.left)
    (h'.imp And.left) ((List.perm_ext_iff_of_nodup hnodup hnodup').2 hsame)

end

end Discovery

end Graft
