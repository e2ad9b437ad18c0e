import Graft.Proofs.Disk.Plain

/-!
# Graft.Proofs.Disk.Grown

Operations on a disk on which others have made directories. Making directories and writing a file
come to the same as without the others, and so does a read, unless a name that no entry can have is
looked up in a directory that was not there before.

* `Grown`: a disk on which directories have been made along a path.
* `Carried`: a change made to another disk as well.
* `MadeAlong`, `madeAlong_makeDirs`: what making directories changes.
* `makeDirs_grown`, `store_carried`, `contents_grown`: the operations on a grown disk.
-/

namespace Graft.Disk

open Graft.Path (IsName Normal advance spell)

/-! ## Texts of paths -/

section

variable {rooted : Bool} {X : List Bytes} {n : Bytes}

/-- The path above a path as written; above a single segment there is none. -/
theorem above_spell (hne : n ≠ []) (hs : Byte.slash ∉ n) :
    above (spell rooted (X ++ [n])) = if X = [] then [] else spell rooted X := by
  have hslash : ∀ c ∈ n.reverse, (c != Byte.slash) = true := by
    intro c hc
    have : c ≠ Byte.slash := fun h => hs (h ▸ List.mem_reverse.1 hc)
    simpa using this
  have hlast (rest : Bytes) :
      (n.reverse ++ rest).dropWhile (· == Byte.slash) = n.reverse ++ rest := by
    cases hrev : n.reverse with
    | nil => exact absurd (List.reverse_eq_nil_iff.1 hrev) hne
    | cons c cs =>
      have hc := hslash c (by simp [hrev])
      rw [List.cons_append, List.dropWhile_cons_of_neg]
      simpa using hc
  have hcut (p : Bytes) : above (p ++ Byte.slash :: n) = p := by
    rw [above, List.reverse_append, List.reverse_cons, List.append_assoc, hlast,
      List.dropWhile_append_of_pos hslash]
    simp
  by_cases hX : X = []
  · subst hX
    rw [if_pos rfl, List.nil_append]
    cases rooted with
    | true =>
      rw [Path.spell_true, Bytes.joinWith_singleton]
      exact hcut []
    | false =>
      have hall : (n.reverse ++ []).dropWhile (· != Byte.slash) = [] :=
        List.dropWhile_append_of_pos hslash
      have hkeep := hlast []
      rw [List.append_nil] at hall hkeep
      rw [Path.spell_false (List.cons_ne_nil _ _), Bytes.joinWith_singleton, above, hkeep, hall]
      rfl
  · rw [if_neg hX, Path.spell_append hX (List.cons_ne_nil _ _), Bytes.joinWith_singleton, hcut]

theorem textFault?_above (h : textFault? (spell rooted (X ++ [n])) = none) :
    textFault? (spell rooted X) = none := by
  by_cases hX : X = []
  · subst hX
    cases rooted <;> decide
  · rw [Path.spell_append hX (List.cons_ne_nil _ _)] at h
    unfold textFault? at h ⊢
    split at h
    · cases h
    · rename_i hnul
      split at h
      · cases h
      · rename_i hlen
        rw [List.length_append] at hlen
        rw [if_neg (fun hmem => hnul (by simp_all)), if_neg (by omega)]

theorem absolute_congr {d d' : Disk} (h : d'.workingDir = d.workingDir) (path : Bytes) :
    d'.absolute path = d.absolute path := by
  unfold absolute workingPath
  rw [h]

theorem spot_congr {d d' : Disk} (h : d'.workingDir = d.workingDir) (path : Bytes) :
    d'.spot path = d.spot path := congrArg Path.segments (absolute_congr h path)

theorem spot_concat {d : Disk} (hd : d.Plain) (hX : Normal rooted X) (hn : IsName n) :
    d.spot (spell rooted (X ++ [n])) = d.spot (spell rooted X) ++ [n] := by
  have hXn : Normal rooted (X ++ [n]) := hX.append (by simpa using hn)
  cases rooted with
  | true => rw [spot_spell_true d hXn.names, spot_spell_true d hX.names]
  | false =>
    rw [spot_segments hd (Path.isAbsolute_spell hXn), spot_segments hd (Path.isAbsolute_spell hX),
      Path.segments_spell hXn, Path.segments_spell hX, List.foldl_append]
    simp [Path.advance_name hn]

theorem Normal.of_concat (h : Normal rooted (X ++ [n])) :
    Normal rooted X ∧
      (IsName n ∨ ∃ k, X ++ [n] = List.replicate k Path.parent ∧ rooted = false) := by
  obtain ⟨k, names, heq, hk, hn⟩ := h
  rcases List.eq_nil_or_concat names with rfl | ⟨names, m, rfl⟩
  · rw [List.append_nil] at heq
    cases k with
    | zero => simp at heq
    | succ k =>
      have hroot : rooted = false := by
        cases rooted with
        | false => rfl
        | true => exact absurd (hk rfl) (Nat.succ_ne_zero k)
      rw [List.replicate_succ'] at heq
      obtain ⟨rfl, h⟩ := List.append_inj' heq rfl
      refine ⟨⟨k, [], by simp, fun h => (by simp [hroot] at h), by simp⟩, .inr ⟨k + 1, ?_, hroot⟩⟩
      rw [List.replicate_succ', h]
  · rw [List.concat_eq_append, ← List.append_assoc] at heq
    obtain ⟨rfl, h⟩ := List.append_inj' heq rfl
    cases h
    exact ⟨⟨k, names, rfl, hk, fun m hm => hn m (by simp [hm])⟩, .inl (hn n (by simp))⟩

theorem item?_parents {d : Disk} (hd : d.Plain) (k : Nat) :
    d.item? (d.spot (spell false (List.replicate k Path.parent))) = some .directory := by
  have hnormal : Normal false (List.replicate k Path.parent) := ⟨k, [], by simp, by simp, by simp⟩
  rw [spot_segments hd (Path.isAbsolute_spell hnormal), Path.segments_spell hnormal]
  suffices h : ∀ here, d.item? here = some .directory → d.item?
      ((List.replicate k Path.parent).foldl (advance true) here.reverse).reverse =
        some .directory from h _ hd.home
  induction k with
  | zero => exact fun here h => by simpa using h
  | succ k ih =>
    intro here h
    have ih := ih ⟨k, [], by simp, by simp, by simp⟩
    rw [List.replicate_succ, List.foldl_cons]
    rcases List.eq_nil_or_concat here with rfl | ⟨here, n, rfl⟩
    · exact ih [] rfl
    · rw [List.concat_eq_append] at h ⊢
      have hn : n ≠ Path.parent := (hd.isName h (by simp)).1.ne_parent
      have hstep : advance true (here ++ [n]).reverse Path.parent = here.reverse := by
        have h1 : ¬ (Path.parent = [] ∨ Path.parent = Path.current) := by decide
        simp [advance, h1, hn]
      rw [hstep]
      exact ih here (hd.above h)

theorem isName_of_absent {d : Disk} (hd : d.Plain) (h : Normal rooted (X ++ [n]))
    (habsent : d.item? (d.spot (spell rooted (X ++ [n]))) = none) : IsName n := by
  rcases (Normal.of_concat h).2 with hn | ⟨k, heq, rfl⟩
  · exact hn
  · rw [heq, item?_parents hd] at habsent
    cases habsent

end

/-! ## Making directories -/

section

variable {d : Disk} {path : Bytes} {levels : Nat}

theorem makeDirsUpTo_directory (h : d.stat path = .ok .directory) :
    makeDirsUpTo (levels + 1) d path = (.ok (), d) := by rw [makeDirsUpTo, h]

theorem makeDirsUpTo_file {content : Bytes} (h : d.stat path = .ok (.file content)) :
    makeDirsUpTo (levels + 1) d path = (.error ⟨"mkdir", path, .notDirectory⟩, d) := by
  rw [makeDirsUpTo, h]

variable {rooted : Bool} {X : List Bytes} {n : Bytes}

theorem stat_spell_nil (hd : d.Plain) (rooted : Bool) :
    d.stat (spell rooted []) = .ok .directory := by
  rw [stat_eq_ok_iff hd (Path.clean_spell (.of_names (by simp) _))]
  cases rooted with
  | true => exact ⟨by decide, by rw [spot_spell_true d (by simp)]; rfl⟩
  | false =>
    have := item?_parents hd 0
    exact ⟨by decide, this⟩

theorem makeDirsUpTo_nil (hd : d.Plain) :
    makeDirsUpTo levels d (spell rooted []) = (.ok (), d) := by
  have hstat := stat_spell_nil hd rooted
  cases levels with
  | succ levels => exact makeDirsUpTo_directory hstat
  | zero =>
    have hclean := Path.clean_spell (Normal.of_names (X := []) (by simp) rooted)
    obtain ⟨hf, he⟩ := (stat_eq_ok_iff hd hclean).1 hstat
    simp [makeDirsUpTo, makeLast, makeDir, locate_there hd hclean hf he]

theorem makeDirsUpTo_concat (hd : d.Plain) (hX : Normal rooted (X ++ [n])) {e : Failure}
    (h : d.stat (spell rooted (X ++ [n])) = .error e) :
    makeDirsUpTo (levels + 1) d (spell rooted (X ++ [n])) =
      match makeDirsUpTo levels d (spell rooted X) with
      | (.error e, d) => (.error e, d)
      | (.ok (), d) => d.makeLast (spell rooted (X ++ [n])) := by
  have hne := hX.ne_nil n (by simp)
  have hs := hX.no_slash n (by simp)
  have hnormal := (Normal.of_concat hX).1
  rw [makeDirsUpTo, h]
  dsimp only
  rw [above_spell hne hs]
  by_cases hnil : X = []
  · subst hnil
    rw [makeDirsUpTo_nil hd]
    rfl
  · have hparent : (spell rooted X).isEmpty = false := by
      simpa using Path.spell_ne_nil hnormal
    rw [if_neg hnil]
    obtain ⟨result, e⟩ := makeDirsUpTo levels d (spell rooted X)
    cases result <;> simp only [hparent, Bool.false_eq_true, if_false]

variable {S : List Bytes}

theorem makeLast_fault (hd : d.Plain) (hp : Path.clean path = path) {reason : Reason}
    (h : textFault? path = some reason) :
    d.makeLast path = (.error ⟨"mkdir", path, reason⟩, d) := by
  simp [makeLast, makeDir, locate_fault hd hp h]

theorem makeLast_vacant (hd : d.Plain) (hp : Path.clean path = path) (hf : textFault? path = none)
    (hspot : d.spot path = S ++ [n]) (hdir : d.item? S = some .directory)
    (h : d.item? (S ++ [n]) = none) :
    d.makeLast path =
      if maxName < n.length then (.error ⟨"mkdir", path, .nameTooLong⟩, d)
      else (.ok (), d.put (S ++ [n]) .directory) := by
  by_cases hlen : maxName < n.length
  · simp [makeLast, makeDir, locate_vacant hd hp hf hspot hdir h, hlen]
  · simp [makeLast, makeDir, locate_vacant hd hp hf hspot hdir h, hlen]

end

/-- What making directories along a spot may change: some of those that are missing are there. -/
structure MadeAlong (d e : Disk) (S : List Bytes) (result : Except Failure Unit) : Prop where
  plain : e.Plain
  home : e.workingDir = d.workingDir
  change : ∀ Z, e.item? Z ≠ d.item? Z →
    Z <+: S ∧ d.item? Z = none ∧ e.item? Z = some .directory
  made : result = .ok () → e.item? S = some .directory

theorem MadeAlong.refl {d : Disk} {S : List Bytes} {result : Except Failure Unit} (hd : d.Plain)
    (h : result = .ok () → d.item? S = some .directory) : MadeAlong d d S result :=
  ⟨hd, rfl, fun _ h => absurd rfl h, h⟩

theorem MadeAlong.concat {d e : Disk} {S : List Bytes} {n : Bytes} (h : MadeAlong d e S (.ok ()))
    (hn : IsName n) (hlen : n.length ≤ maxName) (habsent : d.item? (S ++ [n]) = none) :
    MadeAlong d (e.put (S ++ [n]) .directory) (S ++ [n]) (.ok ()) := by
  have hne : S ++ [n] ≠ [] := by simp
  refine ⟨h.plain.put (h.made rfl) ⟨hn, hlen⟩ (by simp) (.inl rfl), h.home, fun Z hZ => ?_,
    fun _ => by rw [item?_put e hne, if_pos rfl]⟩
  rw [item?_put e hne] at hZ ⊢
  by_cases heq : Z = S ++ [n]
  · subst heq
    exact ⟨List.prefix_rfl, habsent, if_pos rfl⟩
  · rw [if_neg heq] at hZ ⊢
    obtain ⟨hpre, hrest⟩ := h.change Z hZ
    exact ⟨hpre.trans (List.prefix_append _ _), hrest⟩

theorem MadeAlong.absent {d e : Disk} {S : List Bytes} {n : Bytes} {result : Except Failure Unit}
    (h : MadeAlong d e S result) (habsent : d.item? (S ++ [n]) = none) :
    e.item? (S ++ [n]) = none := by
  by_cases heq : e.item? (S ++ [n]) = d.item? (S ++ [n])
  · rw [heq, habsent]
  · have hlen := (h.change _ heq).1.length_le
    rw [List.length_append] at hlen
    exact absurd hlen (by simp)

theorem MadeAlong.unchanged {d e : Disk} {S : List Bytes} {result : Except Failure Unit}
    (hd : d.Plain) (h : MadeAlong d e S result) (hdir : d.item? S = some .directory)
    (Z : List Bytes) : e.item? Z = d.item? Z := by
  by_cases heq : e.item? Z = d.item? Z
  · exact heq
  · obtain ⟨⟨X, rfl⟩, habsent, _⟩ := h.change Z heq
    rw [hd.absent_below habsent X] at hdir
    cases hdir

/-- Where something is missing, the text is no path or the last segment is the name of nothing. -/
theorem missing_cases {d : Disk} (hd : d.Plain) {rooted : Bool} {X : List Bytes} {n : Bytes}
    (hX : Normal rooted (X ++ [n])) {e : Failure}
    (h : d.stat (spell rooted (X ++ [n])) = .error e) :
    (∃ reason, textFault? (spell rooted (X ++ [n])) = some reason) ∨
      textFault? (spell rooted (X ++ [n])) = none ∧ IsName n ∧
        d.spot (spell rooted (X ++ [n])) = d.spot (spell rooted X) ++ [n] ∧
        d.item? (d.spot (spell rooted X) ++ [n]) = none := by
  cases hf : textFault? (spell rooted (X ++ [n])) with
  | some reason => exact .inl ⟨reason, rfl⟩
  | none =>
    have habsent : d.item? (d.spot (spell rooted (X ++ [n]))) = none := by
      cases he : d.item? (d.spot (spell rooted (X ++ [n]))) with
      | none => rfl
      | some e' =>
        rw [(stat_eq_ok_iff hd (Path.clean_spell hX)).2 ⟨hf, he⟩] at h
        cases h
    have hn := isName_of_absent hd hX habsent
    have hspot := spot_concat hd (Normal.of_concat hX).1 hn
    exact .inr ⟨rfl, hn, hspot, hspot ▸ habsent⟩

theorem MadeAlong.failed {d e : Disk} (hd : d.Plain) {rooted : Bool} {X : List Bytes} {n : Bytes}
    (hX : Normal rooted (X ++ [n])) {result : Except Failure Unit} {f : Failure}
    (h : MadeAlong d e (d.spot (spell rooted X)) result) :
    MadeAlong d e (d.spot (spell rooted (X ++ [n]))) (.error f) := by
  refine ⟨h.plain, h.home, fun Z hZ => ?_, nofun⟩
  rcases (Normal.of_concat hX).2 with hn | ⟨k, heq, rfl⟩
  · rw [spot_concat hd (Normal.of_concat hX).1 hn]
    exact ⟨(h.change Z hZ).1.trans (List.prefix_append _ _), (h.change Z hZ).2⟩
  · have hX : X = List.replicate (k - 1) Path.parent := by
      have := congrArg List.dropLast heq
      rwa [List.dropLast_concat, List.dropLast_replicate] at this
    rw [hX] at h
    exact absurd (h.unchanged hd (item?_parents hd _) Z) hZ

theorem madeAlong_makeDirsUpTo {d : Disk} (hd : d.Plain) {rooted : Bool} {X : List Bytes}
    (hX : Normal rooted X) {levels : Nat} (hlevels : X.length ≤ levels) :
    MadeAlong d (makeDirsUpTo levels d (spell rooted X)).2 (d.spot (spell rooted X))
      (makeDirsUpTo levels d (spell rooted X)).1 := by
  induction levels generalizing X with
  | zero =>
    obtain rfl : X = [] := List.length_eq_zero_iff.1 (Nat.le_zero.1 hlevels)
    rw [makeDirsUpTo_nil hd]
    have hstat := (stat_eq_ok_iff hd (Path.clean_spell hX)).1 (stat_spell_nil hd rooted)
    exact .refl hd fun _ => hstat.2
  | succ levels ih =>
    have hclean := Path.clean_spell hX
    cases hstat : d.stat (spell rooted X) with
    | ok e =>
      have he := ((stat_eq_ok_iff hd hclean).1 hstat).2
      cases e with
      | directory =>
        rw [makeDirsUpTo_directory hstat]
        exact .refl hd fun _ => he
      | file content =>
        rw [makeDirsUpTo_file hstat]
        exact .refl hd nofun
      | link target => exact absurd he hd.not_link
    | error f =>
      rcases List.eq_nil_or_concat X with rfl | ⟨X, n, rfl⟩
      · rw [stat_spell_nil hd] at hstat
        cases hstat
      rw [List.concat_eq_append] at hX hclean hstat hlevels ⊢
      have hmade := ih (Normal.of_concat hX).1 (by simpa using hlevels)
      rw [makeDirsUpTo_concat hd hX hstat]
      generalize makeDirsUpTo levels d (spell rooted X) = made at hmade ⊢
      obtain ⟨result, e⟩ := made
      cases result with
      | error f => exact hmade.failed hd hX
      | ok =>
        dsimp only at hmade ⊢
        have hspot' := spot_congr hmade.home (spell rooted (X ++ [n]))
        rcases missing_cases hd hX hstat with ⟨reason, hf⟩ | ⟨hf, hn, hspot, habsent⟩
        · rw [makeLast_fault hmade.plain hclean hf]
          exact hmade.failed hd hX
        · rw [makeLast_vacant hmade.plain hclean hf (hspot'.trans hspot) (hmade.made rfl)
            (hmade.absent habsent)]
          split
          · exact hmade.failed hd hX
          · rename_i hlen
            rw [hspot]
            exact hmade.concat hn (Nat.not_lt.1 hlen) habsent

theorem length_le_spell {rooted : Bool} {X : List Bytes} (hX : Normal rooted X) :
    X.length ≤ (spell rooted X).length := by
  have hjoin (X : List Bytes) (h : ∀ s ∈ X, s ≠ []) :
      X.length ≤ (Bytes.joinWith [Byte.slash] X).length := by
    induction X with
    | nil => exact Nat.zero_le _
    | cons s X ih =>
      have hs := List.length_pos_iff.2 (h s List.mem_cons_self)
      have ih := ih fun s hs => h s (List.mem_cons_of_mem _ hs)
      cases X with
      | nil =>
        rw [Bytes.joinWith_singleton]
        exact hs
      | cons t X =>
        rw [Bytes.joinWith_cons_cons]
        simp only [List.length_cons, List.length_append] at ih ⊢
        omega
  have hlen := hjoin X hX.ne_nil
  cases rooted with
  | true => simpa [Path.spell_true] using Nat.le_succ_of_le hlen
  | false =>
    by_cases hnil : X = []
    · rw [hnil]
      exact Nat.zero_le _
    · rwa [Path.spell_false hnil]

/-! ## A disk that has grown -/

/-- Directories have been made along a spot, and nothing else has changed along it. -/
def Grown (d₀ d : Disk) (S : List Bytes) : Prop :=
  ∀ P, P <+: S → d.item? P = d₀.item? P ∨ d₀.item? P = none ∧ d.item? P = some .directory

/-- The change from `d₀` to `e₀` made to `d` as well gives `e`. -/
def Carried (d₀ e₀ d e : Disk) : Prop :=
  ∀ Z, (e₀.item? Z ≠ d₀.item? Z → e.item? Z = e₀.item? Z) ∧
    (e₀.item? Z = d₀.item? Z → e.item? Z = d.item? Z)

theorem Carried.refl (d₀ d : Disk) : Carried d₀ d₀ d d :=
  fun _ => ⟨fun h => absurd rfl h, fun _ => rfl⟩

theorem Carried.put {d₀ e₀ d e : Disk} (h : Carried d₀ e₀ d e) {S : List Bytes} (hS : S ≠ [])
    {entry : Entry} (hnew : d₀.item? S = d.item? S) :
    Carried d₀ (e₀.put S entry) d (e.put S entry) := by
  intro Z
  rw [item?_put e₀ hS, item?_put e hS]
  by_cases heq : Z = S
  · subst heq
    rw [if_pos rfl, if_pos rfl]
    exact ⟨fun _ => rfl, fun h => h.trans hnew⟩
  · rw [if_neg heq, if_neg heq]
    exact h Z

theorem Grown.of_prefix {d₀ d : Disk} {S T : List Bytes} (h : Grown d₀ d T) (hS : S <+: T) :
    Grown d₀ d S := fun P hP => h P (hP.trans hS)

theorem makeDirsUpTo_there {d : Disk} (hd : d.Plain) {rooted : Bool} {X : List Bytes}
    (hX : Normal rooted X) {levels : Nat} (hlevels : X.length ≤ levels)
    (hf : textFault? (spell rooted X) = none)
    (h : d.item? (d.spot (spell rooted X)) = some .directory) :
    makeDirsUpTo levels d (spell rooted X) = (.ok (), d) := by
  cases levels with
  | zero =>
    obtain rfl : X = [] := List.length_eq_zero_iff.1 (Nat.le_zero.1 hlevels)
    exact makeDirsUpTo_nil hd
  | succ levels =>
    exact makeDirsUpTo_directory ((stat_eq_ok_iff hd (Path.clean_spell hX)).2 ⟨hf, h⟩)

section

variable {d₀ d : Disk} {rooted : Bool} {X : List Bytes} {n : Bytes}

theorem Grown.of_concat (hd₀ : d₀.Plain)
    (hdirs : ∀ P, d₀.item? P = some .directory → d.item? P = some .directory)
    (hX : Normal rooted (X ++ [n])) (h : Grown d₀ d (d₀.spot (spell rooted (X ++ [n])))) :
    Grown d₀ d (d₀.spot (spell rooted X)) := by
  rcases (Normal.of_concat hX).2 with hn | ⟨k, heq, rfl⟩
  · rw [spot_concat hd₀ (Normal.of_concat hX).1 hn] at h
    exact h.of_prefix (List.prefix_append _ _)
  · have hX : X = List.replicate (k - 1) Path.parent := by
      have := congrArg List.dropLast heq
      rwa [List.dropLast_concat, List.dropLast_replicate] at this
    have hdir := item?_parents hd₀ (k - 1)
    rw [← hX] at hdir
    rintro P ⟨Q, hQ⟩
    have hP : d₀.item? P = some .directory := by
      by_cases hnil : Q = []
      · rw [← hQ, hnil, List.append_nil] at hdir
        exact hdir
      · rw [← hQ] at hdir
        exact hd₀.above_prefix hdir hnil
    exact .inl ((hdirs P hP).trans hP.symm)

/-- The last directory of a path that is missing on both disks, once all above it is made. -/
theorem makeLast_carried (hd₀ : d₀.Plain) (hd : d.Plain) (hhome : d.workingDir = d₀.workingDir)
    (hX : Normal rooted (X ++ [n])) {f₀ f : Failure}
    (h₀ : d₀.stat (spell rooted (X ++ [n])) = .error f₀)
    (h : d.stat (spell rooted (X ++ [n])) = .error f) {e₀ e : Disk}
    (hmade₀ : MadeAlong d₀ e₀ (d₀.spot (spell rooted X)) (.ok ()))
    (hmade : MadeAlong d e (d.spot (spell rooted X)) (.ok ())) (hcarried : Carried d₀ e₀ d e) :
    (e.makeLast (spell rooted (X ++ [n]))).1 = (e₀.makeLast (spell rooted (X ++ [n]))).1 ∧
      Carried d₀ (e₀.makeLast (spell rooted (X ++ [n]))).2 d
        (e.makeLast (spell rooted (X ++ [n]))).2 := by
  have hclean := Path.clean_spell hX
  rcases missing_cases hd₀ hX h₀ with ⟨reason, hf⟩ | ⟨hf, _, hspot₀, habsent₀⟩
  · rw [makeLast_fault hmade₀.plain hclean hf, makeLast_fault hmade.plain hclean hf]
    exact ⟨rfl, hcarried⟩
  · rcases missing_cases hd hX h with ⟨reason, hf'⟩ | ⟨_, _, hspot, habsent⟩
    · rw [hf] at hf'
      cases hf'
    have hparent := spot_congr hhome (spell rooted X)
    rw [makeLast_vacant hmade₀.plain hclean hf ((spot_congr hmade₀.home _).trans hspot₀)
        (hmade₀.made rfl) (hmade₀.absent habsent₀),
      makeLast_vacant hmade.plain hclean hf ((spot_congr hmade.home _).trans hspot)
        (hmade.made rfl) (hmade.absent habsent), hparent]
    rw [hparent] at habsent
    split
    · exact ⟨rfl, hcarried⟩
    · exact ⟨rfl, hcarried.put (by simp) (habsent₀.trans habsent.symm)⟩

/-- The last directory of a path that only the grown disk has, once all above it is made. -/
theorem makeLast_caughtUp {S : List Bytes} (hd : d.Plain) {path : Bytes}
    (hf : textFault? path = none) (hclean : Path.clean path = path)
    (hspot₀ : d₀.spot path = S ++ [n]) (habsent : d₀.item? (S ++ [n]) = none)
    (hthere : d.item? (S ++ [n]) = some .directory) {e₀ : Disk}
    (hmade₀ : MadeAlong d₀ e₀ S (.ok ())) (hcarried : Carried d₀ e₀ d d) :
    (e₀.makeLast path).1 = .ok () ∧ Carried d₀ (e₀.makeLast path).2 d d := by
  have hspot := (spot_congr hmade₀.home path).trans hspot₀
  have hlen := (hd.isName hthere (by simp : n ∈ _)).2
  rw [makeLast_vacant hmade₀.plain hclean hf hspot (hmade₀.made rfl) (hmade₀.absent habsent),
    if_neg (Nat.not_lt.2 hlen)]
  refine ⟨rfl, fun Z => ?_⟩
  rw [item?_put e₀ (by simp)]
  by_cases hZ : Z = S ++ [n]
  · subst hZ
    rw [if_pos rfl, habsent]
    exact ⟨fun _ => hthere, nofun⟩
  · rw [if_neg hZ]
    exact hcarried Z

/-- What stands at a path on the first disk stands there on the grown one. -/
theorem Grown.stat_eq_ok (hd₀ : d₀.Plain) (hd : d.Plain) (hhome : d.workingDir = d₀.workingDir)
    (hX : Normal rooted X) (h : Grown d₀ d (d₀.spot (spell rooted X))) {e : Entry}
    (he : d₀.stat (spell rooted X) = .ok e) : d.stat (spell rooted X) = .ok e := by
  have hclean := Path.clean_spell hX
  obtain ⟨hf, he⟩ := (stat_eq_ok_iff hd₀ hclean).1 he
  refine (stat_eq_ok_iff hd hclean).2 ⟨hf, ?_⟩
  rcases h _ List.prefix_rfl with heq | ⟨hnone, _⟩
  · rw [spot_congr hhome, heq, he]
  · rw [hnone] at he
    cases he

/-- Where only the grown disk has something, it has a directory. -/
theorem Grown.caughtUp (hd₀ : d₀.Plain) (hd : d.Plain) (hhome : d.workingDir = d₀.workingDir)
    (hX : Normal rooted (X ++ [n])) (h : Grown d₀ d (d₀.spot (spell rooted (X ++ [n]))))
    {f₀ : Failure} (h₀ : d₀.stat (spell rooted (X ++ [n])) = .error f₀) {entry : Entry}
    (hstat : d.stat (spell rooted (X ++ [n])) = .ok entry) :
    entry = .directory ∧ textFault? (spell rooted (X ++ [n])) = none ∧
      d₀.spot (spell rooted (X ++ [n])) = d₀.spot (spell rooted X) ++ [n] ∧
      d₀.item? (d₀.spot (spell rooted X) ++ [n]) = none ∧
      d.item? (d₀.spot (spell rooted X) ++ [n]) = some .directory := by
  have hhere := h _ List.prefix_rfl
  obtain ⟨hf, hthere⟩ := (stat_eq_ok_iff hd (Path.clean_spell hX)).1 hstat
  rcases missing_cases hd₀ hX h₀ with ⟨reason, hf'⟩ | ⟨_, _, hspot₀, habsent⟩
  · rw [hf] at hf'
    cases hf'
  · rw [spot_congr hhome, hspot₀] at hthere
    rw [hspot₀, habsent, hthere] at hhere
    obtain rfl : entry = .directory := by simpa using hhere
    exact ⟨rfl, hf, hspot₀, habsent, hthere⟩

/-- Directories are made on a grown disk with the same result and by the same change. -/
theorem makeDirsUpTo_grown (hd₀ : d₀.Plain) (hd : d.Plain) (hhome : d.workingDir = d₀.workingDir)
    (hdirs : ∀ P, d₀.item? P = some .directory → d.item? P = some .directory)
    (hX : Normal rooted X) {levels : Nat} (hlevels : X.length ≤ levels)
    (h : Grown d₀ d (d₀.spot (spell rooted X))) :
    (makeDirsUpTo levels d (spell rooted X)).1 = (makeDirsUpTo levels d₀ (spell rooted X)).1 ∧
      Carried d₀ (makeDirsUpTo levels d₀ (spell rooted X)).2 d
        (makeDirsUpTo levels d (spell rooted X)).2 := by
  induction levels generalizing X with
  | zero =>
    obtain rfl : X = [] := List.length_eq_zero_iff.1 (Nat.le_zero.1 hlevels)
    rw [makeDirsUpTo_nil hd, makeDirsUpTo_nil hd₀]
    exact ⟨rfl, .refl d₀ d⟩
  | succ levels ih =>
    cases hstat₀ : d₀.stat (spell rooted X) with
    | ok e =>
      have hstat := h.stat_eq_ok hd₀ hd hhome hX hstat₀
      cases e with
      | directory =>
        rw [makeDirsUpTo_directory hstat₀, makeDirsUpTo_directory hstat]
        exact ⟨rfl, .refl d₀ d⟩
      | file content =>
        rw [makeDirsUpTo_file hstat₀, makeDirsUpTo_file hstat]
        exact ⟨rfl, .refl d₀ d⟩
      | link target =>
        exact absurd ((stat_eq_ok_iff hd₀ (Path.clean_spell hX)).1 hstat₀).2 hd₀.not_link
    | error f₀ =>
      rcases List.eq_nil_or_concat X with rfl | ⟨X, n, rfl⟩
      · rw [stat_spell_nil hd₀] at hstat₀
        cases hstat₀
      rw [List.concat_eq_append] at hX hstat₀ hlevels h ⊢
      have hnormal := (Normal.of_concat hX).1
      have hle : X.length ≤ levels := by simpa using hlevels
      have hmade₀ := madeAlong_makeDirsUpTo hd₀ hnormal hle
      have hmade := madeAlong_makeDirsUpTo hd hnormal hle
      obtain ⟨hresult, hcarried⟩ := ih hnormal hle (h.of_concat hd₀ hdirs hX)
      rw [makeDirsUpTo_concat hd₀ hX hstat₀]
      cases hstat : d.stat (spell rooted (X ++ [n])) with
      | error f =>
        rw [makeDirsUpTo_concat hd hX hstat]
        generalize makeDirsUpTo levels d₀ (spell rooted X) = made₀ at hmade₀ hresult hcarried ⊢
        generalize makeDirsUpTo levels d (spell rooted X) = made at hmade hresult hcarried ⊢
        obtain ⟨result₀, e₀⟩ := made₀
        obtain ⟨result, e⟩ := made
        obtain rfl : result = result₀ := hresult
        cases result with
        | error f => exact ⟨rfl, hcarried⟩
        | ok => exact makeLast_carried hd₀ hd hhome hX hstat₀ hstat hmade₀ hmade hcarried
      | ok entry =>
        -- the others have made it by now, and all above it
        obtain ⟨rfl, hf, hspot₀, habsent, hthere⟩ := h.caughtUp hd₀ hd hhome hX hstat₀ hstat
        have habove : d.item? (d.spot (spell rooted X)) = some .directory :=
          spot_congr hhome (spell rooted X) ▸ hd.above hthere
        rw [makeDirsUpTo_there hd hnormal hle (textFault?_above hf) habove] at hresult hcarried
        rw [makeDirsUpTo_directory hstat]
        generalize makeDirsUpTo levels d₀ (spell rooted X) = made₀ at hmade₀ hresult hcarried ⊢
        obtain ⟨result₀, e₀⟩ := made₀
        obtain rfl : result₀ = .ok () := hresult.symm
        obtain ⟨hok, hlast⟩ :=
          makeLast_caughtUp hd hf (Path.clean_spell hX) hspot₀ habsent hthere hmade₀ hcarried
        exact ⟨hok.symm, hlast⟩

end

/-! ## Clean paths -/

section

variable {d₀ d : Disk} {path : Bytes}

theorem madeAlong_makeDirs (hd : d.Plain) (hp : Path.clean path = path) :
    MadeAlong d (d.makeDirs path).2 (d.spot path) (d.makeDirs path).1 := by
  have hnormal := Path.normal_segments path
  have hlen := length_le_spell hnormal
  have hspell : spell (Path.isAbsolute path) (Path.segments path) = path := hp
  have h := madeAlong_makeDirsUpTo hd hnormal hlen
  rwa [hspell] at h

theorem makeDirs_grown (hd₀ : d₀.Plain) (hd : d.Plain) (hhome : d.workingDir = d₀.workingDir)
    (hdirs : ∀ P, d₀.item? P = some .directory → d.item? P = some .directory)
    (hp : Path.clean path = path) (h : Grown d₀ d (d₀.spot path)) :
    (d.makeDirs path).1 = (d₀.makeDirs path).1 ∧
      Carried d₀ (d₀.makeDirs path).2 d (d.makeDirs path).2 := by
  have hnormal := Path.normal_segments path
  have hlen := length_le_spell hnormal
  have hspell : spell (Path.isAbsolute path) (Path.segments path) = path := hp
  rw [← hspell] at h
  have h := makeDirsUpTo_grown hd₀ hd hhome hdirs hnormal hlen h
  rwa [hspell] at h

variable {S : List Bytes} {n content : Bytes}

theorem store_eq (hd : d.Plain) (hp : Path.clean path = path) (hspot : d.spot path = S ++ [n])
    (hdir : d.item? S = some .directory) :
    d.store path content = match textFault? path with
      | some reason => .error ⟨"open", path, reason⟩
      | none =>
        match d.item? (S ++ [n]) with
        | some .directory => .error ⟨"open", path, .isDirectory⟩
        | some _ => .ok (d.put (S ++ [n]) (.file content))
        | none =>
          if maxName < n.length then .error ⟨"open", path, .nameTooLong⟩
          else .ok (d.put (S ++ [n]) (.file content)) := by
  cases hf : textFault? path with
  | some reason => simp [store, locate_fault hd hp hf]
  | none =>
    cases he : d.item? (S ++ [n]) with
    | none =>
      by_cases hlen : maxName < n.length <;>
        simp [store, locate_vacant hd hp hf hspot hdir he, hlen]
    | some e =>
      have hthere : d.locate true path = .ok (.found (d.spot path) e) :=
        locate_there hd hp hf (hspot ▸ he)
      cases e with
      | directory => simp [store, hthere]
      | file old => simp [store, hthere, hspot]
      | link target => exact absurd he hd.not_link

/-- A file that could be written stands in its directory, and nothing else has changed. -/
theorem Plain.store (hd : d.Plain) (hp : Path.clean path = path) (hspot : d.spot path = S ++ [n])
    (hdir : d.item? S = some .directory) {e : Disk} (h : d.store path content = .ok e) :
    e = d.put (S ++ [n]) (.file content) ∧ e.Plain ∧ textFault? path = none := by
  have hmem : n ∈ d.spot path := by rw [hspot]; simp
  have hn : IsName n := spot_isName n hmem
  have hput (hlen : n.length ≤ maxName) (hfile : d.item? (S ++ [n]) ≠ some .directory) :
      (d.put (S ++ [n]) (.file content)).Plain :=
    hd.put hdir ⟨hn, hlen⟩ (by simp) (.inr hfile)
  rw [store_eq hd hp hspot hdir] at h
  split at h
  · cases h
  · rename_i hf
    split at h
    · cases h
    · rename_i entry hne he
      cases h
      exact ⟨rfl, hput (hd.isName he (by simp)).2 (by rw [he]; simpa using hne), hf⟩
    · rename_i habsent
      split at h
      · cases h
      · rename_i hlen
        cases h
        exact ⟨rfl, hput (Nat.not_lt.1 hlen) (by simp [habsent]), hf⟩

theorem Plain.not_directory (hd : d.Plain) (hp : Path.clean path = path)
    (hspot : d.spot path = S ++ [n]) (hdir : d.item? S = some .directory) {e : Disk}
    (h : d.store path content = .ok e) : d.item? (S ++ [n]) ≠ some .directory := by
  intro hthere
  rw [store_eq hd hp hspot hdir, hthere] at h
  split at h <;> cases h

theorem Plain.store_directories (hd : d.Plain) (hp : Path.clean path = path)
    (hspot : d.spot path = S ++ [n]) (hdir : d.item? S = some .directory) {e : Disk}
    (h : d.store path content = .ok e) (Z : List Bytes) (hZ : d.item? Z = some .directory) :
    e.item? Z = some .directory := by
  have hne : Z ≠ S ++ [n] := by
    rintro rfl
    exact hd.not_directory hp hspot hdir h hZ
  rw [(hd.store hp hspot hdir h).1, item?_put d (by simp), if_neg hne, hZ]

/-- A file is written to another disk with the same result and by the same change, if its directory
is there and the file is the same. -/
theorem store_carried (content : Bytes) (hd₀ : d₀.Plain) (hd : d.Plain)
    (hhome : d.workingDir = d₀.workingDir)
    (hp : Path.clean path = path) (hspot : d₀.spot path = S ++ [n])
    (hdir₀ : d₀.item? S = some .directory) (hdir : d.item? S = some .directory)
    (hown : d.item? (S ++ [n]) = d₀.item? (S ++ [n])) :
    (∃ f, d₀.store path content = .error f ∧ d.store path content = .error f) ∨
      ∃ e₀ e, d₀.store path content = .ok e₀ ∧ d.store path content = .ok e ∧
        Carried d₀ e₀ d e := by
  have hne : S ++ [n] ≠ [] := by simp
  have hcarried : Carried d₀ (d₀.put (S ++ [n]) (.file content)) d
      (d.put (S ++ [n]) (.file content)) := (Carried.refl d₀ d).put hne hown.symm
  rw [store_eq hd₀ hp hspot hdir₀, store_eq hd hp ((spot_congr hhome path).trans hspot) hdir, hown]
  split
  · exact .inl ⟨_, rfl, rfl⟩
  · split
    · exact .inl ⟨_, rfl, rfl⟩
    · exact .inr ⟨_, _, rfl, rfl, hcarried⟩
    · split
      · exact .inl ⟨_, rfl, rfl⟩
      · exact .inr ⟨_, _, rfl, rfl, hcarried⟩

end

/-! ## Reading -/

section

variable {d₀ d : Disk} {here names : List Bytes}

/-- Nothing was there, and there are only directories now: nothing is found, whatever was made. -/
theorem reach_missing (hlen : ∀ n ∈ names, n.length ≤ maxName)
    (h : ∀ P, P <+: names → P ≠ [] → d.item? (here ++ P) = none ∨
      d.item? (here ++ P) = some .directory)
    (hend : d.item? (here ++ names) = none) (hne : names ≠ []) :
    d.reach here names = .error .notFound ∨
      ∃ S slash, d.reach here names = .ok (.vacant S slash) := by
  induction names generalizing here with
  | nil => exact absurd rfl hne
  | cons n rest ih =>
    have hsplit : here ++ n :: rest = (here ++ [n]) ++ rest := by simp
    rw [reach, if_neg (Nat.not_lt.2 (hlen n List.mem_cons_self))]
    rcases h [n] (by simp) (by simp) with hnone | hdir
    · rw [hnone]
      by_cases hr : rest = []
      · exact .inr ⟨here ++ [n], false, by simp [hr]⟩
      · exact .inl (by simp [hr])
    · rw [hdir]
      rw [hsplit] at hend
      refine ih (fun m hm => hlen m (List.mem_cons_of_mem _ hm)) (fun P hP _ => ?_) hend ?_
      · have := h (n :: P) (by simpa using hP) (by simp)
        simpa using this
      · rintro rfl
        rw [List.append_nil, hdir] at hend
        cases hend

/-- What names lead to where directories may have been made, if nothing but directories was. -/
theorem reach_grown (hd₀ : d₀.Plain)
    (h : ∀ P, P <+: names → P ≠ [] → d.item? (here ++ P) = d₀.item? (here ++ P) ∨
      d₀.item? (here ++ P) = none ∧ d.item? (here ++ P) = some .directory)
    (hend : d.item? (here ++ names) = d₀.item? (here ++ names))
    (hfits : (∀ n ∈ names, n.length ≤ maxName) ∨
      ∀ P, P <+: names → d.item? (here ++ P) = d₀.item? (here ++ P)) :
    d.reach here names = d₀.reach here names ∨ d₀.reach here names = .error .notFound ∧
      (d.reach here names = .error .notFound ∨
        ∃ S slash, d.reach here names = .ok (.vacant S slash)) := by
  induction names generalizing here with
  | nil => exact .inl rfl
  | cons n rest ih =>
    have hsplit : here ++ n :: rest = (here ++ [n]) ++ rest := by simp
    have hrest {P : List Bytes} (hP : P <+: rest) : n :: P <+: n :: rest := by simpa using hP
    by_cases hlong : maxName < n.length
    · left
      rw [reach, reach, if_pos hlong, if_pos hlong]
    rcases h [n] (by simp) (by simp) with heq | ⟨hnone, hdir⟩
    · rw [reach, reach, if_neg hlong, if_neg hlong, heq]
      split
      · exact .inl rfl
      · rw [hsplit] at hend
        refine ih (fun P hP _ => ?_) hend ?_
        · simpa using h (n :: P) (hrest hP) (by simp)
        · refine hfits.imp (fun hlen m hm => hlen m (List.mem_cons_of_mem _ hm))
            fun hsame P hP => ?_
          simpa using hsame (n :: P) (hrest hP)
      · exact .inl rfl
    · right
      have hlen : ∀ m ∈ rest, m.length ≤ maxName := by
        rcases hfits with hlen | hsame
        · exact fun m hm => hlen m (List.mem_cons_of_mem _ hm)
        · have := hsame [n] (by simp)
          rw [hnone, hdir] at this
          cases this
      have hr : rest ≠ [] := by
        rintro rfl
        rw [hnone, hdir] at hend
        cases hend
      refine ⟨by rw [reach, if_neg hlong, hnone]; simp [hr], ?_⟩
      rw [reach, if_neg hlong, hdir]
      refine reach_missing hlen (fun P hP hne => ?_) ?_ hr
      · have habsent := hd₀.absent_below hnone P
        rcases h (n :: P) (hrest hP) (by simp) with heq | ⟨_, hdir⟩
        · left
          simpa [heq] using habsent
        · right
          simpa using hdir
      · rw [← hsplit, hend, hsplit]
        exact hd₀.absent_below hnone rest

/-- A file on a grown disk has the content it had, unless a name that no entry can have is looked up
in a directory that was not there before. -/
theorem contents_grown (hd₀ : d₀.Plain) (hd : d.Plain) (hhome : d.workingDir = d₀.workingDir)
    {path : Bytes} (hp : Path.clean path = path) (h : Grown d₀ d (d₀.spot path))
    (hown : d.item? (d₀.spot path) = d₀.item? (d₀.spot path))
    (hfits : (∀ n ∈ d₀.spot path, n.length ≤ maxName) ∨
      ∀ P, P <+: d₀.spot path → d.item? P = d₀.item? P) :
    d.contents path = d₀.contents path := by
  unfold contents
  rw [locate_clean hd hp, locate_clean hd₀ hp, spot_congr hhome path]
  cases textFault? path with
  | some reason => rfl
  | none =>
    dsimp only
    have hreach := @reach_grown d₀ d [] (d₀.spot path) hd₀ (fun P hP _ => h P hP) hown hfits
    rcases hreach with heq | ⟨hmissing, hd | ⟨S, slash, hd⟩⟩
    · rw [heq]
    · rw [hmissing, hd]
    · rw [hmissing, hd]

end

end Graft.Disk
