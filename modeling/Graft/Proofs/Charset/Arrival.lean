import Graft.Charset.Decode
import Mathlib.Data.List.Basic

/-!
# Graft.Proofs.Charset.Arrival

What a text can be taken for. The measures of the charsets arrive in any order, so any of the best
ones can win; a text that all of them read alike is decoded in one way only.

* `candidates`: the charsets of the best measures.
* `Detector.favoring`: the measures of one charset arrive before the others.
* `mem_candidates_iff`: a charset is a candidate if and only if some order makes it win.
* `Settled`, `settled_iff`: texts that no order decodes differently.
* `measures_le`: a measure is at most 100, so that two measures of 100 tie.
-/

namespace Graft.Charset

/-- A measure that none is higher than. -/
def IsBest (measured : List (String × Nat)) (m : String × Nat) : Prop :=
  m ∈ measured ∧ 0 < m.2 ∧ ∀ other ∈ measured, other.2 ≤ m.2

instance (measured : List (String × Nat)) (m : String × Nat) : Decidable (IsBest measured m) :=
  inferInstanceAs (Decidable (_ ∧ _))

/-- The charsets of the best measures; a text that fits no charset is taken for UTF-8. -/
def candidates (measured : List (String × Nat)) : List String :=
  match measured.filter fun m => IsBest measured m with
  | [] => ["utf-8"]
  | best => best.map Prod.fst

section

variable {measured arrived : List (String × Nat)} {name : String}

theorem mem_candidates : name ∈ candidates measured ↔
    (∃ n, IsBest measured (name, n)) ∨ name = "utf-8" ∧ ∀ m, ¬ IsBest measured m := by
  have hfilter (m : String × Nat) :
      m ∈ (measured.filter fun m => IsBest measured m) ↔ IsBest measured m := by
    rw [List.mem_filter, decide_eq_true_iff]
    exact ⟨And.right, fun h => ⟨h.1, h⟩⟩
  unfold candidates
  split
  · rename_i hnone
    have hnot (m : String × Nat) : ¬ IsBest measured m := by
      rw [← hfilter, hnone]
      exact List.not_mem_nil
    simp only [List.mem_singleton, hnot, exists_false, false_or, not_false_iff, implies_true,
      and_true]
  · rename_i hsome
    obtain ⟨m, hm⟩ := List.exists_mem_of_ne_nil _ hsome
    rw [List.mem_map]
    constructor
    · rintro ⟨best, hbest, rfl⟩
      exact .inl ⟨best.2, (hfilter best).1 hbest⟩
    · rintro (⟨n, hn⟩ | ⟨_, hnone⟩)
      · exact ⟨_, (hfilter _).2 hn, rfl⟩
      · exact absurd ((hfilter m).1 hm) (hnone m)

theorem IsBest.of_perm {m : String × Nat} (h : arrived.Perm measured) (hm : IsBest arrived m) :
    IsBest measured m :=
  ⟨h.mem_iff.1 hm.1, hm.2.1, fun other hother => hm.2.2 other (h.mem_iff.2 hother)⟩

/-- What is left of measures is the highest of them, unless the one before is as high. -/
theorem foldl_better (arrived : List (String × Nat)) (before : String × Nat) :
    (arrived.foldl better before = before ∨
      arrived.foldl better before ∈ arrived ∧ before.2 < (arrived.foldl better before).2) ∧
    before.2 ≤ (arrived.foldl better before).2 ∧
      ∀ m ∈ arrived, m.2 ≤ (arrived.foldl better before).2 := by
  induction arrived generalizing before with
  | nil => exact ⟨.inl rfl, Nat.le_refl _, fun m hm => nomatch hm⟩
  | cons first arrived ih =>
    rw [List.foldl_cons]
    by_cases hfirst : before.2 < first.2
    · rw [better, if_pos hfirst]
      obtain ⟨hcases, hle, hall⟩ := ih first
      refine ⟨.inr ⟨?_, Nat.lt_of_lt_of_le hfirst hle⟩, Nat.le_trans (Nat.le_of_lt hfirst) hle,
        List.forall_mem_cons.2 ⟨hle, hall⟩⟩
      rcases hcases with heq | ⟨hmem, _⟩
      · rw [heq]
        exact List.mem_cons_self
      · exact List.mem_cons_of_mem _ hmem
    · rw [better, if_neg hfirst]
      obtain ⟨hcases, hle, hall⟩ := ih before
      exact ⟨hcases.imp_right fun h => ⟨List.mem_cons_of_mem _ h.1, h.2⟩, hle,
        List.forall_mem_cons.2 ⟨Nat.le_trans (Nat.not_lt.1 hfirst) hle, hall⟩⟩

theorem winner_mem_candidates (h : arrived.Perm measured) :
    winner arrived ∈ candidates measured := by
  obtain ⟨hcases, -, hall⟩ := foldl_better arrived ("utf-8", 0)
  rw [mem_candidates, winner]
  rcases hcases with heq | ⟨hmem, hpos⟩
  · rw [heq] at hall ⊢
    exact .inr ⟨rfl, fun m hm => absurd hm.2.1 (Nat.not_lt.2 (hall m (h.mem_iff.2 hm.1)))⟩
  · exact .inl ⟨_, IsBest.of_perm h ⟨hmem, hpos, hall⟩⟩

end

/-! ## Orders of arrival -/

/-- The measures of one charset arrive before the others. -/
def Detector.favoring (name : String) : Detector where
  arrived s := (measures s).filter (·.1 = name) ++ (measures s).filter fun m => !decide (m.1 = name)
  complete _ := List.filter_append_perm _ _

section

variable {s : Bytes} {name : String}

theorem Detector.detect_mem (D : Detector) (s : Bytes) : D.detect s ∈ candidates (measures s) :=
  winner_mem_candidates (D.complete s)

/-- A candidate wins if its measures arrive first. -/
theorem detect_favoring (h : name ∈ candidates (measures s)) :
    (Detector.favoring name).detect s = name := by
  rcases mem_candidates.1 h with ⟨n, hmem, hpos, hbest⟩ | ⟨rfl, hnone⟩
  · rw [Detector.detect, winner, Detector.favoring, List.foldl_append]
    obtain ⟨hown, -, hall⟩ := foldl_better ((measures s).filter (·.1 = name)) ("utf-8", 0)
    obtain ⟨hlast, -, -⟩ := foldl_better ((measures s).filter fun m => !decide (m.1 = name))
      (((measures s).filter (·.1 = name)).foldl better ("utf-8", 0))
    have hle := hall (name, n) (List.mem_filter.2 ⟨hmem, decide_eq_true rfl⟩)
    rcases hlast with heq | ⟨hother, hlt⟩
    · rw [heq]
      rcases hown with hinit | ⟨hown, -⟩
      · rw [hinit] at hle
        exact absurd hpos (Nat.not_lt.2 hle)
      · exact of_decide_eq_true (List.mem_filter.1 hown).2
    · have hhigher := Nat.lt_of_le_of_lt hle hlt
      exact absurd (hbest _ (List.mem_filter.1 hother).1) (Nat.not_le.2 hhigher)
  · rcases mem_candidates.1 ((Detector.favoring "utf-8").detect_mem s) with ⟨n, hn⟩ | ⟨heq, -⟩
    · exact absurd hn (hnone _)
    · exact heq

theorem mem_candidates_iff :
    name ∈ candidates (measures s) ↔ ∃ D : Detector, D.detect s = name := by
  refine ⟨fun h => ⟨_, detect_favoring h⟩, ?_⟩
  rintro ⟨D, rfl⟩
  exact D.detect_mem s

/-! ## Texts that are decoded in one way -/

theorem decode_favoring (hinvalid : Utf8.isValid s = false) (h : name ∈ candidates (measures s)) :
    (Detector.favoring name).decode s = decodeAs name s := by
  rw [Detector.decode, hinvalid, if_neg Bool.false_ne_true, detect_favoring h]

/-- Every charset that the text can be taken for reads it alike. -/
def Settled (s : Bytes) : Prop :=
  Utf8.isValid s = true ∨ ∀ a ∈ candidates (measures s), ∀ b ∈ candidates (measures s),
    decodeAs a s = decodeAs b s

instance (s : Bytes) : Decidable (Settled s) := inferInstanceAs (Decidable (_ ∨ _))

theorem settled_iff : Settled s ↔ ∀ D D' : Detector, D.decode s = D'.decode s := by
  refine ⟨fun h D D' => ?_, fun h => ?_⟩
  · rw [Detector.decode, Detector.decode]
    split
    · rfl
    · rename_i hinvalid
      exact h.resolve_left hinvalid _ (D.detect_mem s) _ (D'.detect_mem s)
  · cases hvalid : Utf8.isValid s with
    | true => exact .inl hvalid
    | false =>
      refine .inr fun a ha b hb => ?_
      rw [← decode_favoring hvalid ha, ← decode_favoring hvalid hb]
      exact h _ _

end

/-! ## How high a measure can be -/

section

variable {s : Bytes} {name : String}

theorem Fit.confidence_le (f : Fit) (marked : Bool) : f.confidence marked ≤ 100 := by
  unfold Fit.confidence
  repeat' split
  all_goals decide

theorem utf8Confidence_le (s : Bytes) : utf8Confidence s ≤ 100 := by
  unfold utf8Confidence
  dsimp only
  split
  · decide
  · exact Fit.confidence_le _ _

theorem Candidate.confidence_le (c : Candidate) (s : Bytes) : c.confidence s ≤ 100 := by
  unfold Candidate.confidence
  dsimp only
  split
  · decide
  · refine Nat.div_le_of_le_mul ?_
    omega

theorem DoubleByte.Tally.confidence_le (t : Tally) : t.confidence ≤ 100 := by
  unfold Tally.confidence
  repeat' split
  · decide
  · decide
  · decide
  · exact Nat.min_le_left _ _

theorem DoubleByte.confidence_le (c : DoubleByte) (s : Bytes) : c.confidence s ≤ 100 := by
  unfold DoubleByte.confidence
  cases tally? c {} (unitsFrom c 0 s).dropLast with
  | none => exact Nat.zero_le _
  | some t => exact Tally.confidence_le t

theorem switchConfidence_le (escapes : List String) (s : Bytes) :
    switchConfidence escapes s ≤ 100 := by
  unfold switchConfidence
  dsimp only
  split
  · decide
  · refine Nat.le_trans (Nat.sub_le _ _) (Nat.div_le_of_le_mul ?_)
    omega

theorem measures_le {m : String × Nat} (h : m ∈ measures s) : m.2 ≤ 100 := by
  simp only [measures, List.mem_append, List.mem_cons, List.mem_map, List.not_mem_nil,
    or_false] at h
  obtain (((h | ⟨c, -, rfl⟩) | ⟨c, -, rfl⟩) | ⟨c, -, rfl⟩) | h := h
  · rcases h with rfl | rfl | rfl | rfl | rfl
    · exact utf8Confidence_le s
    · unfold utf16beConfidence
      split <;> decide
    · unfold utf16leConfidence
      split <;> decide
    · exact Fit.confidence_le _ _
    · exact Fit.confidence_le _ _
  · exact c.confidence_le s
  · exact c.confidence_le s
  · exact c.confidence_le s
  · rcases h with rfl | rfl | rfl <;> exact switchConfidence_le _ s

theorem mem_candidates_of_measure (h : (name, 100) ∈ measures s) : name ∈ candidates (measures s) :=
  mem_candidates.2 (.inl ⟨100, h, Nat.zero_lt_succ 99, fun _ => measures_le⟩)

end

/-- A tag in UTF-8, but for one character that is longer than it has to be, behind the escape
sequences of another charset. -/
def tied : Bytes := ("\x1B(B\x1B(B\x1B(B\x1B(B\x1B(B<aééé" : Bytes) ++ [0xC0, 0x80, 0x3E]

theorem candidates_tied :
    "utf-8" ∈ candidates (measures tied) ∧ "iso-2022-jp" ∈ candidates (measures tied) := by
  have hutf8 : utf8Confidence tied = 100 := by decide +kernel
  have hswitch : switchConfidence japaneseEscapes tied = 100 := by decide +kernel
  constructor <;> refine mem_candidates_of_measure ?_
  · rw [← hutf8]
    simp only [measures, List.mem_append, List.mem_cons, true_or]
  · rw [← hswitch]
    simp only [measures, List.mem_append, List.mem_cons, true_or, or_true]

theorem decodeAs_tied :
    decodeAs "utf-8" tied = ("\x1B(B\x1B(B\x1B(B\x1B(B\x1B(B<aééé\uFFFD\uFFFD>" : Bytes) ∧
    decodeAs "iso-2022-jp" tied =
      ("<a\uFFFD\uFFFD\uFFFD\uFFFD\uFFFD\uFFFD\uFFFD\uFFFD>" : Bytes) := by
  decide +kernel

end Graft.Charset
