import Graft.Proofs.Markup.Scanned

/-!
# Graft.Proofs.Markup.Run

Runs of the scanner.

* `Steps m s ts m' s'`: reading `ts` at `s` leads to `s'`.
* `tokensFrom_of_steps`, `steps_tokensFrom`: runs and the tokens of a source.
* `EndsInRaw`: a run that ends in the content of a raw element.
* `Steps.reread`, `Steps.swap`: a run in front of another source.
* `Steps.prepend_markup`, `Steps.prepend_raw`: a run behind a text without `<`.
-/

namespace Graft.Markup

open Bytes

/-- The slices of tokens, one after the other. -/
def slices (ts : List Token) : Bytes := ts.flatMap Token.raw

theorem slices_nil : slices [] = [] := rfl

theorem slices_cons (t : Token) (ts : List Token) : slices (t :: ts) = t.raw ++ slices ts := rfl

theorem slices_append (ts us : List Token) : slices (ts ++ us) = slices ts ++ slices us :=
  List.flatMap_append

/-- Reading tokens one after the other. -/
inductive Steps : Mode → Bytes → List Token → Mode → Bytes → Prop where
  | refl {mode : Mode} {s : Bytes} : Steps mode s [] mode s
  | cons {mode mode' : Mode} {s rest s' : Bytes} {t : Token} {ts : List Token} :
      scan mode s = .token t rest → Steps t.mode rest ts mode' s' → Steps mode s (t :: ts) mode' s'

namespace Steps

variable {m m' m'' : Mode} {s s' s'' : Bytes} {t : Token} {ts us : List Token}

theorem single (h : scan m s = .token t s') : Steps m s [t] t.mode s' := .cons h .refl

theorem of_scanMarkup (h : scanMarkup s = .token t s') (hm : t.mode = .markup) :
    Steps .markup s [t] .markup s' := by
  have hs := single (m := .markup) h
  rwa [hm] at hs

theorem trans (h₁ : Steps m s ts m' s') (h₂ : Steps m' s' us m'' s'') :
    Steps m s (ts ++ us) m'' s'' := by
  induction h₁ with
  | refl => exact h₂
  | cons hs _ ih => exact .cons hs (ih h₂)

theorem split (h : Steps m s (ts ++ us) m'' s'') :
    ∃ m' s', Steps m s ts m' s' ∧ Steps m' s' us m'' s'' := by
  induction ts generalizing m s with
  | nil => exact ⟨m, s, .refl, h⟩
  | cons t ts ih =>
    cases h with
    | cons hs hrest =>
      obtain ⟨m', s', h₁, h₂⟩ := ih hrest
      exact ⟨m', s', .cons hs h₁, h₂⟩

theorem append (h : Steps m s ts m' s') : slices ts ++ s' = s := by
  induction h with
  | refl => rfl
  | cons hs _ ih => rw [slices_cons, List.append_assoc, ih, scan_append hs]

theorem cases_cons (h : Steps m s (t :: ts) m' s') :
    scan m (t.raw ++ (slices ts ++ s')) = .token t (slices ts ++ s') ∧
      Steps t.mode (slices ts ++ s') ts m' s' := by
  cases h with
  | cons hs hrest =>
    have happ := scan_append hs
    have hr := hrest.append
    subst hr
    rw [happ]
    exact ⟨hs, hrest⟩

end Steps

theorem tokensFrom_of_token {mode : Mode} {s rest : Bytes} {t : Token}
    (h : scan mode s = .token t rest) : tokensFrom mode s = t :: tokensFrom t.mode rest := by
  rw [tokensFrom]
  split
  · rename_i hs; rw [h] at hs; cases hs
  · rename_i hs; rw [h] at hs; cases hs; rfl

theorem tokensFrom_of_finished {mode : Mode} {s rest : Bytes} (h : scan mode s = .finished rest) :
    tokensFrom mode s = [] := by
  rw [tokensFrom]
  split
  · rfl
  · rename_i hs; rw [h] at hs; cases hs

theorem tailFrom_of_token {mode : Mode} {s rest : Bytes} {t : Token}
    (h : scan mode s = .token t rest) : tailFrom mode s = tailFrom t.mode rest := by
  rw [tailFrom]
  split
  · rename_i hs; rw [h] at hs; cases hs
  · rename_i hs; rw [h] at hs; cases hs; rfl

theorem tokensFrom_of_steps {m m' : Mode} {s s' : Bytes} {ts : List Token}
    (h : Steps m s ts m' s') : tokensFrom m s = ts ++ tokensFrom m' s' := by
  induction h with
  | refl => rfl
  | cons hs _ ih => rw [tokensFrom_of_token hs, ih, List.cons_append]

theorem tokensFrom_nil (mode : Mode) : tokensFrom mode [] = [] := by
  refine tokensFrom_of_finished (?_ : scan mode [] = .finished [])
  cases mode with
  | markup => rfl
  | raw element =>
    have h := contentRest_suffix element []
    rw [List.suffix_nil] at h
    rw [scan, h]
    rfl

theorem scan_finished {mode : Mode} {s rest : Bytes} (h : scan mode s = .finished rest) :
    rest = s := by
  have markup (h : scanMarkup s = .finished rest) : rest = s := by
    unfold scanMarkup at h
    split at h
    · cases h; rfl
    split at h
    · split at h
      · cases h
      · cases h; rfl
    · cases h
  cases mode with
  | markup => exact markup h
  | raw element =>
    unfold scan at h
    dsimp only at h
    split at h
    · exact markup h
    · cases h

theorem tailFrom_of_finished {mode : Mode} {s rest : Bytes} (h : scan mode s = .finished rest) :
    tailFrom mode s = s := by
  rw [tailFrom]
  split
  · rename_i hs
    exact scan_finished hs
  · rename_i hs; rw [h] at hs; cases hs

theorem steps_tokensFrom (mode : Mode) (s : Bytes) :
    ∃ mode', Steps mode s (tokensFrom mode s) mode' (tailFrom mode s) := by
  fun_induction tokensFrom mode s with
  | case1 mode s tail h =>
    rw [tailFrom_of_finished h]
    exact ⟨mode, .refl⟩
  | case2 mode s t rest h ih =>
    obtain ⟨mode', ih⟩ := ih
    rw [tailFrom_of_token h]
    exact ⟨mode', .cons h ih⟩

theorem slices_tokens (s : Bytes) : slices (tokens s) ++ tail s = s := by
  obtain ⟨mode, h⟩ := steps_tokensFrom .markup s
  exact h.append

/-! ## Runs in front of another source -/

/-- A run that starts in a mode and ends in the content of a raw element. -/
def EndsInRaw (element : RawElement) : Mode → List Token → Prop
  | mode, [] => mode = .raw element
  | mode, t :: ts =>
    (mode = .raw element ∧ ts = [] ∧ ∃ data, t.kind = .text data) ∨ EndsInRaw element t.mode ts

/-- The same slices with the same tags. Only a comment may read differently. -/
inductive AgreeAll (y : Bytes) : List Token → List Token → Prop where
  | nil : AgreeAll y [] []
  | cons {t : Token} {kind : Token.Kind} {ts ts' : List Token} :
      AgreeBefore y t.kind kind → AgreeAll y ts ts' → AgreeAll y (t :: ts) (⟨t.raw, kind⟩ :: ts')

/-- The same tokens, but for a `<!>` at the very end. -/
def RereadAll (y : Bytes) (ts ts' : List Token) : Prop :=
  ts' = ts ∨ y = [] ∧ ∃ front, ts = front ++ [⟨[Byte.lt, Byte.bang, Byte.gt], .comment []⟩] ∧
    ts' = front ++ [⟨[Byte.lt, Byte.bang, Byte.gt], .comment [Byte.gt]⟩]

theorem AgreeBefore.mode_eq {y : Bytes} {t : Token} {kind : Token.Kind}
    (h : AgreeBefore y t.kind kind) : Token.mode ⟨t.raw, kind⟩ = t.mode := by
  rcases h with rfl | ⟨_, data, data', hk, rfl⟩
  · rfl
  · rw [Token.mode, Token.mode, hk]

theorem Reread.agreeBefore {f y : Bytes} {kind kind' : Token.Kind} (h : Reread f y kind kind') :
    AgreeBefore y kind kind' := by
  rcases h with h | ⟨hnil, _, hk, hk'⟩
  · exact .inl h
  · refine .inr ⟨hnil, [], [Byte.gt], hk, ?_⟩
    rw [hk']
    decide +kernel

theorem agreeAll_refl (y : Bytes) (ts : List Token) : AgreeAll y ts ts := by
  induction ts with
  | nil => exact .nil
  | cons t ts ih => exact .cons (.inl rfl) ih

theorem RereadAll.cons {y : Bytes} {ts ts' : List Token} (h : RereadAll y ts ts') (t : Token) :
    RereadAll y (t :: ts) (t :: ts') := by
  rcases h with rfl | ⟨hnil, front, rfl, rfl⟩
  · exact .inl rfl
  · exact .inr ⟨hnil, t :: front, rfl, rfl⟩

theorem RereadAll.agreeAll {y : Bytes} {ts ts' : List Token} (h : RereadAll y ts ts') :
    AgreeAll y ts ts' := by
  rcases h with rfl | ⟨hnil, front, rfl, rfl⟩
  · exact agreeAll_refl y ts'
  · induction front with
    | nil => exact .cons (Reread.agreeBefore (.inr ⟨hnil, rfl, rfl, rfl⟩)) .nil
    | cons t front ih => exact .cons (.inl rfl) ih

theorem AgreeAll.eq {y : Bytes} (hy : y ≠ []) {ts ts' : List Token} (h : AgreeAll y ts ts') :
    ts' = ts := by
  induction h with
  | nil => rfl
  | cons hk _ ih => rw [ih, hk.resolve_right fun h => hy h.1]

theorem startsMarkup_append_swap {f x y : Bytes} (hx : Stops x)
    (hxy : startsMarkup x = true → y = [] ∨ startsMarkup y = true)
    (h : startsMarkup (f ++ x) = true) : f ++ y = [] ∨ startsMarkup (f ++ y) = true := by
  match f with
  | [] => exact hxy h
  | [c] => rw [List.singleton_append, startsMarkup_stop c hx] at h; cases h
  | c :: d :: f => exact .inr h

theorem startsRawEnd_append_swap {name f x y : Bytes} (hn : Byte.lt ∉ name) (hx : Stops x)
    (hy : Stops y) (hf : f ≠ []) (h : startsRawEnd name (f ++ x) = true) :
    startsRawEnd name (f ++ y) = true := by
  obtain ⟨c, f, rfl⟩ := List.exists_cons_of_ne_nil hf
  rw [startsRawEnd_append_stop hn hx] at h
  rw [startsRawEnd_append_stop hn hy, h]

/-- A run in front of `x` is a run in front of `y`, if `y` ends the last text as `x` does. -/
theorem Steps.reread {m m' : Mode} {ts : List Token} {s x y : Bytes} (h : Steps m s ts m' x)
    (hx : x ≠ []) (hsx : Stops x) (hsy : Stops y)
    (hm : startsMarkup x = true → y = [] ∨ startsMarkup y = true)
    (hr : ∀ element, EndsInRaw element m ts → startsRawEnd element.name x = true →
      y = [] ∨ startsRawEnd element.name y = true) :
    ∃ ts', Steps m (slices ts ++ y) ts' m' y ∧ RereadAll y ts ts' := by
  have nil_of_slices {ts : List Token} {m : Mode} {s : Bytes} (h : Steps m s ts m' x)
      (hf : slices ts = []) : ts = [] := by
    cases ts with
    | nil => rfl
    | cons t ts =>
      rw [slices_cons] at hf
      exact absurd (List.append_eq_nil_iff.1 hf).1 (scan_raw_ne_nil h.cases_cons.1)
  induction ts generalizing m s with
  | nil =>
    cases h
    exact ⟨[], .refl, .inl rfl⟩
  | cons t ts ih =>
    obtain ⟨hscan, hrest⟩ := h.cases_cons
    have hne : slices ts ++ x ≠ [] := fun hnil => hx (List.append_eq_nil_iff.1 hnil).2
    obtain ⟨kind, hscan', hk⟩ := scan_swap (v := slices ts ++ y) hscan hne
      (startsMarkup_append_swap hsx hm) (by
        intro element data hmode hdata hend
        by_cases hf : slices ts = []
        · rw [hf, List.nil_append] at hend ⊢
          exact hr element (.inl ⟨hmode, nil_of_slices hrest hf, data, hdata⟩) hend
        · exact .inr (startsRawEnd_append_swap element.lt_not_mem_name hsx hsy hf hend))
    obtain ⟨ts', hsteps, hall⟩ := ih hrest fun element he => hr element (.inr he)
    refine ⟨⟨t.raw, kind⟩ :: ts', ?_, ?_⟩
    · rw [slices_cons, List.append_assoc]
      exact .cons hscan' (hk.agreeBefore.mode_eq ▸ hsteps)
    · rcases hk with hk | ⟨hnil, hraw, hkind, hk⟩
      · rw [hk]
        exact hall.cons t
      · obtain ⟨hf, hy⟩ := List.append_eq_nil_iff.1 hnil
        obtain rfl := nil_of_slices hrest hf
        have hts' : ts' = [] := by
          rw [hf, hy] at hsteps
          cases hsteps with
          | refl => rfl
          | cons hs _ => exact absurd (scan_length hs) (Nat.not_lt_zero _)
        refine .inr ⟨hy, [], ?_, ?_⟩
        · rw [List.nil_append, ← hraw, ← hkind]
        · rw [List.nil_append, ← hraw, hk, hts']

theorem Steps.swap {m m' : Mode} {ts : List Token} {s x y : Bytes} (h : Steps m s ts m' x)
    (hx : x ≠ []) (hsx : Stops x) (hsy : Stops y)
    (hm : startsMarkup x = true → y = [] ∨ startsMarkup y = true)
    (hr : ∀ element, EndsInRaw element m ts → startsRawEnd element.name x = true →
      y = [] ∨ startsRawEnd element.name y = true) :
    ∃ ts', Steps m (slices ts ++ y) ts' m' y ∧ AgreeAll y ts ts' := by
  obtain ⟨ts', hsteps, hall⟩ := h.reread hx hsx hsy hm hr
  exact ⟨ts', hsteps, hall.agreeAll⟩

/-! ## Runs behind a text -/

theorem scanMarkup_prepend {p u v : Bytes} (hp : Byte.lt ∉ p) (hne : p ≠ [])
    (h : textRest (u ++ v) = v) :
    scanMarkup (p ++ (u ++ v)) = .token ⟨p ++ u, .text (decodeText (p ++ u))⟩ v := by
  have hs : startsMarkup (p ++ u ++ v) = false := by
    obtain ⟨c, p, rfl⟩ := List.exists_cons_of_ne_nil hne
    rw [List.mem_cons, not_or] at hp
    exact startsMarkup_of_ne (Ne.symm hp.1) _
  rw [← List.append_assoc]
  refine scanMarkup_of_text (fun hnil => hne (List.append_eq_nil_iff.1 hnil).1) hs ?_
  rw [List.append_assoc, textRest_prepend hp, h]

theorem scan_prepend {element : RawElement} {p u v : Bytes} (hp : Byte.lt ∉ p) (hne : p ≠ [])
    (h : contentRest element (u ++ v) = v) :
    scan (.raw element) (p ++ (u ++ v)) =
      .token ⟨p ++ u, .text (decodeRaw element (p ++ u))⟩ v := by
  rw [← List.append_assoc]
  refine scan_of_content (fun hnil => hne (List.append_eq_nil_iff.1 hnil).1) ?_
  rw [List.append_assoc, contentRest_prepend hp, h]

/-- The first token of a run behind the text `p`: `p` alone, or `p` with the first text of the
run. -/
inductive Prepended (read : Bytes → Bytes) (p : Bytes) : List Token → List Token → Prop where
  | alone {ts : List Token} : Prepended read p ts (⟨p, .text (read p)⟩ :: ts)
  | merged {t : Token} {ts : List Token} (hk : t.kind = .text (read t.raw)) :
      Prepended read p (t :: ts) (⟨p ++ t.raw, .text (read (p ++ t.raw))⟩ :: ts)

theorem Steps.prepend_markup {m' : Mode} {ts : List Token} {p s x : Bytes}
    (h : Steps .markup s ts m' x) (hp : Byte.lt ∉ p) (hne : p ≠ []) (hx : textRest x = x) :
    ∃ us last, Steps .markup (p ++ s) us last x ∧ Prepended decodeText p ts us ∧
      (last = m' ∨ last = .markup) := by
  have alone (hs : textRest s = s) : scan .markup (p ++ s) = .token ⟨p, .text (decodeText p)⟩ s := by
    have hscan := scanMarkup_prepend (u := []) hp hne hs
    rwa [List.append_nil] at hscan
  cases ts with
  | nil =>
    cases h
    exact ⟨_, _, .single (alone hx), .alone, .inr rfl⟩
  | cons t ts =>
    obtain ⟨hscan, hrest⟩ := h.cases_cons
    have hs : t.raw ++ (slices ts ++ x) = s := by rw [← List.append_assoc, ← slices_cons, h.append]
    by_cases hs' : startsMarkup s = true
    · exact ⟨_, _, .cons (alone (textRest_of_startsMarkup hs')) h, .alone, .inl rfl⟩
    · have htext : textRest (t.raw ++ (slices ts ++ x)) = slices ts ++ x ∧
          t.kind = .text (decodeText t.raw) := by
        rw [hs] at hscan ⊢
        unfold scan scanMarkup at hscan
        dsimp only at hscan
        split at hscan
        · cases hscan
        rw [if_neg hs'] at hscan
        injection hscan with ht hu
        exact ⟨hu, by rw [← ht]⟩
      have hfirst := scanMarkup_prepend hp hne htext.1
      rw [hs] at hfirst
      have hmode : t.mode = .markup := by rw [Token.mode, htext.2]
      rw [hmode] at hrest
      exact ⟨_, _, .cons hfirst hrest, .merged htext.2, .inl rfl⟩

theorem Steps.prepend_raw {element : RawElement} {m' : Mode} {ts : List Token} {p s x : Bytes}
    (h : Steps (.raw element) s ts m' x) (hp : Byte.lt ∉ p) (hne : p ≠ [])
    (hx : ts = [] → contentRest element x = x) :
    ∃ us last, Steps (.raw element) (p ++ s) us last x ∧
      Prepended (decodeRaw element) p ts us ∧ (last = m' ∨ last = .markup) := by
  have alone (hs : contentRest element s = s) :
      scan (.raw element) (p ++ s) = .token ⟨p, .text (decodeRaw element p)⟩ s := by
    have hscan := scan_prepend (u := []) hp hne hs
    rwa [List.append_nil] at hscan
  cases ts with
  | nil =>
    cases h
    exact ⟨_, _, .single (alone (hx rfl)), .alone, .inr rfl⟩
  | cons t ts =>
    obtain ⟨hscan, hrest⟩ := h.cases_cons
    have hs : t.raw ++ (slices ts ++ x) = s := by rw [← List.append_assoc, ← slices_cons, h.append]
    rcases scan_raw_cases hscan with ⟨hc, hk⟩ | ⟨he, name, ht, hn⟩
    · have hfirst := scan_prepend hp hne hc
      rw [hs] at hfirst
      have hmode : t.mode = .markup := by rw [Token.mode, hk]
      rw [hmode] at hrest
      exact ⟨_, _, .cons hfirst hrest, .merged hk, .inl rfl⟩
    · have hend := (ht.startsRawEnd_iff element (slices ts ++ x)).2 hn
      have hscan' := ht.scan (slices ts ++ x)
      rw [hs] at hend hscan'
      exact ⟨_, _, .cons (alone (contentRest_of_startsRawEnd he hend)) (.cons hscan' hrest), .alone,
        .inl rfl⟩

end Graft.Markup
