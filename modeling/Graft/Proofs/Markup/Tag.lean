import Graft.Markup.Tokens
import Graft.Proofs.Text.Case

/-!
# Graft.Proofs.Markup.Tag

Reading tags. A tag ends at its own `>`, so what stands behind it has no part in its reading, and
the second reader of attribute keys finds the keys of the first.

* `ValueRead`: how a value is read behind a key.
* `readAttrs?_extend`, `readAttrs?_cut`: the source behind a tag may be extended and cut off.
* `keysFrom_eq`: both readers find the same keys.
* `IsTagName`, `IsKey`: what names and keys look like.
* `OpenTag`, `CloseTag`: a tag with its parts as written.
-/

namespace Graft

/-! ## Runs of bytes -/

namespace Bytes

variable {p : UInt8 → Bool} {s t x : Bytes} {c : UInt8}

theorem dropWhile_append_cons (h : s.dropWhile p = c :: t) :
    (s ++ x).dropWhile p = c :: (t ++ x) := by
  rw [List.dropWhile_append, h]
  rfl

theorem takeWhile_append_cons (h : s.dropWhile p = c :: t) :
    (s ++ x).takeWhile p = s.takeWhile p := by
  have hne : s.takeWhile p ≠ s := by
    intro he
    have hs := List.takeWhile_append_dropWhile (p := p) (l := s)
    rw [he, h] at hs
    exact absurd (congrArg List.length hs) (by simp)
  rw [List.takeWhile_append]
  split
  · rename_i hl
    exact absurd ((List.takeWhile_prefix p).eq_of_length hl) hne
  · rfl

/-- A run that stops before a tail of the text stops there without the tail too. -/
theorem dropWhile_cut (h : (s ++ x).dropWhile p = c :: t) (hl : x.length ≤ t.length) :
    ∃ t', s.dropWhile p = c :: t' ∧ t = t' ++ x := by
  rw [List.dropWhile_append] at h
  split at h
  · have := (List.dropWhile_suffix (l := x) p).length_le
    rw [h, List.length_cons] at this
    omega
  · rename_i hne
    cases hs : s.dropWhile p with
    | nil => exact absurd (by rw [hs]; rfl) hne
    | cons d t' =>
      rw [hs, List.cons_append] at h
      cases h
      exact ⟨t', rfl, rfl⟩

theorem head_dropWhile (h : s.dropWhile p = c :: t) : p c = false := by
  have := List.head?_dropWhile_not p s
  rw [h, List.head?_cons] at this
  simpa using this

theorem takeWhile_append_stop (hs : ∀ b ∈ s, p b = true) (hc : p c = false) :
    (s ++ c :: x).takeWhile p = s := by
  rw [List.takeWhile_append_of_pos hs, List.takeWhile_cons_of_neg (by simp [hc]), List.append_nil]

theorem dropWhile_append_stop (hs : ∀ b ∈ s, p b = true) (hc : p c = false) :
    (s ++ c :: x).dropWhile p = c :: x := by
  rw [List.dropWhile_append_of_pos hs, List.dropWhile_cons_of_neg (by simp [hc])]

end Bytes

namespace Markup

open Bytes

/-! ## Values -/

/-- How a value is read behind a key. -/
inductive ValueRead (s : Bytes) : Bytes → Bytes → Prop where
  | slash {t : Bytes} (hs : s.dropWhile Byte.isSpace = Byte.slash :: t) : ValueRead s [] t
  | missing {c : UInt8} {t : Bytes} (hs : s.dropWhile Byte.isSpace = c :: t)
      (hslash : c ≠ Byte.slash) (heq : c ≠ Byte.eq) : ValueRead s [] (c :: t)
  /-- The tag ends behind the `=`. -/
  | cut {t u : Bytes} (hs : s.dropWhile Byte.isSpace = Byte.eq :: t)
      (ht : t.dropWhile Byte.isSpace = Byte.gt :: u) : ValueRead s [] (Byte.gt :: u)
  | quoted {q c : UInt8} {t u w : Bytes} (hs : s.dropWhile Byte.isSpace = Byte.eq :: t)
      (ht : t.dropWhile Byte.isSpace = q :: u) (hq : q = Byte.quote ∨ q = Byte.apostrophe)
      (hu : u.dropWhile (· != q) = c :: w) : ValueRead s (u.takeWhile (· != q)) w
  | bare {q c : UInt8} {t u w : Bytes} (hs : s.dropWhile Byte.isSpace = Byte.eq :: t)
      (ht : t.dropWhile Byte.isSpace = q :: u) (hgt : q ≠ Byte.gt)
      (hq : ¬ (q = Byte.quote ∨ q = Byte.apostrophe)) (hu : u.dropWhile isBareByte = c :: w) :
      ValueRead s (q :: u.takeWhile isBareByte) (c :: w)

theorem readValue?_iff {s val rest : Bytes} :
    readValue? s = some (val, rest) ↔ ValueRead s val rest := by
  constructor
  · intro h
    unfold readValue? at h
    split at h
    · cases h
    rename_i c t hs
    split at h
    · rename_i hc
      cases h
      exact .slash (hc ▸ hs)
    rename_i hslash
    split at h
    · rename_i hc
      subst hc
      split at h
      · cases h
      rename_i q u ht
      split at h
      · rename_i hgt
        subst hgt
        cases h
        exact .cut hs ht
      rename_i hgt
      split at h
      · rename_i hq
        split at h
        · cases h
        rename_i hu
        cases h
        exact .quoted hs ht hq hu
      · rename_i hq
        split at h
        · cases h
        rename_i hne
        obtain ⟨d, w, hu⟩ := List.exists_cons_of_ne_nil hne
        cases h
        rw [hu]
        exact .bare hs ht hgt hq hu
    · rename_i heq
      cases h
      exact .missing hs hslash heq
  · intro h
    unfold readValue?
    cases h with
    | slash hs => simp only [hs, if_pos]
    | missing hs hslash heq => simp only [hs, if_neg hslash, if_neg heq]
    | cut hs ht => simp only [hs, ht, if_neg (show Byte.eq ≠ Byte.slash by decide), if_pos]
    | @quoted q _ _ _ _ hs ht hq hu =>
      have hgt : q ≠ Byte.gt := by rcases hq with rfl | rfl <;> decide
      simp only [hs, ht, hu, if_neg (show Byte.eq ≠ Byte.slash by decide), if_neg hgt, if_pos hq,
        if_pos]
    | bare hs ht hgt hq hu =>
      simp only [hs, ht, hu, if_neg (show Byte.eq ≠ Byte.slash by decide), if_neg hgt, if_neg hq,
        if_pos]

theorem readValue?_extend {s val rest : Bytes} (h : readValue? s = some (val, rest)) (x : Bytes) :
    readValue? (s ++ x) = some (val, rest ++ x) := by
  rw [readValue?_iff] at h ⊢
  cases h with
  | slash hs => exact .slash (dropWhile_append_cons hs)
  | missing hs hslash heq => exact .missing (dropWhile_append_cons hs) hslash heq
  | cut hs ht => exact .cut (dropWhile_append_cons hs) (dropWhile_append_cons ht)
  | quoted hs ht hq hu =>
    rw [← takeWhile_append_cons hu]
    exact .quoted (dropWhile_append_cons hs) (dropWhile_append_cons ht) hq (dropWhile_append_cons hu)
  | bare hs ht hgt hq hu =>
    rw [← takeWhile_append_cons hu]
    exact .bare (dropWhile_append_cons hs) (dropWhile_append_cons ht) hgt hq
      (dropWhile_append_cons hu)

/-- Cutting the source off behind a value, but not right behind it, leaves the value. -/
theorem readValue?_cut {s x val rest : Bytes} (h : readValue? (s ++ x) = some (val, rest))
    (hl : x.length < rest.length) :
    ∃ rest', rest = rest' ++ x ∧ readValue? s = some (val, rest') := by
  -- what the inner runs leave is no longer than what the outer ones do
  have shorter {p : UInt8 → Bool} {c : UInt8} {s t : Bytes} (h : s.dropWhile p = c :: t) :
      t.length < s.length := by
    have hsuffix := (List.dropWhile_suffix (l := s) p).length_le
    rwa [h, List.length_cons] at hsuffix
  simp only [readValue?_iff] at h ⊢
  cases h with
  | slash hs =>
    obtain ⟨t', hs', rfl⟩ := dropWhile_cut hs (Nat.le_of_lt hl)
    exact ⟨t', rfl, .slash hs'⟩
  | missing hs hslash heq =>
    obtain ⟨t', hs', rfl⟩ := dropWhile_cut hs (Nat.le_of_lt_succ hl)
    exact ⟨_ :: t', rfl, .missing hs' hslash heq⟩
  | cut hs ht =>
    have hlt := shorter ht
    rw [List.length_cons] at hl
    obtain ⟨t', hs', rfl⟩ := dropWhile_cut hs (by omega)
    obtain ⟨u', ht', rfl⟩ := dropWhile_cut ht (by omega)
    exact ⟨Byte.gt :: u', rfl, .cut hs' ht'⟩
  | quoted hs ht hq hu =>
    have hlt := shorter ht
    have hlu := shorter hu
    obtain ⟨t', hs', rfl⟩ := dropWhile_cut hs (by omega)
    obtain ⟨u', ht', rfl⟩ := dropWhile_cut ht (by omega)
    obtain ⟨w', hu', rfl⟩ := dropWhile_cut hu (by omega)
    rw [takeWhile_append_cons hu']
    exact ⟨w', rfl, .quoted hs' ht' hq hu'⟩
  | bare hs ht hgt hq hu =>
    have hlt := shorter ht
    have hlu := shorter hu
    rw [List.length_cons] at hl
    obtain ⟨t', hs', rfl⟩ := dropWhile_cut hs (by omega)
    obtain ⟨u', ht', rfl⟩ := dropWhile_cut ht (by omega)
    obtain ⟨w', hu', rfl⟩ := dropWhile_cut hu (by omega)
    rw [takeWhile_append_cons hu']
    exact ⟨_ :: w', rfl, .bare hs' ht' hgt hq hu'⟩

/-! ## Attributes -/

theorem readAttrs?_of_nil {s : Bytes} (h : s.dropWhile Byte.isSpace = []) :
    readAttrs? s = none := by
  rw [readAttrs?]
  split
  · rfl
  · rename_i hs; rw [h] at hs; cases hs

theorem readAttrs?_of_cons {s rest : Bytes} {c : UInt8}
    (h : s.dropWhile Byte.isSpace = c :: rest) :
    readAttrs? s =
      if c = Byte.gt then some ([], rest)
      else if c = Byte.slash then readAttrs? rest
      else
        match readValue? (rest.dropWhile isKeyByte) with
        | none => none
        | some (val, behind) =>
          (readAttrs? behind).map fun (attrs, last) =>
            ((c :: rest.takeWhile isKeyByte, val) :: attrs, last) := by
  rw [readAttrs?]
  split
  · rename_i hs; rw [h] at hs; cases hs
  · rename_i hs
    rw [h] at hs
    cases hs
    split
    · rfl
    split
    · rfl
    split <;> simp_all

theorem readAttrs?_dropWhile (s : Bytes) : readAttrs? (s.dropWhile Byte.isSpace) = readAttrs? s := by
  cases h : s.dropWhile Byte.isSpace with
  | nil => rw [readAttrs?_of_nil h, readAttrs?_of_nil rfl]
  | cons c t =>
    have hc : ¬ Byte.isSpace c = true := by rw [head_dropWhile h]; decide
    rw [readAttrs?_of_cons h, readAttrs?_of_cons (List.dropWhile_cons_of_neg hc)]

theorem readAttrs?_extend (s : Bytes) :
    ∀ {attrs : List (Bytes × Bytes)} {rest : Bytes}, readAttrs? s = some (attrs, rest) →
      ∀ x, readAttrs? (s ++ x) = some (attrs, rest ++ x) := by
  fun_induction readAttrs? s with
  | case1 => intro attrs rest h; cases h
  | case2 s t hs =>
    intro attrs rest h x
    cases h
    rw [readAttrs?_of_cons (dropWhile_append_cons hs), if_pos rfl]
  | case3 s t hs hgt ih =>
    intro attrs rest h x
    rw [readAttrs?_of_cons (dropWhile_append_cons hs), if_neg hgt, if_pos rfl]
    exact ih h x
  | case4 => intro attrs rest h; cases h
  | case5 s c t hs hgt hslash val behind hv ih =>
    intro attrs rest h x
    obtain ⟨⟨more, last⟩, hm, he⟩ := Option.map_eq_some_iff.1 h
    cases he
    obtain ⟨d, u, hdu⟩ : ∃ d u, t.dropWhile isKeyByte = d :: u := by
      refine List.exists_cons_of_ne_nil fun hnil => ?_
      rw [hnil] at hv
      cases hv
    have hv' := readValue?_extend hv x
    rw [hdu, List.cons_append, ← dropWhile_append_cons hdu] at hv'
    rw [readAttrs?_of_cons (dropWhile_append_cons hs), if_neg hgt, if_neg hslash, hv']
    simp only [ih hm x, Option.map_some, takeWhile_append_cons hdu]

theorem readAttrs?_length (s : Bytes) :
    ∀ {attrs : List (Bytes × Bytes)} {rest : Bytes}, readAttrs? s = some (attrs, rest) →
      rest.length < s.length := by
  fun_induction readAttrs? s with
  | case1 => intro attrs rest h; cases h
  | case2 s t hs =>
    intro attrs rest h
    cases h
    have := (List.dropWhile_suffix (l := s) Byte.isSpace).length_le
    rw [hs, List.length_cons] at this
    omega
  | case3 s t hs hgt ih =>
    intro attrs rest h
    have h1 := (List.dropWhile_suffix (l := s) Byte.isSpace).length_le
    have h2 := ih h
    rw [hs, List.length_cons] at h1
    omega
  | case4 => intro attrs rest h; cases h
  | case5 s c t hs hgt hslash val behind hv ih =>
    intro attrs rest h
    obtain ⟨⟨more, last⟩, hm, he⟩ := Option.map_eq_some_iff.1 h
    cases he
    have h1 := (List.dropWhile_suffix (l := s) Byte.isSpace).length_le
    have h2 := (readValue?_suffix hv).length_le
    have h3 := (List.dropWhile_suffix (l := t) isKeyByte).length_le
    have h4 := ih hm
    rw [hs, List.length_cons] at h1
    omega

theorem readAttrs?_cut (s : Bytes) :
    ∀ {attrs : List (Bytes × Bytes)} {front rest : Bytes}, readAttrs? s = some (attrs, rest) →
      s = front ++ rest → readAttrs? front = some (attrs, []) := by
  fun_induction readAttrs? s with
  | case1 => intro attrs front rest h; cases h
  | case2 s t hs =>
    intro attrs front rest h he
    cases h
    rw [he] at hs
    obtain ⟨t', ht', htt⟩ := dropWhile_cut hs (Nat.le_refl _)
    rw [readAttrs?_of_cons ht', if_pos rfl, List.append_left_eq_self.1 htt.symm]
  | case3 s t hs hgt ih =>
    intro attrs front rest h he
    rw [he] at hs
    obtain ⟨t', ht', rfl⟩ := dropWhile_cut hs (readAttrs?_suffix _ h).length_le
    rw [readAttrs?_of_cons ht', if_neg hgt, if_pos rfl]
    exact ih h rfl
  | case4 => intro attrs front rest h; cases h
  | case5 s c t hs hgt hslash val behind hv ih =>
    intro attrs front rest h he
    obtain ⟨⟨more, last⟩, hm, hh⟩ := Option.map_eq_some_iff.1 h
    cases hh
    have hlt := readAttrs?_length _ hm
    have hk := (List.dropWhile_suffix (l := t) isKeyByte).length_le
    have hvl := (readValue?_suffix hv).length_le
    rw [he] at hs
    obtain ⟨t', ht', rfl⟩ := dropWhile_cut hs (by omega)
    obtain ⟨d, u, hdu⟩ : ∃ d u, (t' ++ rest).dropWhile isKeyByte = d :: u := by
      refine List.exists_cons_of_ne_nil fun hnil => ?_
      rw [hnil] at hv
      cases hv
    rw [hdu, List.length_cons] at hvl
    obtain ⟨u', hu', rfl⟩ := dropWhile_cut hdu (by omega)
    rw [hdu, ← List.cons_append] at hv
    obtain ⟨behind', rfl, hv'⟩ := readValue?_cut hv hlt
    rw [readAttrs?_of_cons ht', if_neg hgt, if_neg hslash, hu', hv']
    simp only [ih hm rfl, Option.map_some, takeWhile_append_cons hu']

/-! ## The second reader of keys -/

/-- What the second reader passes over in front of a key. -/
def isFiller (c : UInt8) : Bool := Byte.isSpace c || c == Byte.slash

theorem keysFrom_of_nil {s : Bytes} (h : s.dropWhile isFiller = []) : keysFrom s = [] := by
  rw [keysFrom]
  split
  · rfl
  · rename_i hs
    rw [show s.dropWhile (fun c => Byte.isSpace c || c == Byte.slash) = [] from h] at hs
    cases hs

theorem keysFrom_of_cons {s rest : Bytes} {c : UInt8} (h : s.dropWhile isFiller = c :: rest) :
    keysFrom s =
      if c = Byte.gt then []
      else (c :: rest.takeWhile isKeyByte) :: keysFrom (skipValue (rest.dropWhile isKeyByte)) := by
  have h' : s.dropWhile (fun c => Byte.isSpace c || c == Byte.slash) = c :: rest := h
  rw [keysFrom]
  split
  · rename_i hs; rw [h'] at hs; cases hs
  · rename_i hs
    rw [h'] at hs
    cases hs
    rfl

theorem keysFrom_congr {s t : Bytes} (h : s.dropWhile isFiller = t.dropWhile isFiller) :
    keysFrom s = keysFrom t := by
  cases hs : s.dropWhile isFiller with
  | nil => rw [keysFrom_of_nil hs, keysFrom_of_nil (h ▸ hs)]
  | cons c u => exact (keysFrom_of_cons hs).trans (keysFrom_of_cons (h ▸ hs)).symm

theorem dropWhile_isFiller (s : Bytes) :
    (s.dropWhile Byte.isSpace).dropWhile isFiller = s.dropWhile isFiller := by
  induction s with
  | nil => rfl
  | cons c s ih =>
    by_cases hc : Byte.isSpace c = true
    · rw [List.dropWhile_cons_of_pos hc, ih, List.dropWhile_cons_of_pos (by simp [isFiller, hc])]
    · rw [List.dropWhile_cons_of_neg hc]

theorem keysFrom_dropWhile (s : Bytes) : keysFrom (s.dropWhile Byte.isSpace) = keysFrom s :=
  keysFrom_congr (dropWhile_isFiller s)

theorem keysFrom_slash (s : Bytes) : keysFrom (Byte.slash :: s) = keysFrom s :=
  keysFrom_congr (List.dropWhile_cons_of_pos (by decide))

theorem keysFrom_skipValue {s val behind : Bytes} (h : readValue? s = some (val, behind)) :
    keysFrom (skipValue s) = keysFrom behind := by
  unfold skipValue
  cases readValue?_iff.1 h with
  | slash hs =>
    simp only [hs]
    rw [if_neg (by decide), keysFrom_slash]
  | missing hs _ heq => simp only [hs, if_neg heq]
  | cut hs ht =>
    simp only [hs, if_pos, ht]
    rw [if_neg (by decide), List.dropWhile_cons_of_neg (by decide)]
  | quoted hs ht hq hu =>
    simp only [hs, if_pos, ht, if_pos hq, hu]
    rfl
  | bare hs ht hgt hq hu =>
    have hspace := head_dropWhile ht
    simp only [hs, if_pos, ht, if_neg hq]
    rw [List.dropWhile_cons_of_pos (by simp [isBareByte, hspace, hgt]), hu]

theorem keysFrom_eq (s : Bytes) :
    ∀ {attrs : List (Bytes × Bytes)} {rest : Bytes}, readAttrs? s = some (attrs, rest) →
      keysFrom s = attrs.map Prod.fst := by
  fun_induction readAttrs? s with
  | case1 => intro attrs rest h; cases h
  | case2 s t hs =>
    intro attrs rest h
    cases h
    rw [← keysFrom_dropWhile, hs, keysFrom_of_cons (List.dropWhile_cons_of_neg (by decide)),
      if_pos rfl]
    rfl
  | case3 s t hs hgt ih =>
    intro attrs rest h
    rw [← keysFrom_dropWhile, hs, keysFrom_slash]
    exact ih h
  | case4 => intro attrs rest h; cases h
  | case5 s c t hs hgt hslash val behind hv ih =>
    intro attrs rest h
    obtain ⟨⟨more, last⟩, hm, he⟩ := Option.map_eq_some_iff.1 h
    cases he
    have hns : Byte.isSpace c = false := head_dropWhile hs
    have hf : ¬ isFiller c = true := by simp [isFiller, hns, hslash]
    rw [← keysFrom_dropWhile, hs, keysFrom_of_cons (List.dropWhile_cons_of_neg hf), if_neg hgt,
      keysFrom_skipValue hv, ih hm]
    rfl

/-! ## Names and keys -/

/-- What the name of a tag looks like. -/
structure IsTagName (name : Bytes) : Prop where
  bytes : ∀ b ∈ name, isNameByte b = true
  letter : name.head?.any Byte.isLetter = true

/-- What the key of an attribute looks like; its first byte may be `=`. -/
def IsKey : Bytes → Prop
  | [] => False
  | c :: key => isNameByte c = true ∧ ∀ b ∈ key, isKeyByte b = true

theorem IsTagName.exists_cons {name : Bytes} (h : IsTagName name) :
    ∃ c more, name = c :: more ∧ Byte.isLetter c = true := by
  obtain ⟨_, hl⟩ := h
  cases name with
  | nil => cases hl
  | cons c more => exact ⟨c, more, rfl, hl⟩

theorem isKey_of_readAttrs? (s : Bytes) :
    ∀ {attrs : List (Bytes × Bytes)} {rest : Bytes}, readAttrs? s = some (attrs, rest) →
      ∀ a ∈ attrs, IsKey a.1 := by
  fun_induction readAttrs? s with
  | case1 => intro attrs rest h; cases h
  | case2 s t hs => intro attrs rest h; cases h; simp
  | case3 s t hs hgt ih => exact ih
  | case4 => intro attrs rest h; cases h
  | case5 s c t hs hgt hslash val behind hv ih =>
    intro attrs rest h a ha
    obtain ⟨⟨more, last⟩, hm, he⟩ := Option.map_eq_some_iff.1 h
    cases he
    rcases List.mem_cons.1 ha with rfl | ha
    · have hns : Byte.isSpace c = false := head_dropWhile hs
      exact ⟨by simp [isNameByte, hns, hslash, hgt],
        fun b hb => List.all_eq_true.1 List.all_takeWhile b hb⟩
    · exact ih hm a ha

theorem readTag?_extend {s name rest : Bytes} {attrs : List (Bytes × Bytes)}
    (h : readTag? s = some (name, attrs, rest)) (x : Bytes) :
    readTag? (s ++ x) = some (name, attrs, rest ++ x) := by
  obtain ⟨⟨attrs', rest'⟩, hr, he⟩ := Option.map_eq_some_iff.1 h
  cases he
  obtain ⟨d, u, hdu⟩ : ∃ d u, s.dropWhile isNameByte = d :: u := by
    refine List.exists_cons_of_ne_nil fun hnil => ?_
    rw [hnil, readAttrs?_of_nil rfl] at hr
    cases hr
  have hr' := readAttrs?_extend _ hr x
  rw [hdu, List.cons_append, ← dropWhile_append_cons hdu] at hr'
  rw [readTag?, hr', takeWhile_append_cons hdu]
  rfl

theorem readTag?_cut {s front name rest : Bytes} {attrs : List (Bytes × Bytes)}
    (h : readTag? s = some (name, attrs, rest)) (he : s = front ++ rest) :
    readTag? front = some (name, attrs, []) := by
  obtain ⟨⟨attrs', rest'⟩, hr, hh⟩ := Option.map_eq_some_iff.1 h
  cases hh
  have hl := readAttrs?_length _ hr
  obtain ⟨d, u, hdu⟩ : ∃ d u, s.dropWhile isNameByte = d :: u := by
    refine List.exists_cons_of_ne_nil fun hnil => ?_
    rw [hnil, readAttrs?_of_nil rfl] at hr
    cases hr
  rw [hdu, List.length_cons] at hl
  rw [he] at hdu
  obtain ⟨u', hu', rfl⟩ := dropWhile_cut hdu (by omega)
  have hr' := readAttrs?_cut _ hr (by rw [he, hdu, ← List.cons_append])
  rw [readTag?, hu', hr', he, takeWhile_append_cons hu']
  rfl

theorem readTag?_name {s name rest : Bytes} {attrs : List (Bytes × Bytes)}
    (h : readTag? s = some (name, attrs, rest)) : s = name ++ s.dropWhile isNameByte := by
  obtain ⟨⟨attrs', rest'⟩, _, he⟩ := Option.map_eq_some_iff.1 h
  cases he
  exact List.takeWhile_append_dropWhile.symm

theorem RawElement.name_of_ofName? {name : Bytes} {element : RawElement}
    (h : RawElement.ofName? name = some element) : element.name = name := by
  have := List.find?_some h
  simpa using this

theorem RawElement.lower_name (element : RawElement) : element.name.lower = element.name := by
  cases element <;> decide

theorem RawElement.ofName?_name (element : RawElement) :
    RawElement.ofName? element.name = some element := by
  cases element <;> decide

/-! ## Tags as tokens -/

/-- The name of a tag as written. -/
def tagName (t : Token) : Bytes :=
  match t.kind with
  | .startTag lowered _ => spelledName t.raw lowered
  | .selfClosing lowered _ => spelledName t.raw lowered
  | .endTag lowered => spelledName t.raw lowered
  | _ => []

theorem slice_left (front rest : Bytes) : slice (front ++ rest) rest = front := by
  simp [slice]

/-- How the content of an element is read. -/
def contentMode (name : Bytes) : Mode :=
  match RawElement.ofName? name with
  | some element => .raw element
  | none => .markup

/-- An open tag with its name and its attributes as written. -/
structure OpenTag (t : Token) (name : Bytes) (attrs : List (Bytes × Bytes)) : Prop where
  isName : IsTagName name
  isKey : ∀ a ∈ attrs, IsKey a.1
  raw : ∃ body, t.raw = Byte.lt :: body ∧ readTag? body = some (name, attrs, [])
  kind : t.kind =
    if endsWithSlash t.raw then .selfClosing name.lower (decodeAttrs attrs)
    else .startTag name.lower (decodeAttrs attrs)

/-- An end tag with its name as written. -/
structure CloseTag (t : Token) (name : Bytes) : Prop where
  isName : IsTagName name
  raw : ∃ body attrs, t.raw = Byte.lt :: Byte.slash :: body ∧ readTag? body = some (name, attrs, [])
  kind : t.kind = .endTag name.lower

theorem spelledName_eq {raw name tail : Bytes} (h : tagBody raw = name ++ tail) :
    spelledName raw name.lower = name := by
  unfold spelledName
  simp only [h, length_lower, List.take_left, Fold.alike_lower, and_self, if_true]

theorem zipWith_respell (attrs : List (Bytes × Bytes)) :
    List.zipWith respell (attrs.map Prod.fst) (decodeAttrs attrs) =
      attrs.map fun a => ⟨a.1, decodeValue a.2⟩ := by
  induction attrs with
  | nil => rfl
  | cons a attrs ih =>
    simp only [decodeAttrs, List.map_cons, List.zipWith_cons_cons] at ih ⊢
    rw [ih, respell, if_pos (Fold.alike_lower a.1)]

namespace OpenTag

variable {t : Token} {name : Bytes} {attrs : List (Bytes × Bytes)}

theorem exists_name (h : OpenTag t name attrs) :
    ∃ tail, t.raw = Byte.lt :: (name ++ tail) ∧ readAttrs? tail = some (attrs, []) := by
  obtain ⟨body, hraw, hr⟩ := h.raw
  obtain ⟨⟨attrs', rest'⟩, ha, he⟩ := Option.map_eq_some_iff.1 hr
  cases he
  exact ⟨_, by rw [hraw]; exact congrArg _ (readTag?_name hr), ha⟩

theorem spelledName (h : OpenTag t name attrs) : spelledName t.raw name.lower = name := by
  obtain ⟨tail, hraw, _⟩ := h.exists_name
  refine spelledName_eq (?_ : tagBody t.raw = name ++ tail)
  obtain ⟨c, more, rfl, hc⟩ := h.isName.exists_cons
  have hne : c ≠ Byte.slash := by rintro rfl; exact absurd hc (by decide)
  simp only [tagBody, hraw, List.drop_succ_cons, List.drop_zero, List.cons_append, List.head?_cons,
    Option.some.injEq, if_neg hne]

theorem spelledKeys (h : OpenTag t name attrs) : spelledKeys t.raw = attrs.map Prod.fst := by
  obtain ⟨body, hraw, hr⟩ := h.raw
  obtain ⟨⟨attrs', rest'⟩, ha, he⟩ := Option.map_eq_some_iff.1 hr
  cases he
  rw [Markup.spelledKeys, hraw]
  exact keysFrom_eq _ ha

theorem spelledAttrs (h : OpenTag t name attrs) :
    spelledAttrs t.raw (decodeAttrs attrs) = attrs.map fun a => ⟨a.1, decodeValue a.2⟩ := by
  unfold Markup.spelledAttrs
  simp only [h.spelledKeys, decodeAttrs, List.length_map, if_true]
  exact zipWith_respell attrs

theorem tagName (h : OpenTag t name attrs) : tagName t = name := by
  have hk := h.kind
  unfold Markup.tagName
  split at hk <;> (rw [hk]; exact h.spelledName)

theorem scan (h : OpenTag t name attrs) (x : Bytes) : scanMarkup (t.raw ++ x) = .token t x := by
  obtain ⟨tail, hraw, _⟩ := h.exists_name
  obtain ⟨body, hraw', hr⟩ := h.raw
  obtain ⟨c, more, rfl, hc⟩ := h.isName.exists_cons
  have hb : body = c :: (more ++ tail) := by rw [hraw'] at hraw; exact (List.cons.inj hraw).2
  have hx : readTag? (body ++ x) = some (c :: more, attrs, x) := readTag?_extend hr x
  have hs : startsMarkup (t.raw ++ x) = true := by
    rw [hraw]; simp [startsMarkup, hc]
  have hslice : slice (t.raw ++ x) x = t.raw := slice_left t.raw x
  have hopen : openTag? (t.raw ++ x) = some (t.kind, x) := by
    have hd : (t.raw ++ x).drop 1 = body ++ x := by rw [hraw']; rfl
    rw [openTag?, hd, hx, Option.map_some, h.kind]
    dsimp only
    rw [hslice]
    split <;> rfl
  have hm : markup? (t.raw ++ x) = some (t.kind, x) := by
    rw [← hopen, hraw]
    have h1 : c ≠ Byte.slash := by rintro rfl; exact absurd hc (by decide)
    have h2 : c ≠ Byte.bang := by rintro rfl; exact absurd hc (by decide)
    have h3 : c ≠ Byte.question := by rintro rfl; exact absurd hc (by decide)
    simp only [List.cons_append, markup?, if_neg h1, if_neg h2, if_neg h3]
  unfold scanMarkup
  split
  · rename_i hnil
    rw [hraw'] at hnil
    cases hnil
  · rw [if_pos hs, hm]
    dsimp only
    rw [hslice]

/-- Only a start tag with the name of a raw element turns to raw text. -/
theorem mode (h : OpenTag t name attrs) :
    t.mode = if endsWithSlash t.raw then .markup else contentMode name := by
  unfold Token.mode
  rw [h.kind]
  split
  · rename_i hk
    split at hk
    · cases hk
    rename_i hslash
    cases hk
    rw [if_neg hslash, h.spelledName, contentMode]
    split
    · rename_i hl
      cases hr : RawElement.ofName? name with
      | none => simp only [← hl, hr]
      | some element => simp only [← hl, hr]
    · rename_i hl
      cases hr : RawElement.ofName? name with
      | none => rfl
      | some element =>
        have hn := RawElement.name_of_ofName? hr
        rw [← hn, RawElement.lower_name] at hl
        exact absurd rfl hl
  · rename_i hk
    split
    · rfl
    · rename_i hslash
      exact absurd (if_neg hslash) (hk _ _)

end OpenTag

namespace CloseTag

variable {t : Token} {name : Bytes}

theorem exists_name (h : CloseTag t name) :
    ∃ tail attrs, t.raw = Byte.lt :: Byte.slash :: (name ++ tail) ∧
      readAttrs? tail = some (attrs, []) := by
  obtain ⟨body, attrs, hraw, hr⟩ := h.raw
  obtain ⟨⟨attrs', rest'⟩, ha, he⟩ := Option.map_eq_some_iff.1 hr
  cases he
  exact ⟨_, _, by rw [hraw]; exact congrArg _ (congrArg _ (readTag?_name hr)), ha⟩

theorem spelledName (h : CloseTag t name) : spelledName t.raw name.lower = name := by
  obtain ⟨tail, _, hraw, _⟩ := h.exists_name
  refine spelledName_eq (?_ : tagBody t.raw = name ++ tail)
  simp only [tagBody, hraw, List.drop_succ_cons, List.drop_zero, List.head?_cons, if_true]

theorem mode (h : CloseTag t name) : t.mode = .markup := by
  rw [Token.mode, h.kind]

theorem scan (h : CloseTag t name) (x : Bytes) : scanMarkup (t.raw ++ x) = .token t x := by
  obtain ⟨tail, _, hraw, _⟩ := h.exists_name
  obtain ⟨body, attrs, hraw', hr⟩ := h.raw
  obtain ⟨c, more, rfl, hc⟩ := h.isName.exists_cons
  have hb : body = c :: (more ++ tail) := by
    rw [hraw'] at hraw
    exact (List.cons.inj (List.cons.inj hraw).2).2
  have hx : readTag? (body ++ x) = some (c :: more, attrs, x) := readTag?_extend hr x
  have hs : startsMarkup (t.raw ++ x) = true := by rw [hraw]; rfl
  have hslice : slice (t.raw ++ x) x = t.raw := slice_left t.raw x
  have hm : markup? (t.raw ++ x) = some (t.kind, x) := by
    have hgt : c ≠ Byte.gt := by rintro rfl; exact absurd hc (by decide)
    rw [hraw', h.kind]
    rw [hb] at hx ⊢
    simp only [List.cons_append, markup?, if_true, closeTag?, if_neg hgt, if_pos hc]
    simp only [List.cons_append] at hx
    rw [hx]
    rfl
  unfold scanMarkup
  split
  · rename_i hnil
    rw [hraw'] at hnil
    cases hnil
  · rw [if_pos hs, hm]
    dsimp only
    rw [hslice]

end CloseTag

theorem mem_of_not_isNameByte {c : UInt8} (h : isNameByte c = false) :
    c ∈ [Byte.space, Byte.lf, Byte.cr, Byte.tab, Byte.ff, Byte.slash, Byte.gt] := by
  simp only [isNameByte, Byte.isSpace, Bool.not_eq_false', Bool.or_eq_true, beq_iff_eq, or_assoc] at h
  simpa only [List.mem_cons, List.not_mem_nil, or_false] using h

theorem isNameByte_of_isLetter {c : UInt8} (h : Byte.isLetter c = true) : isNameByte c = true := by
  cases hn : isNameByte c with
  | true => rfl
  | false =>
    have hall : ∀ c ∈ [Byte.space, Byte.lf, Byte.cr, Byte.tab, Byte.ff, Byte.slash, Byte.gt],
        Byte.isLetter c = false := forall_mem_of_all (by decide)
    rw [hall c (mem_of_not_isNameByte hn)] at h
    cases h

theorem openTag_of_openTag? {s rest : Bytes} {c : UInt8} {kind : Token.Kind}
    (hc : Byte.isLetter c = true) (h : openTag? (Byte.lt :: c :: s) = some (kind, rest)) :
    ∃ name attrs, OpenTag ⟨slice (Byte.lt :: c :: s) rest, kind⟩ name attrs := by
  obtain ⟨⟨name, attrs, rest'⟩, hr, he⟩ := Option.map_eq_some_iff.1 h
  have hrest : rest' = rest := by
    dsimp only at he
    split at he <;> cases he <;> rfl
  subst hrest
  obtain ⟨front, hfront⟩ := readTag?_suffix hr
  have hslice : slice (Byte.lt :: c :: s) rest' = Byte.lt :: front := by
    rw [List.drop_succ_cons, List.drop_zero] at hfront
    rw [← hfront]
    exact slice_left (Byte.lt :: front) rest'
  have hcut : readTag? front = some (name, attrs, []) := readTag?_cut hr hfront.symm
  obtain ⟨⟨attrs', rest''⟩, ha, hh⟩ := Option.map_eq_some_iff.1 hr
  cases hh
  refine ⟨_, attrs, ⟨?_, ?_⟩, isKey_of_readAttrs? _ ha, ⟨front, hslice, hcut⟩, ?_⟩
  · exact fun b hb => List.all_eq_true.1 List.all_takeWhile b hb
  · rw [List.drop_succ_cons, List.drop_zero, List.takeWhile_cons_of_pos (isNameByte_of_isLetter hc)]
    exact hc
  · dsimp only at he ⊢
    split at he
    · rename_i hslash
      cases he
      rw [if_pos hslash]
    · rename_i hslash
      cases he
      rw [if_neg hslash]

theorem closeTag_of_closeTag? {s rest : Bytes} {c : UInt8} {kind : Token.Kind}
    (hc : Byte.isLetter c = true) (h : closeTag? (c :: s) = some (kind, rest)) :
    ∃ name, CloseTag ⟨slice (Byte.lt :: Byte.slash :: c :: s) rest, kind⟩ name := by
  have hgt : c ≠ Byte.gt := by rintro rfl; exact absurd hc (by decide)
  rw [closeTag?, if_neg hgt, if_pos hc] at h
  obtain ⟨⟨name, attrs, rest'⟩, hr, he⟩ := Option.map_eq_some_iff.1 h
  cases he
  obtain ⟨front, hfront⟩ := readTag?_suffix hr
  have hslice : slice (Byte.lt :: Byte.slash :: c :: s) rest = Byte.lt :: Byte.slash :: front := by
    rw [← hfront]
    exact slice_left (Byte.lt :: Byte.slash :: front) rest
  have hcut : readTag? front = some (name, attrs, []) := readTag?_cut hr hfront.symm
  obtain ⟨⟨attrs', rest''⟩, ha, hh⟩ := Option.map_eq_some_iff.1 hr
  cases hh
  refine ⟨_, ⟨?_, ?_⟩, ⟨front, attrs, hslice, hcut⟩, rfl⟩
  · exact fun b hb => List.all_eq_true.1 List.all_takeWhile b hb
  · rw [List.takeWhile_cons_of_pos (isNameByte_of_isLetter hc)]
    exact hc

end Markup

end Graft
