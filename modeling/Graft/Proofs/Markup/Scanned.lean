import Graft.Proofs.Markup.Boundary

/-!
# Graft.Proofs.Markup.Scanned

One token at a time. Every token is a text, a tag, a comment or a doctype, and each of them is read
in front of whatever ends it.

* `Scanned`: how a token of markup comes about.
* `CloseTag.startsRawEnd_iff`: which end tag ends the content of a raw element.
* `Untagged`, `markup?_swap`: markup that is no tag.
* `scan_raw_cases`: what is read in the content of a raw element.
* `scan_swap`: one token, whatever follows it.
-/

namespace Graft

namespace Markup

open Bytes

/-! ## Tokens of markup -/

/-- How a token of markup comes about. -/
inductive Scanned (s : Bytes) (t : Token) (rest : Bytes) : Prop where
  | text (hs : startsMarkup s = false) (hr : textRest s = rest)
      (hk : t.kind = .text (decodeText t.raw))
  | openTag {name : Bytes} {attrs : List (Bytes × Bytes)} (h : OpenTag t name attrs)
  | closeTag {name : Bytes} (h : CloseTag t name)
  | comment {data : Bytes} (hs : startsMarkup s = true) (hm : markup? s = some (t.kind, rest))
      (hk : t.kind = .comment (decodeComment data))
  | doctype {data : Bytes} (hs : startsMarkup s = true) (hm : markup? s = some (t.kind, rest))
      (hk : t.kind = .doctype data)
  /-- A `</` at the end of the source. -/
  | cut (hr : rest = []) (hk : t.kind = .text (decodeText t.raw))

theorem declaration_kind (s : Bytes) :
    (∃ data, (declaration s).1 = .comment (decodeComment data)) ∨
      ∃ data, (declaration s).1 = .doctype data := by
  unfold declaration
  split
  · exact .inl ⟨_, rfl⟩
  split
  · exact .inl ⟨_, rfl⟩
  split
  · exact .inr ⟨_, rfl⟩
  split
  · exact .inl ⟨[], rfl⟩
  · exact .inl ⟨_, rfl⟩

theorem scanned_of_scanMarkup {s rest : Bytes} {t : Token} (h : scanMarkup s = .token t rest) :
    Scanned s t rest := by
  unfold scanMarkup at h
  split at h
  · cases h
  rename_i c s
  split at h
  · rename_i hs
    split at h
    · rename_i kind rest' hm
      cases h
      match s, hs, hm with
      | d :: w, hs, hm =>
        have hc : c = Byte.lt := stops_of_startsMarkup hs c rfl
        subst hc
        have hm' := hm
        unfold markup? at hm
        dsimp only at hm
        split at hm
        · rename_i hd
          subst hd
          cases w with
          | nil =>
            cases hm
            exact .cut rfl rfl
          | cons e w =>
            by_cases he : Byte.isLetter e = true
            · obtain ⟨name, hclose⟩ := closeTag_of_closeTag? he hm
              exact .closeTag hclose
            rw [closeTag?, if_neg he] at hm
            split at hm
            · cases hm
              exact .comment hs hm' (show _ = Token.Kind.comment (decodeComment []) from rfl)
            · cases hm
              exact .comment hs hm' rfl
        split at hm
        · have hk := congrArg Prod.fst (Option.some.inj hm)
          rcases declaration_kind w with ⟨data, hd⟩ | ⟨data, hd⟩
          · exact .comment hs hm' (hk.symm.trans hd)
          · exact .doctype hs hm' (hk.symm.trans hd)
        split at hm
        · cases hm
          exact .comment hs hm' rfl
        · rename_i h1 h2 h3
          have hl : Byte.isLetter d = true := by
            simp only [startsMarkup, Bool.and_eq_true, Bool.or_eq_true, beq_iff_eq, h1, h2, h3,
              or_false] at hs
            exact hs.2
          obtain ⟨name, attrs, hopen⟩ := openTag_of_openTag? hl hm
          exact .openTag hopen
    · cases h
  · rename_i hs
    cases h
    exact .text (by simpa using hs) rfl rfl

theorem untilClose_length (c : UInt8) (s : Bytes) : (untilClose (c :: s)).2.length ≤ s.length := by
  have h := (List.dropWhile_suffix (l := c :: s) (· != Byte.gt)).length_le
  simp only [untilClose, List.length_drop, List.length_cons] at h ⊢
  omega

theorem readTag?_length {s name rest : Bytes} {attrs : List (Bytes × Bytes)}
    (h : readTag? s = some (name, attrs, rest)) : rest.length < s.length := by
  obtain ⟨⟨attrs', rest'⟩, ha, he⟩ := Option.map_eq_some_iff.1 h
  cases he
  exact Nat.lt_of_lt_of_le (readAttrs?_length _ ha) (List.dropWhile_suffix isNameByte).length_le

theorem closeTag?_length {c : UInt8} {s rest : Bytes} {kind : Token.Kind}
    (h : closeTag? (c :: s) = some (kind, rest)) : rest.length ≤ s.length := by
  rw [closeTag?] at h
  split at h
  · cases h; exact Nat.le_refl _
  split at h
  · obtain ⟨⟨name, attrs, behind⟩, hr, he⟩ := Option.map_eq_some_iff.1 h
    cases he
    exact Nat.le_of_lt_succ (readTag?_length hr)
  · cases h; exact untilClose_length c s

/-- A markup start takes at least its first two bytes. -/
theorem markup?_length {s rest : Bytes} {kind : Token.Kind} (h : markup? s = some (kind, rest)) :
    rest.length + 2 ≤ s.length := by
  unfold markup? at h
  split at h
  · rename_i c d w
    simp only [List.length_cons]
    split at h
    · have := (closeTag?_suffix h).length_le
      omega
    split at h
    · have hl := (declaration_suffix w).length_le
      rw [congrArg Prod.snd (Option.some.inj h)] at hl
      exact Nat.add_le_add_right hl 2
    split at h
    · cases h
      exact Nat.add_le_add_right (untilClose_length d w) 2
    · obtain ⟨⟨name, attrs, behind⟩, hr, he⟩ := Option.map_eq_some_iff.1 h
      have hrest : behind = rest := by
        dsimp only at he
        split at he <;> cases he <;> rfl
      have hl := readTag?_length hr
      rw [hrest] at hl
      simp only [List.drop_succ_cons, List.drop_zero, List.length_cons] at hl
      omega
  · cases h

theorem untilClose_cons {c : UInt8} {f u : Bytes} (hc : c ≠ Byte.gt)
    (h : (untilClose (c :: (f ++ u))).2 = u) (hu : u ≠ []) :
    ∃ b, f = b ++ [Byte.gt] ∧ Byte.gt ∉ c :: b ∧ untilClose (c :: (f ++ u)) = (c :: b, u) := by
  obtain ⟨b, hb, hgt⟩ := untilClose_eq (f := c :: f) h hu
  cases b with
  | nil => exact absurd (List.cons.inj hb).1 hc
  | cons d b =>
    rw [List.cons_append] at hb
    obtain ⟨rfl, rfl⟩ := List.cons.inj hb
    refine ⟨b, rfl, hgt, ?_⟩
    rw [← List.append_cons, ← List.cons_append, untilClose_append_gt hgt]

theorem markup?_endLike {b : Bytes} (hgt : Byte.gt ∉ b)
    (hletter : ∀ c ∈ b.head?, Byte.isLetter c = false) (v : Bytes) :
    markup? (Byte.lt :: Byte.slash :: (b ++ Byte.gt :: v)) =
      some (.comment (decodeComment b), v) := by
  cases b with
  | nil => rfl
  | cons e b =>
    have he : e ≠ Byte.gt := fun h => hgt (h ▸ List.mem_cons_self ..)
    have hclose :
        closeTag? (e :: (b ++ Byte.gt :: v)) = some (.comment (decodeComment (e :: b)), v) := by
      rw [closeTag?, if_neg he, if_neg (by simp [hletter e rfl]), ← List.cons_append,
        untilClose_append_gt hgt]
    exact hclose

theorem markup?_question {b : Bytes} (hgt : Byte.gt ∉ b) (v : Bytes) :
    markup? (Byte.lt :: Byte.question :: (b ++ Byte.gt :: v)) =
      some (.comment (decodeComment (Byte.question :: b)), v) := by
  have hfree : Byte.gt ∉ Byte.question :: b := by
    rw [List.mem_cons, not_or]
    exact ⟨by decide, hgt⟩
  have huntil := untilClose_append_gt hfree v
  rw [List.cons_append] at huntil
  simp only [markup?]
  rw [if_neg (by decide), if_neg (by decide), if_pos trivial, huntil]

/-- What markup is that ends in front of `u` and is no tag. -/
inductive Untagged (u : Bytes) : Bytes → Token.Kind → Prop where
  | endLike {b : Bytes} (hgt : Byte.gt ∉ b) (hletter : ∀ c ∈ b.head?, Byte.isLetter c = false) :
      Untagged u (Byte.lt :: Byte.slash :: (b ++ [Byte.gt])) (.comment (decodeComment b))
  | declared {g : Bytes} {kind : Token.Kind} (h : declaration (g ++ u) = (kind, u)) :
      Untagged u (Byte.lt :: Byte.bang :: g) kind
  | question {b : Bytes} (hgt : Byte.gt ∉ b) :
      Untagged u (Byte.lt :: Byte.question :: (b ++ [Byte.gt]))
        (.comment (decodeComment (Byte.question :: b)))

theorem untagged_of_closeTag? {g u : Bytes} {kind : Token.Kind}
    (h : closeTag? (g ++ u) = some (kind, u)) (hu : u ≠ []) (hend : ∀ name, kind ≠ .endTag name) :
    Untagged u (Byte.lt :: Byte.slash :: g) kind := by
  cases g with
  | nil =>
    obtain ⟨e, w, rfl⟩ := List.exists_cons_of_ne_nil hu
    exact absurd (closeTag?_length h) (Nat.not_succ_le_self _)
  | cons e g =>
    rw [List.cons_append, closeTag?] at h
    split at h
    · rename_i he
      obtain ⟨rfl, hg⟩ := Prod.mk.inj (Option.some.inj h)
      rw [List.append_left_eq_self.1 hg, he]
      exact @Untagged.endLike u [] (by simp) (by simp)
    split at h
    · obtain ⟨⟨name, _, behind⟩, _, hk⟩ := Option.map_eq_some_iff.1 h
      exact absurd (congrArg Prod.fst hk).symm (hend _)
    · rename_i he hletter
      have hrest : (untilClose (e :: (g ++ u))).2 = u := congrArg Prod.snd (Option.some.inj h)
      obtain ⟨b, rfl, hgt, huntil⟩ := untilClose_cons he hrest hu
      rw [huntil] at h
      obtain rfl : .comment (decodeComment (e :: b)) = kind :=
        congrArg Prod.fst (Option.some.inj h)
      refine .endLike hgt fun c hc => ?_
      rw [← Option.some.inj hc]
      exact eq_false_of_ne_true hletter

theorem untagged_of_markup? {f u : Bytes} {kind : Token.Kind}
    (hstart : startsMarkup (f ++ u) = true) (h : markup? (f ++ u) = some (kind, u)) (hu : u ≠ [])
    (hopen : ∀ name attrs, kind ≠ .startTag name attrs)
    (hself : ∀ name attrs, kind ≠ .selfClosing name attrs) (hend : ∀ name, kind ≠ .endTag name) :
    Untagged u f kind := by
  have hl := markup?_length h
  rw [List.length_append] at hl
  match f, hl with
  | [], hl | [_], hl => simp only [List.length_cons, List.length_nil] at hl; omega
  | c :: d :: g, _ =>
    obtain rfl : c = Byte.lt := stops_of_startsMarkup hstart c rfl
    simp only [List.cons_append, markup?] at h
    split at h
    · rename_i hd
      subst hd
      exact untagged_of_closeTag? h hu hend
    split at h
    · rename_i hd
      subst hd
      exact .declared (Option.some.inj h)
    split at h
    · rename_i hd
      subst hd
      have hrest : (untilClose (Byte.question :: (g ++ u))).2 = u :=
        congrArg Prod.snd (Option.some.inj h)
      obtain ⟨b, rfl, hgt, huntil⟩ := untilClose_cons (by decide) hrest hu
      rw [huntil] at h
      obtain rfl : .comment (decodeComment (Byte.question :: b)) = kind :=
        congrArg Prod.fst (Option.some.inj h)
      exact .question fun h => hgt (List.mem_cons_of_mem _ h)
    · obtain ⟨⟨name, attrs, behind⟩, _, hk⟩ := Option.map_eq_some_iff.1 h
      dsimp only at hk
      split at hk
      · exact absurd (congrArg Prod.fst hk).symm (hself _ _)
      · exact absurd (congrArg Prod.fst hk).symm (hopen _ _)

theorem markup?_swap {f u : Bytes} {kind : Token.Kind} (h : Untagged u f kind) (hu : u ≠ [])
    (v : Bytes) : ∃ kind', markup? (f ++ v) = some (kind', v) ∧ Reread f v kind kind' := by
  cases h with
  | endLike hgt hletter =>
    refine ⟨_, ?_, .inl rfl⟩
    rw [List.cons_append, List.cons_append, ← List.append_cons, markup?_endLike hgt hletter]
  | declared h =>
    obtain ⟨kind', hk, ha⟩ := declaration_swap h hu v
    exact ⟨kind', congrArg some hk, ha⟩
  | question hgt =>
    refine ⟨_, ?_, .inl rfl⟩
    rw [List.cons_append, List.cons_append, ← List.append_cons, markup?_question hgt]

/-! ## One token -/

theorem scanMarkup_of_text {f v : Bytes} (hf : f ≠ []) (hs : startsMarkup (f ++ v) = false)
    (hr : textRest (f ++ v) = v) :
    scanMarkup (f ++ v) = .token ⟨f, .text (decodeText f)⟩ v := by
  unfold scanMarkup
  split
  · rename_i hnil
    exact absurd (List.append_eq_nil_iff.1 hnil).1 hf
  · rw [hs, if_neg (by decide), hr, slice_left]

theorem scanMarkup_of_markup? {f v : Bytes} {kind : Token.Kind}
    (hs : startsMarkup (f ++ v) = true) (hm : markup? (f ++ v) = some (kind, v)) :
    scanMarkup (f ++ v) = .token ⟨f, kind⟩ v := by
  unfold scanMarkup
  split
  · rename_i hnil
    rw [hnil] at hs
    cases hs
  · rw [if_pos hs, hm]
    dsimp only
    rw [slice_left]

/-- A token of markup, whatever follows it. -/
theorem scanMarkup_swap {t : Token} {u v : Bytes} (h : scanMarkup (t.raw ++ u) = .token t u)
    (hu : u ≠ []) (hv : startsMarkup u = true → v = [] ∨ startsMarkup v = true) :
    ∃ kind, scanMarkup (t.raw ++ v) = .token ⟨t.raw, kind⟩ v ∧ Reread t.raw v t.kind kind := by
  have hscan : scan .markup (t.raw ++ u) = .token t u := h
  have hne : t.raw ≠ [] := scan_raw_ne_nil hscan
  have aside (hs : startsMarkup (t.raw ++ u) = true) (hm : markup? (t.raw ++ u) = some (t.kind, u))
      (hopen : ∀ name attrs, t.kind ≠ .startTag name attrs)
      (hself : ∀ name attrs, t.kind ≠ .selfClosing name attrs)
      (hend : ∀ name, t.kind ≠ .endTag name) :
      ∃ kind, scanMarkup (t.raw ++ v) = .token ⟨t.raw, kind⟩ v ∧ Reread t.raw v t.kind kind := by
    obtain ⟨kind, hk, ha⟩ := markup?_swap (untagged_of_markup? hs hm hu hopen hself hend) hu v
    have hl := markup?_length hm
    rw [List.length_append] at hl
    have hs' : startsMarkup (t.raw ++ v) = true := by
      match hraw : t.raw, hl with
      | c :: d :: g, _ => rw [hraw] at hs; exact hs
      | [], hl | [_], hl => simp only [List.length_cons, List.length_nil] at hl; omega
    exact ⟨kind, scanMarkup_of_markup? hs' hk, ha⟩
  cases scanned_of_scanMarkup h with
  | text hs hr hk =>
    have hu' := startsMarkup_textRest (hr.symm ▸ hu)
    rw [hr] at hu'
    have hr' := textRest_swap hr hu (hv hu')
    have hs' : startsMarkup (t.raw ++ v) = false := by
      match hraw : t.raw with
      | [] => exact absurd hraw hne
      | c :: d :: g => rw [hraw] at hs; exact hs
      | [c] =>
        refine startsMarkup_stop c ?_
        rcases hv hu' with rfl | hv
        · intro c hc; cases hc
        · exact stops_of_startsMarkup hv
    exact ⟨_, scanMarkup_of_text hne hs' hr', .inl hk.symm⟩
  | openTag ht => exact ⟨_, ht.scan v, .inl rfl⟩
  | closeTag ht => exact ⟨_, ht.scan v, .inl rfl⟩
  | comment hs hm hk => exact aside hs hm (by simp [hk]) (by simp [hk]) (by simp [hk])
  | doctype hs hm hk => exact aside hs hm (by simp [hk]) (by simp [hk]) (by simp [hk])
  | cut hr _ => exact absurd hr hu

theorem endsRawName_eq (c : UInt8) : endsRawName c = !isNameByte c := by
  simp [endsRawName, isNameByte]

theorem namesTag_iff {n name : Bytes} {d : UInt8} (hn : ∀ b ∈ n, isNameByte b = true)
    (hname : ∀ b ∈ name, isNameByte b = true) (hd : isNameByte d = false) (w : Bytes) :
    namesTag n (name ++ d :: w) = true ↔ name.lower = n := by
  induction name generalizing n with
  | nil =>
    cases n with
    | nil => simp [namesTag_nil, endsRawName_eq, hd, lower_nil]
    | cons a n =>
      have hlower : ∀ d ∈ [Byte.space, Byte.lf, Byte.cr, Byte.tab, Byte.ff, Byte.slash, Byte.gt],
          Byte.lower d = d := forall_mem_of_all (by decide)
      have hl := hlower d (mem_of_not_isNameByte hd)
      have ha : a ≠ d := by
        rintro rfl
        rw [hn a (List.mem_cons_self ..)] at hd
        cases hd
      simp [namesTag_cons, hl, ha, lower_nil]
  | cons c name ih =>
    cases n with
    | nil =>
      have hc := hname c (List.mem_cons_self ..)
      simp [namesTag_nil, endsRawName_eq, hc, lower_cons]
    | cons a n =>
      rw [List.cons_append, namesTag_cons, Bool.and_eq_true, beq_iff_eq, lower_cons,
        ih (fun b hb => hn b (List.mem_cons_of_mem _ hb))
          (fun b hb => hname b (List.mem_cons_of_mem _ hb)), List.cons.injEq]
      exact and_congr_left' eq_comm

theorem RawElement.isNameByte_name (element : RawElement) :
    ∀ b ∈ element.name, isNameByte b = true := by
  cases element <;> exact forall_mem_of_all (by decide)

theorem readTag?_stop {s name rest : Bytes} {attrs : List (Bytes × Bytes)}
    (h : readTag? s = some (name, attrs, rest)) :
    ∃ d w, s = name ++ d :: w ∧ isNameByte d = false := by
  obtain ⟨⟨attrs', rest'⟩, ha, he⟩ := Option.map_eq_some_iff.1 h
  cases he
  cases hd : s.dropWhile isNameByte with
  | nil =>
    rw [hd, readAttrs?_of_nil rfl] at ha
    cases ha
  | cons d w =>
    exact ⟨d, w, by rw [← hd, List.takeWhile_append_dropWhile], head_dropWhile hd⟩

theorem CloseTag.startsRawEnd_iff {t : Token} {name : Bytes} (h : CloseTag t name)
    (element : RawElement) (x : Bytes) :
    startsRawEnd element.name (t.raw ++ x) = true ↔ name.lower = element.name := by
  obtain ⟨body, attrs, hraw, hr⟩ := h.raw
  obtain ⟨d, w, rfl, hd⟩ := readTag?_stop hr
  have hiff := namesTag_iff element.isNameByte_name h.isName.bytes hd (w ++ x)
  rw [hraw]
  simpa [startsRawEnd, List.isPrefixOf] using hiff

theorem contentRest_of_startsRawEnd {element : RawElement} (he : element ≠ .plaintext) {s : Bytes}
    (h : startsRawEnd element.name s = true) : contentRest element s = s := by
  cases s with
  | nil => cases h
  | cons c s =>
    have hscript (h : startsRawEnd scriptName (c :: s) = true) :
        scriptRest .plain 0 (c :: s) = c :: s := by
      rw [scriptRest, scriptStep_eq_none.2 ⟨h, by simp⟩]
    have hraw : rawRest element.name (c :: s) = c :: s := by rw [rawRest, if_pos h]
    cases element <;>
      first
        | exact absurd rfl he
        | exact hscript h
        | exact hraw

theorem exists_of_startsRawEnd {element : RawElement} {s : Bytes}
    (h : startsRawEnd element.name s = true) :
    ∃ c w, s = Byte.lt :: Byte.slash :: c :: w ∧ Byte.isLetter c = true := by
  rw [startsRawEnd, Bool.and_eq_true, List.isPrefixOf_iff_prefix] at h
  obtain ⟨⟨w, rfl⟩, hn⟩ := h
  obtain ⟨a, n, hname, ha⟩ : ∃ a n, element.name = a :: n ∧
      ∀ c, a = Byte.lower c → Byte.isLetter c = true := by
    cases element <;> exact ⟨_, _, rfl, fun c hc => Byte.isLetter_of_lower (hc ▸ by decide)⟩
  cases w with
  | nil => rw [hname] at hn; cases hn
  | cons c w =>
    have hn' : namesTag (a :: n) (c :: w) = true := by rw [← hname]; exact hn
    rw [namesTag_cons, Bool.and_eq_true, beq_iff_eq] at hn'
    exact ⟨c, w, rfl, ha c hn'.1⟩

theorem closeTag_of_startsRawEnd {element : RawElement} {s u : Bytes} {t : Token}
    (h : scanMarkup s = .token t u) (hend : startsRawEnd element.name s = true) :
    ∃ name, CloseTag t name ∧ name.lower = element.name := by
  have hscan : scan .markup s = .token t u := h
  have happ : t.raw ++ u = s := scan_append hscan
  obtain ⟨c, w, hw, hc⟩ := exists_of_startsRawEnd hend
  have hclose : ∃ name, CloseTag t name := by
    rw [hw] at h
    unfold scanMarkup at h
    dsimp only at h
    rw [if_pos (by rfl)] at h
    split at h
    · rename_i hm
      cases h
      exact closeTag_of_closeTag? hc hm
    · cases h
  obtain ⟨name, ht⟩ := hclose
  rw [← happ] at hend
  exact ⟨name, ht, (ht.startsRawEnd_iff element u).1 hend⟩

theorem scan_raw_cases {element : RawElement} {t : Token} {u : Bytes}
    (h : scan (.raw element) (t.raw ++ u) = .token t u) :
    contentRest element (t.raw ++ u) = u ∧ t.kind = .text (decodeRaw element t.raw) ∨
      element ≠ .plaintext ∧ ∃ name, CloseTag t name ∧ name.lower = element.name := by
  have hne := scan_raw_ne_nil h
  unfold scan at h
  dsimp only at h
  split at h
  · rename_i hempty
    have hs : contentRest element (t.raw ++ u) = t.raw ++ u := by
      have happ := slice_append (contentRest_suffix element (t.raw ++ u))
      rwa [List.isEmpty_iff.1 hempty, List.nil_append] at happ
    have hnil : t.raw ++ u ≠ [] := fun h => hne (List.append_eq_nil_iff.1 h).1
    have hend : startsRawEnd element.name (t.raw ++ u) = true := by
      have hend := startsRawEnd_contentRest element (t.raw ++ u)
      rw [hs] at hend
      exact hend.resolve_left hnil
    have hp : element ≠ .plaintext := by
      rintro rfl
      exact hnil hs.symm
    obtain ⟨name, ht, hn⟩ := closeTag_of_startsRawEnd h hend
    exact .inr ⟨hp, name, ht, hn⟩
  · have hc := congrArg (fun step => match step with | .token _ r => r | .finished r => r) h
    dsimp only at hc
    injection h with ht _
    refine .inl ⟨hc, ?_⟩
    rw [hc, slice_left] at ht
    rw [← ht]

theorem scan_of_content {element : RawElement} {f v : Bytes} (hf : f ≠ [])
    (h : contentRest element (f ++ v) = v) :
    scan (.raw element) (f ++ v) = .token ⟨f, .text (decodeRaw element f)⟩ v := by
  unfold scan
  dsimp only
  rw [h, slice_left, if_neg (by simpa using hf)]

theorem CloseTag.scan_raw {t : Token} {name : Bytes} (h : CloseTag t name) {element : RawElement}
    (he : element ≠ .plaintext) (hn : name.lower = element.name) (v : Bytes) :
    Markup.scan (.raw element) (t.raw ++ v) = .token t v := by
  have hc := contentRest_of_startsRawEnd he ((h.startsRawEnd_iff element v).2 hn)
  unfold Markup.scan
  dsimp only
  rw [hc, show slice (t.raw ++ v) (t.raw ++ v) = [] by simp [slice],
    if_pos List.isEmpty_nil]
  exact h.scan v

/-- A token, whatever follows it. What follows a text has to end it. -/
theorem scan_swap {mode : Mode} {t : Token} {u v : Bytes} (h : scan mode (t.raw ++ u) = .token t u)
    (hu : u ≠ []) (hm : startsMarkup u = true → v = [] ∨ startsMarkup v = true)
    (hr : ∀ element data, mode = .raw element → t.kind = .text data →
      startsRawEnd element.name u = true → v = [] ∨ startsRawEnd element.name v = true) :
    ∃ kind, scan mode (t.raw ++ v) = .token ⟨t.raw, kind⟩ v ∧ Reread t.raw v t.kind kind := by
  cases mode with
  | markup => exact scanMarkup_swap h hu hm
  | raw element =>
    rcases scan_raw_cases h with ⟨hc, hk⟩ | ⟨he, name, ht, hn⟩
    · have hend := startsRawEnd_contentRest element (t.raw ++ u)
      rw [hc] at hend
      have hv := hr element _ rfl hk (hend.resolve_left hu)
      exact ⟨_, scan_of_content (scan_raw_ne_nil h) (contentRest_swap hc hu hv), .inl hk.symm⟩
    · exact ⟨_, ht.scan_raw he hn v, .inl rfl⟩

end Markup

end Graft
