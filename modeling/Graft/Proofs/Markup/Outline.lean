import Graft.Proofs.Markup.Spread

/-!
# Graft.Proofs.Markup.Outline

The tags of a source, without their attributes and without what stands between them. Filler behind a
`>` leaves them as they are.

* `Outline`, `outline`: the tags among tokens.
* `outline_textRest`, `outline_contentRest`: texts have none.
* `SameTag`, `Spread.markup?`: one token.
* `outline_spread`: all tokens of a source.
-/

namespace Graft.Markup

/-- What counts of a tag. -/
inductive Outline where
  | start (name : Bytes)
  | single (name : Bytes)
  | stop (name : Bytes)
deriving DecidableEq

def outline? (t : Token) : Option Outline :=
  match t.kind with
  | .startTag _ _ => some (.start (tagName t))
  | .selfClosing _ _ => some (.single (tagName t))
  | .endTag _ => some (.stop (tagName t))
  | _ => none

def outline (ts : List Token) : List Outline := ts.filterMap outline?

theorem outline_cons (t : Token) (ts : List Token) :
    outline (t :: ts) = (outline? t).toList ++ outline ts := by
  rw [outline, List.filterMap_cons]
  cases outline? t <;> rfl

theorem outline_append (ts us : List Token) : outline (ts ++ us) = outline ts ++ outline us :=
  List.filterMap_append

theorem outline?_declaration (raw s : Bytes) : outline? ⟨raw, (declaration s).1⟩ = none := by
  rcases declaration_kind s with ⟨data, hk⟩ | ⟨data, hk⟩ <;> rw [outline?, hk]

theorem outline_textRest (s : Bytes) :
    outline (tokensFrom .markup (textRest s)) = outline (tokensFrom .markup s) := by
  by_cases hs : startsMarkup s = true
  · rw [textRest_of_startsMarkup hs]
  · by_cases hnil : s = []
    · rw [hnil]
      rfl
    · have hscan : scan .markup s =
          .token ⟨slice s (textRest s), .text (decodeText (slice s (textRest s)))⟩
          (textRest s) := by
        unfold scan scanMarkup
        dsimp only
        split
        · exact absurd rfl hnil
        · rw [if_neg hs]
      rw [tokensFrom_of_token hscan, outline_cons]
      rfl

theorem outline_contentRest (element : RawElement) (s : Bytes) :
    outline (tokensFrom .markup (contentRest element s)) = outline (tokensFrom (.raw element) s) := by
  have hsuffix := contentRest_suffix element s
  by_cases hraw : slice s (contentRest element s) = []
  · have hrest : contentRest element s = s := by
      have happ := slice_append hsuffix
      rwa [hraw, List.nil_append] at happ
    have hscan : scan (.raw element) s = scan .markup s := by
      unfold scan
      dsimp only
      rw [hraw]
      rfl
    rw [hrest, tokensFrom, tokensFrom, hscan]
  · have hscan : scan (.raw element) s =
        .token ⟨slice s (contentRest element s),
          .text (decodeRaw element (slice s (contentRest element s)))⟩
          (contentRest element s) := by
      rw [scan]
      exact if_neg (by simpa using hraw)
    rw [tokensFrom_of_token hscan, outline_cons]
    rfl

theorem outline_fills {f : Bytes} (hf : Fills f) (mode : Mode) (s : Bytes) :
    outline (tokensFrom mode (f ++ s)) = outline (tokensFrom mode s) := by
  have hlt : Byte.lt ∉ f := hf.not_mem (by decide) (by decide)
  cases mode with
  | markup => rw [← outline_textRest, textRest_prepend hlt, outline_textRest]
  | raw element => rw [← outline_contentRest, contentRest_prepend hlt, outline_contentRest]

/-- Two tokens that are the same tag, or no tags, with the same mode behind them. -/
def SameTag (t t' : Token) : Prop := outline? t = outline? t' ∧ t.mode = t'.mode

theorem sameTag_of_none {t t' : Token} (h : outline? t = none) (h' : outline? t' = none) :
    SameTag t t' := by
  have mode {t : Token} (h : outline? t = none) : t.mode = .markup := by
    unfold outline? at h
    unfold Token.mode
    split at h <;> simp_all
  exact ⟨h.trans h'.symm, (mode h).trans (mode h').symm⟩

theorem OpenTag.outline?_eq {t : Token} {name : Bytes} {attrs : List (Bytes × Bytes)}
    (h : OpenTag t name attrs) :
    outline? t = some (if endsWithSlash t.raw then .single name else .start name) := by
  have hk := h.kind
  unfold outline?
  split at hk
  · rename_i hslash
    rw [hk, h.tagName, if_pos hslash]
  · rename_i hslash
    rw [hk, h.tagName, if_neg hslash]

theorem CloseTag.outline?_eq {t : Token} {name : Bytes} (h : CloseTag t name) :
    outline? t = some (.stop name) := by
  rw [outline?, h.kind, tagName, h.kind]
  exact congrArg (some ∘ Outline.stop) h.spelledName

theorem OpenTag.readTag?_eq {t : Token} {name : Bytes} {attrs : List (Bytes × Bytes)}
    (h : OpenTag t name attrs) (x : Bytes) :
    readTag? ((t.raw ++ x).drop 1) = some (name, attrs, x) := by
  obtain ⟨body, hraw, hread⟩ := h.raw
  rw [hraw]
  exact readTag?_extend hread x

theorem CloseTag.exists_readTag? {t : Token} {name : Bytes} (h : CloseTag t name) (x : Bytes) :
    ∃ attrs, readTag? ((t.raw ++ x).drop 2) = some (name, attrs, x) := by
  obtain ⟨body, attrs, hraw, hread⟩ := h.raw
  rw [hraw]
  exact ⟨attrs, readTag?_extend hread x⟩

theorem closeTag_of_readTag? {c : UInt8} {s : Bytes} {x : Bytes × List (Bytes × Bytes) × Bytes}
    (hc : Byte.isLetter c = true) (h : readTag? (c :: s) = some x) :
    closeTag? (c :: s) = some (.endTag x.1.lower, x.2.2) ∧
      CloseTag ⟨slice (Byte.lt :: Byte.slash :: c :: s) x.2.2, .endTag x.1.lower⟩ x.1 := by
  have hgt : c ≠ Byte.gt := by
    rintro rfl
    exact absurd hc (by decide)
  have hclose : closeTag? (c :: s) = some (.endTag x.1.lower, x.2.2) := by
    rw [closeTag?, if_neg hgt, if_pos hc, h]
    rfl
  refine ⟨hclose, ?_⟩
  obtain ⟨name, htag⟩ := closeTag_of_closeTag? hc hclose
  obtain ⟨attrs, hread⟩ := htag.exists_readTag? x.2.2
  have hsuffix : x.2.2 <:+ Byte.lt :: Byte.slash :: c :: s :=
    (closeTag?_suffix hclose).trans (List.suffix_append [_, _] _)
  dsimp only at hread
  rw [slice_append hsuffix] at hread
  have hname : x.1 = name := congrArg Prod.fst (Option.some.inj (h.symm.trans hread))
  rwa [← hname] at htag

theorem openTag_of_readTag? {c : UInt8} {s : Bytes} {x : Bytes × List (Bytes × Bytes) × Bytes}
    (hc : Byte.isLetter c = true) (h : readTag? (c :: s) = some x) :
    ∃ kind, openTag? (Byte.lt :: c :: s) = some (kind, x.2.2) ∧
      OpenTag ⟨slice (Byte.lt :: c :: s) x.2.2, kind⟩ x.1 x.2.1 := by
  obtain ⟨kind, hopen⟩ : ∃ kind, openTag? (Byte.lt :: c :: s) = some (kind, x.2.2) := by
    rw [openTag?, List.drop_succ_cons, List.drop_zero, h, Option.map_some]
    dsimp only
    split <;> exact ⟨_, rfl⟩
  refine ⟨kind, hopen, ?_⟩
  obtain ⟨name, attrs, htag⟩ := openTag_of_openTag? hc hopen
  have hread := htag.readTag?_eq x.2.2
  dsimp only at hread
  rw [slice_append ((openTag?_suffix hopen).trans (List.drop_suffix _ _))] at hread
  have hx : x = (name, attrs, x.2.2) := Option.some.inj (h.symm.trans hread)
  rw [hx]
  exact htag

/-! ## Filler -/

section

variable {s s' : Bytes}

theorem Spread.closeTag? (h : Spread s s') :
    Option.Rel (fun x x' => Trails x.2 x'.2 ∧
        SameTag ⟨slice (Byte.lt :: Byte.slash :: s) x.2, x.1⟩
          ⟨slice (Byte.lt :: Byte.slash :: s') x'.2, x'.1⟩)
      (closeTag? s) (closeTag? s') := by
  cases h with
  | nil => exact .some ⟨Spread.nil.trails, rfl, rfl⟩
  | fill hf h => exact .some ⟨⟨_, _, hf, h, rfl⟩, rfl, rfl⟩
  | @cons c s s' hc h =>
    have hcons := Spread.cons hc h
    by_cases hletter : Byte.isLetter c = true
    · have hread := hcons.readTag?
      generalize hx : Markup.readTag? (c :: s) = read at hread
      generalize hx' : Markup.readTag? (c :: s') = read' at hread
      cases hread with
      | none =>
        rw [Markup.closeTag?, Markup.closeTag?, if_neg hc, if_neg hc, if_pos hletter, if_pos hletter,
          hx, hx']
        exact .none
      | some h =>
        obtain ⟨hclose, htag⟩ := closeTag_of_readTag? hletter hx
        obtain ⟨hclose', htag'⟩ := closeTag_of_readTag? hletter hx'
        rw [hclose, hclose']
        refine .some ⟨h.2.1, ?_, htag.mode.trans htag'.mode.symm⟩
        rw [htag.outline?_eq, htag'.outline?_eq, h.1]
    · rw [Markup.closeTag?, Markup.closeTag?, if_neg hc, if_neg hc, if_neg hletter, if_neg hletter]
      exact .some ⟨hcons.untilClose, rfl, rfl⟩

/-- The byte in front of the `>` tells whether a tag is self-closing. -/
theorem Ended.endsWithSlash_eq {c : UInt8} {r r' : Bytes} (h : Ended s s' r r') :
    endsWithSlash (slice (c :: s) r) = endsWithSlash (slice (c :: s') r') := by
  obtain ⟨_, w, w', rfl, rfl, hlast⟩ := h
  have hraw (w r : Bytes) : endsWithSlash (slice (c :: (w ++ Byte.gt :: r)) r) =
      ((c :: w).getLast? == some Byte.slash) := by
    have happ : c :: (w ++ Byte.gt :: r) = (c :: w ++ [Byte.gt]) ++ r := by simp
    rw [happ, slice_left, endsWithSlash, List.dropLast_concat]
  rw [hraw, hraw, List.getLast?_cons, List.getLast?_cons, hlast]

theorem Spread.openTag? {c : UInt8} (hc : Byte.isLetter c = true) (h : Spread (c :: s) (c :: s')) :
    Option.Rel (fun x x' => Trails x.2 x'.2 ∧
        SameTag ⟨slice (Byte.lt :: c :: s) x.2, x.1⟩ ⟨slice (Byte.lt :: c :: s') x'.2, x'.1⟩)
      (openTag? (Byte.lt :: c :: s)) (openTag? (Byte.lt :: c :: s')) := by
  have hread := h.readTag?
  generalize hx : Markup.readTag? (c :: s) = read at hread
  generalize hx' : Markup.readTag? (c :: s') = read' at hread
  cases hread with
  | none =>
    rw [Markup.openTag?, Markup.openTag?, List.drop_succ_cons, List.drop_zero, List.drop_succ_cons,
      List.drop_zero, hx, hx']
    exact .none
  | some h =>
    obtain ⟨kind, hopen, htag⟩ := openTag_of_readTag? hc hx
    obtain ⟨kind', hopen', htag'⟩ := openTag_of_readTag? hc hx'
    have hslash := h.2.endsWithSlash_eq (c := Byte.lt)
    rw [hopen, hopen']
    refine .some ⟨h.2.1, ?_, ?_⟩
    · rw [htag.outline?_eq, htag'.outline?_eq, h.1]
      dsimp only
      rw [hslash]
    · rw [htag.mode, htag'.mode, h.1]
      dsimp only
      rw [hslash]

theorem Spread.markup? (h : Spread s s') (hs : startsMarkup s = true) :
    Option.Rel (fun x x' => Trails x.2 x'.2 ∧ SameTag ⟨slice s x.2, x.1⟩ ⟨slice s' x'.2, x'.1⟩)
      (markup? s) (markup? s') := by
  match s, h, hs with
  | c :: d :: s, h, hs =>
    simp only [startsMarkup, Bool.and_eq_true, Bool.or_eq_true, beq_iff_eq] at hs
    obtain ⟨rfl, hd⟩ := hs
    have hgt : d ≠ Byte.gt := by
      rintro rfl
      revert hd
      decide
    obtain ⟨s', rfl, hrest⟩ := Spread.drop_word (p := [Byte.lt, d]) (by
      rw [List.mem_cons, List.mem_singleton, not_or]
      exact ⟨by decide, Ne.symm hgt⟩) h
    change Option.Rel _ _ (Markup.markup? (Byte.lt :: d :: s'))
    unfold Markup.markup?
    dsimp only
    split
    · rename_i hslash
      subst hslash
      exact hrest.closeTag?
    split
    · exact .some ⟨hrest.declaration,
        sameTag_of_none (outline?_declaration _ s) (outline?_declaration _ s')⟩
    split
    · exact .some ⟨(Spread.cons hgt hrest).untilClose, rfl, rfl⟩
    · rename_i h1 h2 h3
      have hletter : Byte.isLetter d = true := by simpa [h1, h2, h3] using hd
      exact Spread.openTag? hletter (.cons hgt hrest)

end

theorem scan_of_startsMarkup {s : Bytes} (hs : startsMarkup s = true) :
    scan .markup s =
      match markup? s with
      | some (kind, rest) => .token ⟨slice s rest, kind⟩ rest
      | none => .finished s := by
  unfold scan scanMarkup
  dsimp only
  split
  · cases hs
  · exact if_pos hs

theorem outline_spread {s s' : Bytes} (h : Spread s s') : outline (tokens s) = outline (tokens s') := by
  -- the induction is on the length; what a tag leaves is shorter, in whatever mode it is read
  induction hn : s.length using Nat.strongRecOn generalizing s s' with
  | ind n ih =>
    rw [tokens, tokens, ← outline_textRest s, ← outline_textRest s']
    have hrest := h.textRest
    have hlen := (textRest_suffix s).length_le
    by_cases hnil : textRest s = []
    · rw [hnil] at hrest ⊢
      generalize textRest s' = r' at hrest
      cases hrest
      rfl
    have hstarts := startsMarkup_textRest hnil
    have hread := hrest.markup? hstarts
    have hscan := scan_of_startsMarkup hstarts
    have hscan' := scan_of_startsMarkup (hrest.startsMarkup_eq.trans hstarts)
    generalize hm : markup? (textRest s) = read at hread hscan
    generalize hm' : markup? (textRest s') = read' at hread hscan'
    cases hread with
    | none => rw [tokensFrom_of_finished hscan, tokensFrom_of_finished hscan']
    | @some x x' hx =>
      obtain ⟨⟨f, r, hf, hr, htrails⟩, htag, hmode⟩ := hx
      have hshort : x.2.length < s.length := by
        have hsuffix := (markup?_suffix hm).length_le
        rw [List.length_drop] at hsuffix
        have hpos := List.length_pos_iff.2 hnil
        omega
      rw [tokensFrom_of_token hscan, tokensFrom_of_token hscan', outline_cons, outline_cons, htag,
        hmode, htrails, outline_fills hf]
      congr 1
      cases Token.mode _ with
      | markup => exact ih _ (by omega) hr rfl
      | raw element =>
        have hcontent := (contentRest_suffix element x.2).length_le
        rw [← outline_contentRest, ← outline_contentRest]
        exact ih _ (by omega) (hr.contentRest element) rfl

end Graft.Markup
