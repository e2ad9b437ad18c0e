import Graft.Markup.Render
import Graft.Proofs.Markup.Nesting
import Graft.Proofs.Markup.Reference
import Graft.Proofs.Markup.Run

/-!
# Graft.Proofs.Markup.WrittenTag

Tags, comments and doctypes as they are written are read back as one token.

* `readAttrs?_quoted`, `readAttrs?_renderAttrs`: attributes with quoted values.
* `openTag_written`, `closeTag_written`: tags.
* `commentSplit_escaped`, `scan_comment`: a comment ends at the end it is written with.
* `scan_doctype`: a doctype.
-/

namespace Graft.Markup

open Bytes

/-! ## Attributes -/

theorem readValue?_quoted {v : Bytes} (hv : Byte.quote ∉ v) (s : Bytes) :
    readValue? (Byte.eq :: Byte.quote :: (v ++ Byte.quote :: s)) = some (v, s) := by
  have hv' : ∀ b ∈ v, (b != Byte.quote) = true := by
    intro b hb
    rw [bne_iff_ne]
    rintro rfl
    exact hv hb
  have hread : readValue? (Byte.eq :: Byte.quote :: (v ++ Byte.quote :: s)) =
      some ((v ++ Byte.quote :: s).takeWhile (· != Byte.quote), s) :=
    readValue?_iff.2 (.quoted (List.dropWhile_cons_of_neg (by decide))
      (List.dropWhile_cons_of_neg (by decide)) (.inl rfl) (dropWhile_append_stop hv' (by decide)))
  rwa [takeWhile_append_stop hv' (by decide)] at hread

theorem readAttrs?_key {key s : Bytes} (hk : IsKey key) (d : UInt8) (hd : isKeyByte d = false) :
    readAttrs? (Byte.space :: (key ++ d :: s)) =
      match readValue? (d :: s) with
      | none => none
      | some (val, behind) =>
        (readAttrs? behind).map fun (attrs, last) => ((key, val) :: attrs, last) := by
  match key, hk with
  | c :: key, ⟨hc, hkey⟩ =>
    have hc' : Byte.isSpace c = false ∧ c ≠ Byte.gt ∧ c ≠ Byte.slash := by
      simp only [isNameByte, Bool.not_eq_true', Bool.or_eq_false_iff, beq_eq_false_iff_ne] at hc
      exact ⟨hc.1.1, hc.2, hc.1.2⟩
    obtain ⟨hspace, hgt, hslash⟩ := hc'
    have hdrop : (Byte.space :: (c :: key ++ d :: s)).dropWhile Byte.isSpace =
        c :: (key ++ d :: s) := by
      rw [List.dropWhile_cons_of_pos (by decide), List.cons_append,
        List.dropWhile_cons_of_neg (by simp [hspace])]
    cases hv : readValue? (d :: s) with
    | none | some =>
      rw [readAttrs?_of_cons hdrop, if_neg hgt, if_neg hslash, dropWhile_append_stop hkey hd,
        takeWhile_append_stop hkey hd, hv]

theorem readAttrs?_quoted {key v : Bytes} (hk : IsKey key) (hv : Byte.quote ∉ v) (s : Bytes) :
    readAttrs? (Byte.space :: (key ++ Byte.eq :: Byte.quote :: (v ++ Byte.quote :: s))) =
      (readAttrs? s).map fun (attrs, last) => ((key, v) :: attrs, last) := by
  rw [readAttrs?_key hk _ (by decide), readValue?_quoted hv]

theorem quote_not_mem_escape (s : Bytes) : Byte.quote ∉ escape s := fun h => (mem_escape h).2.2.1 rfl

theorem lt_not_mem_escape (s : Bytes) : Byte.lt ∉ escape s := fun h => (mem_escape h).1 rfl

theorem renderAttrs_cons (a : Attr) (attrs : List Attr) :
    renderAttrs (a :: attrs) =
      Byte.space :: (a.key ++ Byte.eq :: Byte.quote :: (escape a.val ++ [Byte.quote])) ++
        renderAttrs attrs := by
  simp only [renderAttrs, List.flatMap_cons, List.cons_append, List.append_assoc]
  rfl

/-- Attributes as they stand in a written tag. -/
def writtenPairs (attrs : List Attr) : List (Bytes × Bytes) :=
  attrs.map fun a => (a.key, escape a.val)

theorem readAttrs?_renderAttrs {attrs : List Attr} (hk : ∀ a ∈ attrs, IsKey a.key) {tail : Bytes}
    (ht : readAttrs? tail = some ([], [])) :
    readAttrs? (renderAttrs attrs ++ tail) = some (writtenPairs attrs, []) := by
  induction attrs with
  | nil => exact ht
  | cons a attrs ih =>
    have hmore := ih fun b hb => hk b (List.mem_cons_of_mem _ hb)
    have hread := readAttrs?_quoted (hk a (List.mem_cons_self ..)) (quote_not_mem_escape a.val)
      (renderAttrs attrs ++ tail)
    rw [hmore, Option.map_some] at hread
    rw [renderAttrs_cons]
    change _ = some ((a.key, escape a.val) :: writtenPairs attrs, [])
    simpa only [List.cons_append, List.append_assoc, List.nil_append] using hread

theorem decode_writtenPairs (attrs : List Attr) :
    (writtenPairs attrs).map (fun a => (⟨a.1, decodeValue a.2⟩ : Attr)) = attrs := by
  induction attrs with
  | nil => rfl
  | cons a attrs ih =>
    simp only [writtenPairs, List.map_cons, decodeValue_escape] at ih ⊢
    rw [ih]

/-! ## Tags -/

theorem openTag_of_tail {name : Bytes} {attrs : List (Bytes × Bytes)} {d : UInt8} {w : Bytes}
    (hn : IsTagName name) (hd : isNameByte d = false) (ha : readAttrs? (d :: w) = some (attrs, []))
    {raw : Bytes} (hraw : raw = Byte.lt :: (name ++ d :: w)) :
    OpenTag
      ⟨raw,
        if endsWithSlash raw then .selfClosing name.lower (decodeAttrs attrs)
        else .startTag name.lower (decodeAttrs attrs)⟩ name attrs where
  isName := hn
  isKey := isKey_of_readAttrs? _ ha
  raw := by
    refine ⟨_, hraw, ?_⟩
    rw [readTag?, dropWhile_append_stop hn.bytes hd, takeWhile_append_stop hn.bytes hd, ha]
    rfl
  kind := rfl

/-- The end tag of an element. -/
def endText (name : Bytes) : Bytes := Byte.lt :: Byte.slash :: (name ++ [Byte.gt])

theorem closeTag_written {name : Bytes} (hn : IsTagName name) :
    CloseTag ⟨endText name, .endTag name.lower⟩ name where
  isName := hn
  raw := by
    refine ⟨_, [], rfl, ?_⟩
    rw [readTag?, dropWhile_append_stop hn.bytes (by decide),
      takeWhile_append_stop hn.bytes (by decide)]
    rw [readAttrs?_of_cons (List.dropWhile_cons_of_neg (by decide)), if_pos rfl]
    rfl
  kind := rfl

theorem endsWithSlash_append (s : Bytes) (c : UInt8) :
    endsWithSlash (s ++ [c]) = (s.getLast? == some Byte.slash) := by
  rw [endsWithSlash, List.dropLast_concat]

theorem getLast?_renderAttrs {s : Bytes} (h : s.getLast? ≠ some Byte.slash) (attrs : List Attr) :
    (s ++ renderAttrs attrs).getLast? ≠ some Byte.slash := by
  induction attrs generalizing s with
  | nil => simpa [renderAttrs] using h
  | cons a attrs ih =>
    rw [renderAttrs_cons, ← List.append_assoc]
    refine ih ?_
    rw [show s ++ Byte.space :: (a.key ++ Byte.eq :: Byte.quote :: (escape a.val ++ [Byte.quote])) =
      (s ++ Byte.space :: (a.key ++ Byte.eq :: Byte.quote :: escape a.val)) ++ [Byte.quote] by simp]
    rw [List.getLast?_concat]
    decide

theorem IsTagName.getLast? {name : Bytes} (h : IsTagName name) :
    (Byte.lt :: name).getLast? ≠ some Byte.slash := by
  intro hlast
  rcases List.mem_cons.1 (List.mem_of_getLast? hlast) with hm | hm
  · cases hm
  · exact absurd (h.bytes _ hm) (by decide)

/-- A start tag put together from a name and the text of its attributes. -/
theorem openTag_of_text {name text : Bytes} {pairs : List (Bytes × Bytes)} (hn : IsTagName name)
    (hstart : ∀ d ∈ text.head?, isNameByte d = false)
    (hlast : (Byte.lt :: name ++ text).getLast? ≠ some Byte.slash)
    (hr : readAttrs? (text ++ [Byte.gt]) = some (pairs, [])) :
    ∃ t, OpenTag t name pairs ∧ endsWithSlash t.raw = false ∧
      t.raw = Byte.lt :: name ++ text ++ [Byte.gt] := by
  obtain ⟨d, w, hdw, hd⟩ : ∃ d w, text ++ [Byte.gt] = d :: w ∧ isNameByte d = false := by
    cases text with
    | nil => exact ⟨_, _, rfl, by decide⟩
    | cons d w => exact ⟨_, _, rfl, hstart d rfl⟩
  rw [hdw] at hr
  refine ⟨_, openTag_of_tail hn hd hr rfl, ?_, ?_⟩
  · dsimp only
    rw [← hdw, ← List.append_assoc, ← List.cons_append, endsWithSlash_append]
    exact beq_eq_false_iff_ne.2 hlast
  · dsimp only
    rw [← hdw, List.append_assoc, List.cons_append]

theorem readAttrs?_gt : readAttrs? [Byte.gt] = some ([], []) := by
  rw [readAttrs?_of_cons (List.dropWhile_cons_of_neg (by decide)), if_pos rfl]

theorem openTag_written {name : Bytes} {attrs : List Attr} (hn : IsTagName name)
    (hk : ∀ a ∈ attrs, IsKey a.key) :
    ∃ t, OpenTag t name (writtenPairs attrs) ∧ endsWithSlash t.raw = false ∧
      t.raw = Byte.lt :: name ++ renderAttrs attrs ++ [Byte.gt] := by
  refine openTag_of_text hn ?_ (getLast?_renderAttrs hn.getLast? attrs)
    (readAttrs?_renderAttrs hk readAttrs?_gt)
  cases attrs with
  | nil => simp [renderAttrs]
  | cons a attrs =>
    rw [renderAttrs_cons]
    simp only [List.cons_append, List.head?_cons, Option.mem_some_iff, forall_eq']
    decide

theorem voidTag_written {name : Bytes} {attrs : List Attr} (hn : IsTagName name)
    (hk : ∀ a ∈ attrs, IsKey a.key) :
    ∃ t, OpenTag t name (writtenPairs attrs) ∧ endsWithSlash t.raw = true ∧
      t.raw = Byte.lt :: name ++ renderAttrs attrs ++ [Byte.slash, Byte.gt] := by
  have hend : readAttrs? [Byte.slash, Byte.gt] = some ([], []) := by
    rw [readAttrs?_of_cons (List.dropWhile_cons_of_neg (by decide)), if_neg (by decide), if_pos rfl,
      readAttrs?_of_cons (List.dropWhile_cons_of_neg (by decide)), if_pos rfl]
  have hread := readAttrs?_renderAttrs hk hend
  obtain ⟨d, w, hdw, hd⟩ : ∃ d w, renderAttrs attrs ++ [Byte.slash, Byte.gt] = d :: w ∧
      isNameByte d = false := by
    cases attrs with
    | nil => exact ⟨_, _, rfl, by decide⟩
    | cons a attrs => exact ⟨_, _, by rw [renderAttrs_cons]; rfl, by decide⟩
  rw [hdw] at hread
  refine ⟨_, openTag_of_tail hn hd hread rfl, ?_, ?_⟩
  · dsimp only
    rw [← hdw]
    rw [show Byte.lt :: (name ++ (renderAttrs attrs ++ [Byte.slash, Byte.gt])) =
      (Byte.lt :: (name ++ renderAttrs attrs ++ [Byte.slash])) ++ [Byte.gt] by simp]
    rw [endsWithSlash_append, ← List.cons_append, List.getLast?_concat]
    rfl
  · dsimp only
    rw [← hdw, List.append_assoc, List.cons_append]

/-! ## Comments and doctypes -/

theorem commentSplit_of_ne {c : UInt8} (hc : c ≠ Byte.dash) (s : Bytes) :
    commentSplit (c :: s) = (c :: (commentSplit s).1, (commentSplit s).2) := by
  rw [commentSplit]
  dsimp only
  rw [if_neg (by simp [hc]), if_neg (by simp [List.isPrefixOf, Ne.symm hc]),
    if_neg (by simp [List.isPrefixOf, Ne.symm hc])]

theorem commentSplit_append {w : Bytes} (hw : Byte.dash ∉ w) (s : Bytes) :
    commentSplit (w ++ s) = (w ++ (commentSplit s).1, (commentSplit s).2) := by
  induction w with
  | nil => rfl
  | cons c w ih =>
    rw [List.mem_cons, not_or] at hw
    rw [List.cons_append, commentSplit_of_ne (Ne.symm hw.1), ih hw.2]
    rfl

/-- What ends a comment. -/
def arrow : Bytes := [Byte.dash, Byte.dash, Byte.gt]

theorem escapeCommentFrom_cons (mayEnd : Bool) (c : UInt8) (data : Bytes) :
    escapeCommentFrom mayEnd (c :: data) =
      (if c = Byte.amp then ("&amp;" : Bytes)
        else if c = Byte.gt ∧ mayEnd = true then ("&gt;" : Bytes) else [c]) ++
        escapeCommentFrom (c == Byte.bang || c == Byte.dash) data := rfl

/-- A byte at the head of escaped data stands there as it is, and is no `>` that could end the
comment. -/
theorem escapeCommentFrom_head {data x y : Bytes} {c : UInt8}
    (h : escapeCommentFrom true data ++ (arrow ++ x) = c :: y) (hc : c ≠ Byte.amp) :
    c ≠ Byte.gt ∧ (c = Byte.dash ∧ y = Byte.dash :: Byte.gt :: x ∨
      ∃ more, y = escapeCommentFrom (c == Byte.bang || c == Byte.dash) more ++ (arrow ++ x)) := by
  cases data with
  | nil =>
    obtain ⟨rfl, rfl⟩ := List.cons.inj h
    exact ⟨by decide, .inl ⟨rfl, rfl⟩⟩
  | cons d data =>
    rw [escapeCommentFrom_cons, List.append_assoc] at h
    split at h
    · exact absurd (List.cons.inj h).1.symm hc
    split at h
    · exact absurd (List.cons.inj h).1.symm hc
    · rename_i hgt
      obtain ⟨rfl, rfl⟩ := List.cons.inj h
      exact ⟨fun he => hgt ⟨he, rfl⟩, .inr ⟨data, rfl⟩⟩

theorem escapeCommentFrom_ne_dash_gt (data x y : Bytes) :
    escapeCommentFrom true data ++ (arrow ++ x) ≠ Byte.dash :: Byte.gt :: y := by
  intro h
  rcases (escapeCommentFrom_head h (by decide)).2 with ⟨_, hy⟩ | ⟨more, hy⟩
  · exact absurd (List.cons.inj hy).1 (by decide)
  · exact (escapeCommentFrom_head hy.symm (by decide)).1 rfl

theorem escapeCommentFrom_ne_dash_bang_gt (data x y : Bytes) :
    escapeCommentFrom true data ++ (arrow ++ x) ≠ Byte.dash :: Byte.bang :: Byte.gt :: y := by
  intro h
  rcases (escapeCommentFrom_head h (by decide)).2 with ⟨_, hy⟩ | ⟨more, hy⟩
  · exact absurd (List.cons.inj hy).1 (by decide)
  · rcases (escapeCommentFrom_head hy.symm (by decide)).2 with ⟨hb, _⟩ | ⟨more, hy⟩
    · exact absurd hb (by decide)
    · exact (escapeCommentFrom_head hy.symm (by decide)).1 rfl

theorem commentSplit_escaped (mayEnd : Bool) (data x : Bytes) :
    commentSplit (escapeCommentFrom mayEnd data ++ (arrow ++ x)) =
      (escapeCommentFrom mayEnd data, x) := by
  induction data generalizing mayEnd with
  | nil => exact commentSplit_arrow x
  | cons c data ih =>
    rw [escapeCommentFrom_cons, List.append_assoc]
    split
    · rw [commentSplit_append (by decide), ih]
    split
    · rw [commentSplit_append (by decide), ih]
    · by_cases hc : c = Byte.dash
      · subst hc
        have hgt := escapeCommentFrom_ne_dash_gt data x
        have hbang := escapeCommentFrom_ne_dash_bang_gt data x
        have hrec := ih true
        obtain ⟨a, b, d, g, hr⟩ :
            ∃ a b d g, escapeCommentFrom true data ++ (arrow ++ x) = a :: b :: d :: g := by
          match hs : escapeCommentFrom true data with
          | [] => exact ⟨_, _, _, _, rfl⟩
          | [_] => exact ⟨_, _, _, _, rfl⟩
          | [_, _] => exact ⟨_, _, _, _, rfl⟩
          | _ :: _ :: _ :: _ => exact ⟨_, _, _, _, rfl⟩
        rw [show (Byte.dash == Byte.bang || Byte.dash == Byte.dash) = true by decide]
        rw [hr] at hgt hbang hrec ⊢
        rw [List.singleton_append, commentSplit_long, if_neg, if_neg, hrec]
        · rfl
        · rintro ⟨_, rfl, rfl, rfl⟩
          exact hbang g rfl
        · rintro ⟨_, rfl, rfl⟩
          exact hgt (d :: g) rfl
      · rw [commentSplit_append (by simpa using Ne.symm hc), ih]

theorem readComment_escaped (data x : Bytes) :
    readComment (escapeComment data ++ (arrow ++ x)) = (escapeComment data, x) := by
  unfold readComment
  rw [if_neg, if_neg]
  · exact commentSplit_escaped true data x
  · intro h
    obtain ⟨y, hy⟩ := List.isPrefixOf_iff_prefix.1 h
    exact escapeCommentFrom_ne_dash_gt data x y hy.symm
  · intro h
    obtain ⟨y, hy⟩ := List.isPrefixOf_iff_prefix.1 h
    exact (escapeCommentFrom_head hy.symm (by decide)).1 rfl

theorem markup?_bang (s : Bytes) : markup? (Byte.lt :: Byte.bang :: s) = some (declaration s) := rfl

/-- A written comment. -/
def writtenComment (data : Bytes) : Bytes := "<!--" ++ escapeComment data ++ "-->"

theorem scan_comment (data x : Bytes) :
    scanMarkup (writtenComment data ++ x) =
      .token ⟨writtenComment data, .comment (decodeComment (escapeComment data))⟩ x := by
  have happ : writtenComment data ++ x =
      Byte.lt :: Byte.bang :: Byte.dash :: Byte.dash :: (escapeComment data ++ (arrow ++ x)) := by
    simp only [writtenComment, List.append_assoc]
    rfl
  refine scanMarkup_of_markup? (by rw [happ]; rfl) ?_
  rw [happ, markup?_bang, declaration_dashes, readComment_escaped]

/-- A written doctype. -/
def writtenDoctype (data : Bytes) : Bytes := "<!DOCTYPE " ++ escape data ++ [Byte.gt]

/-- Whether a byte in front of the data of a doctype is passed over. A carriage return is written as
a reference. -/
def isBlankByte (c : UInt8) : Bool := Byte.isSpace c && c != Byte.cr

theorem escape_cons_of_isBlankByte {c : UInt8} (h : isBlankByte c = true) (s : Bytes) :
    escape (c :: s) = c :: escape s := by
  simp only [isBlankByte, Byte.isSpace, Bool.and_eq_true, Bool.or_eq_true, beq_iff_eq,
    bne_iff_ne] at h
  rw [escape_cons]
  rcases h with ⟨(((rfl | rfl) | rfl) | rfl) | rfl, hcr⟩
  · rfl
  · rfl
  · exact absurd rfl hcr
  · rfl
  · rfl

theorem escape_cons_of_not_isBlankByte {c : UInt8} (h : isBlankByte c = false) (s : Bytes) :
    ∃ b rest, escape (c :: s) = b :: rest ∧ Byte.isSpace b = false := by
  rw [escape, List.flatMap_cons]
  split
  · exact ⟨_, _, rfl, by decide⟩
  split
  · exact ⟨_, _, rfl, by decide⟩
  split
  · exact ⟨_, _, rfl, by decide⟩
  split
  · exact ⟨_, _, rfl, by decide⟩
  split
  · exact ⟨_, _, rfl, by decide⟩
  split
  · exact ⟨_, _, rfl, by decide⟩
  · rename_i hcr
    refine ⟨_, _, rfl, ?_⟩
    simpa [isBlankByte, hcr] using h

theorem dropWhile_escape (s : Bytes) :
    (escape s).dropWhile Byte.isSpace = escape (s.dropWhile isBlankByte) := by
  induction s with
  | nil => rfl
  | cons c s ih =>
    cases hc : isBlankByte c with
    | true =>
      have hspace : Byte.isSpace c = true := (Bool.and_eq_true_iff.1 hc).1
      rw [escape_cons_of_isBlankByte hc, List.dropWhile_cons_of_pos hspace,
        List.dropWhile_cons_of_pos hc, ih]
    | false =>
      obtain ⟨b, rest, hrest, hb⟩ := escape_cons_of_not_isBlankByte hc s
      rw [List.dropWhile_cons_of_neg (by simp [hc]), hrest, List.dropWhile_cons_of_neg (by simp [hb])]

theorem scan_doctype (data x : Bytes) :
    scanMarkup (writtenDoctype data ++ x) =
      .token ⟨writtenDoctype data, .doctype (data.dropWhile isBlankByte)⟩ x := by
  have happ : writtenDoctype data ++ x =
      Byte.lt :: Byte.bang :: (("DOCTYPE" : Bytes) ++ Byte.space :: (escape data ++ Byte.gt :: x)) := by
    simp only [writtenDoctype, List.append_assoc]
    rfl
  have hgt : Byte.gt ∉ (escape data).dropWhile Byte.isSpace := by
    intro h
    exact (mem_escape ((List.dropWhile_suffix _).subset h)).2.1 rfl
  have hdrop : (Byte.space :: (escape data ++ Byte.gt :: x)).dropWhile Byte.isSpace =
      (escape data).dropWhile Byte.isSpace ++ Byte.gt :: x := by
    rw [List.dropWhile_cons_of_pos (by decide), List.dropWhile_append]
    split
    · rename_i hnil
      rw [List.isEmpty_iff.1 hnil, List.dropWhile_cons_of_neg (by decide), List.nil_append]
    · rfl
  refine scanMarkup_of_markup? (by rw [happ]; rfl) ?_
  rw [happ, markup?_bang, declaration_doctypeWord (by rfl), hdrop, untilClose_append_gt hgt,
    dropWhile_escape, decodeText_escape]

end Graft.Markup
