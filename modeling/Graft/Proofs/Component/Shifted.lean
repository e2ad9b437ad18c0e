import Graft.Proofs.Component.RoundTrip
import Mathlib.Data.List.Chain

/-!
# Graft.Proofs.Component.Shifted

A written start tag that does not end at its own `>` takes in what follows. Then every block behind
it starts too late and the last one not at all, so the written blocks are not found again.

* `Apart`: neighbours that are neither `</` nor `/>`, as everywhere between two contents.
* `Shifted`: a tag that ends behind the place where the content of a block starts.
* `ReadsAs`, `Found`: a source that is read as given blocks, and the first of them.
* `not_shifted`: behind a tag that ends late the blocks are not found.
* `closesItself_of_readsAs`: start tags of blocks that are found again end at their own `>`.
-/

namespace Graft

open Markup

/-! ## Between two contents -/

/-- Neighbours that are neither `</` nor `/>`. -/
def Apart (a b : UInt8) : Prop := (b = Byte.slash → a ≠ Byte.lt) ∧ (a = Byte.slash → b ≠ Byte.gt)

theorem apart_of_not_mem_slash {s : Bytes} (h : Byte.slash ∉ s) : s.IsChain Apart := by
  rw [List.isChain_iff_forall_rel_of_append_cons_cons]
  rintro a b u v rfl
  constructor
  · rintro rfl
    exact absurd (by simp) h
  · rintro rfl
    exact absurd (by simp) h

theorem apart_of_not_mem_angle {s : Bytes} (hl : Byte.lt ∉ s) (hg : Byte.gt ∉ s) :
    s.IsChain Apart := by
  rw [List.isChain_iff_forall_rel_of_append_cons_cons]
  rintro a b u v rfl
  constructor
  · rintro - rfl
    exact hl (by simp)
  · rintro - rfl
    exact hg (by simp)

theorem slash_not_mem {s : Bytes} (h : ∀ b ∈ s, isNameByte b = true) : Byte.slash ∉ s :=
  fun hm => absurd (h _ hm) (by decide)

theorem apart_writeAttr {a : Attr} (h : IsKey a.key) : (writeAttr a).IsChain Apart := by
  have hkey : Byte.slash ∉ Byte.space :: a.key := by
    simpa [Byte.space, Byte.slash] using slash_not_mem h.bytes
  unfold writeAttr
  split
  · rw [List.append_nil]
    exact apart_of_not_mem_slash hkey
  · have hvalue : (Byte.eq :: Byte.quote :: (escapeValue a.val ++ [Byte.quote])).IsChain Apart := by
      refine apart_of_not_mem_angle ?_ ?_
      · simp only [List.mem_cons, List.mem_append, not_or]
        exact ⟨by decide, by decide, fun hm => (mem_escapeValue hm).1 rfl, by decide⟩
      · simp only [List.mem_cons, List.mem_append, not_or]
        exact ⟨by decide, by decide, fun hm => (mem_escapeValue hm).2.1 rfl, by decide⟩
    rw [← List.cons_append]
    refine List.isChain_append.2 ⟨apart_of_not_mem_slash hkey, hvalue, ?_⟩
    intro x _ y hy
    cases hy
    exact ⟨fun hc => absurd hc (by decide), fun _ => by decide⟩

theorem apart_writeAttrs {s : Bytes} (h : s.IsChain Apart) {attrs : List Attr}
    (hk : ∀ a ∈ attrs, IsKey a.key) : (s ++ writeAttrs attrs).IsChain Apart := by
  induction attrs generalizing s with
  | nil => rwa [writeAttrs_nil, List.append_nil]
  | cons a attrs ih =>
    rw [List.forall_mem_cons] at hk
    rw [writeAttrs_cons, ← List.append_assoc]
    refine ih (List.isChain_append.2 ⟨h, apart_writeAttr hk.1, ?_⟩) hk.2
    intro x _ y hy
    cases hy
    exact ⟨fun hc => absurd hc (by decide), fun _ => by decide⟩

/-- The start tag of a block. -/
def openText (b : Block) : Bytes := Byte.lt :: b.type ++ writeAttrs b.attrs ++ [Byte.gt]

/-- Blocks, each on a line of its own. -/
def linesOf (bs : List Block) : Bytes := bs.flatMap fun b => Byte.lf :: b.source

/-- What follows the start tag of a block. -/
def contentText (b : Block) (bs : List Block) : Bytes :=
  b.content ++ (endText b.type ++ linesOf bs)

/-- From the name in an end tag to the content of the next block. -/
def gateText (type : Bytes) (bs : List Block) : Bytes :=
  type ++ Byte.gt ::
    match bs with
    | [] => []
    | b :: _ => Byte.lf :: openText b

/-- From the content of the first block on. -/
def insideText : List Block → Bytes
  | [] => []
  | b :: bs => contentText b bs

theorem linesOf_cons (b : Block) (bs : List Block) :
    linesOf (b :: bs) = Byte.lf :: (openText b ++ contentText b bs) := by
  have happ := source_append b (linesOf bs)
  rw [linesOf, List.flatMap_cons, List.cons_append]
  exact congrArg _ happ

theorem joinWith_source {bs : List Block} (h : bs ≠ []) :
    ("\n" : Bytes) ++ Bytes.joinWith "\n" (bs.map Block.source) = linesOf bs := by
  induction bs with
  | nil => exact absurd rfl h
  | cons b bs ih =>
    have hlines : linesOf (b :: bs) = ("\n" : Bytes) ++ (b.source ++ linesOf bs) := rfl
    rw [hlines]
    cases bs with
    | nil => simp [Bytes.joinWith, linesOf]
    | cons b' bs =>
      rw [← ih (List.cons_ne_nil _ _)]
      simp [Bytes.joinWith]

theorem endText_linesOf (type : Bytes) (bs : List Block) :
    endText type ++ linesOf bs =
      Byte.lt :: Byte.slash :: (gateText type bs ++ insideText bs) := by
  cases bs with
  | nil => simp [endText, gateText, insideText, linesOf]
  | cons b bs => simp [endText, gateText, insideText, linesOf_cons]

theorem apart_gateText {type : Bytes} {bs : List Block} (hn : IsTagName type)
    (hbs : ∀ b ∈ bs, SoundBlock b) : (gateText type bs).IsChain Apart := by
  have htype := slash_not_mem hn.bytes
  cases bs with
  | nil =>
    refine apart_of_not_mem_slash ?_
    simpa [gateText, Byte.slash, Byte.gt] using htype
  | cons b bs =>
    obtain ⟨hb, hk, _, _⟩ := hbs b (List.mem_cons_self ..)
    have hslash : Byte.slash ∉ type ++ Byte.gt :: Byte.lf :: Byte.lt :: b.type := by
      simp only [List.mem_append, List.mem_cons, not_or]
      exact ⟨htype, by decide, by decide, by decide, slash_not_mem hb.bytes⟩
    have hlast := getLast?_writeAttrs (fun hl => hslash (List.mem_of_getLast? hl)) hk
    have hgate : gateText type (b :: bs) =
        type ++ Byte.gt :: Byte.lf :: Byte.lt :: b.type ++ writeAttrs b.attrs ++ [Byte.gt] := by
      simp [gateText, openText]
    rw [hgate]
    refine List.isChain_append.2 ⟨apart_writeAttrs (apart_of_not_mem_slash hslash) hk,
      List.isChain_singleton _, ?_⟩
    intro x hx y hy
    cases hy
    refine ⟨fun hc => absurd hc (by decide), ?_⟩
    rintro rfl
    exact absurd hx hlast

theorem getLast?_gateText (type : Bytes) (bs : List Block) :
    (gateText type bs).getLast? = some Byte.gt := by
  cases bs with
  | nil => exact List.getLast?_concat
  | cons b bs =>
    have hgate : gateText type (b :: bs) =
        (type ++ Byte.gt :: Byte.lf :: (Byte.lt :: b.type ++ writeAttrs b.attrs)) ++ [Byte.gt] := by
      simp [gateText, openText]
    rw [hgate, List.getLast?_concat]

/-- What does not occur between two contents stands in the next content or behind it. -/
theorem late {type f z : Bytes} {bs : List Block} {a b : UInt8} (hn : IsTagName type)
    (hbs : ∀ b ∈ bs, SoundBlock b) (hab : ¬ Apart a b) (ha : a ≠ Byte.gt)
    (h : f ++ a :: b :: z = gateText type bs ++ insideText bs) :
    ∃ b' bs' g, bs = b' :: bs' ∧ g ++ a :: b :: z = contentText b' bs' := by
  obtain ⟨g, hg⟩ : ∃ g, g ++ a :: b :: z = insideText bs := by
    rcases List.append_eq_append_iff.1 h with ⟨g, hgate, hrest⟩ | ⟨g, _, hrest⟩
    · match g, hgate, hrest with
      | [], _, hrest => exact ⟨[], hrest⟩
      | [c], hgate, hrest =>
        obtain ⟨rfl, _⟩ := List.cons.inj hrest
        have hlast := getLast?_gateText type bs
        rw [hgate, List.getLast?_concat] at hlast
        exact absurd (Option.some.inj hlast) ha
      | c :: d :: g, hgate, hrest =>
        obtain ⟨rfl, htail⟩ := List.cons.inj hrest
        obtain ⟨rfl, _⟩ := List.cons.inj htail
        have hchain := apart_gateText hn hbs
        rw [hgate] at hchain
        exact absurd (List.isChain_append_cons_cons.1 hchain).2.1 hab
    · exact ⟨g, hrest.symm⟩
  cases bs with
  | nil => exact absurd hg (by simp [insideText])
  | cons b' bs' => exact ⟨b', bs', g, rfl, hg⟩

/-! ## Tags that end late -/

theorem readAttrs?_last (s : Bytes) :
    ∀ {attrs : List (Bytes × Bytes)} {rest : Bytes}, readAttrs? s = some (attrs, rest) →
      Byte.gt :: rest <:+ s := by
  fun_induction readAttrs? s with
  | case1 => intro attrs rest h; cases h
  | case2 s t hs =>
    intro attrs rest h
    cases h
    exact hs ▸ List.dropWhile_suffix Byte.isSpace
  | case3 s t hs hgt ih =>
    intro attrs rest h
    have hsuffix := List.dropWhile_suffix (l := s) Byte.isSpace
    rw [hs] at hsuffix
    exact (ih h).trans ((List.suffix_cons _ _).trans hsuffix)
  | case4 => intro attrs rest h; cases h
  | case5 s c t hs hgt hslash val behind hv ih =>
    intro attrs rest h
    obtain ⟨⟨more, last⟩, hm, he⟩ := Option.map_eq_some_iff.1 h
    cases he
    have hsuffix := List.dropWhile_suffix (l := s) Byte.isSpace
    rw [hs] at hsuffix
    have hbehind := (readValue?_suffix hv).trans (List.dropWhile_suffix (l := t) isKeyByte)
    exact (ih hm).trans (hbehind.trans ((List.suffix_cons _ _).trans hsuffix))

theorem Markup.OpenTag.getLast? {t : Token} {name : Bytes} {pairs : List (Bytes × Bytes)}
    (h : OpenTag t name pairs) : ∃ u, t.raw = u ++ [Byte.gt] := by
  obtain ⟨tail, hraw, hr⟩ := h.exists_name
  obtain ⟨u, hu⟩ := readAttrs?_last tail hr
  exact ⟨Byte.lt :: (name ++ u), by rw [hraw, ← hu]; simp⟩

theorem slash_of_selfClosing {t : Token} {u lowered : Bytes} {attrs : List Attr}
    (h : scanMarkup (t.raw ++ u) = .token t u) (hk : t.kind = .selfClosing lowered attrs) :
    ∃ w, t.raw = w ++ [Byte.slash, Byte.gt] := by
  obtain ⟨name, pairs, hopen⟩ := selfClosing_of_kind h hk
  obtain ⟨w, hw⟩ := hopen.getLast?
  have hkind := hopen.kind
  rw [hk, hw, endsWithSlash_append] at hkind
  split at hkind
  · rename_i hslash
    obtain ⟨w, rfl⟩ := List.getLast?_eq_some_iff.1 (beq_iff_eq.1 hslash)
    exact ⟨w, by rw [hw]; simp⟩
  · cases hkind

/-- `t` ends inside or behind the content of `b`; `r` is the rest of the source. -/
structure Shifted (b : Block) (bs : List Block) (t : Token) (f r : Bytes) : Prop where
  text : f ++ r = contentText b bs
  late : f ≠ []
  overlap : f <:+ t.raw ∨ t.raw <:+ f

theorem contentText_eq (b : Block) (bs : List Block) :
    contentText b bs =
      b.content ++ Byte.lt :: Byte.slash :: (gateText b.type bs ++ insideText bs) := by
  rw [contentText, endText_linesOf]

/-- A self-closing tag that ends behind the content of a block ends behind that of the next. -/
theorem Shifted.behind_single {b : Block} {bs : List Block} {t : Token} {f r w : Bytes}
    (h : Shifted b bs t f r) (hb : SoundBlock b) (hbs : ∀ b ∈ bs, SoundBlock b)
    (hraw : t.raw = w ++ [Byte.slash, Byte.gt]) (hc : b.content = []) :
    ∃ b' bs' g, bs = b' :: bs' ∧ g ++ r = contentText b' bs' := by
  have htext := h.text
  rw [contentText_eq, hc, List.nil_append] at htext
  have hslash : [Byte.slash, Byte.gt] <:+ t.raw := ⟨w, hraw.symm⟩
  have hend : f <:+ [Byte.slash, Byte.gt] ∨ [Byte.slash, Byte.gt] <:+ f := by
    rcases h.overlap with hf | hf
    · exact List.suffix_or_suffix_of_suffix hf hslash
    · exact .inr (hslash.trans hf)
  obtain ⟨v, rfl⟩ : ∃ v, v ++ [Byte.slash, Byte.gt] = f := by
    rcases hend with hf | hf
    · rcases List.suffix_cons_iff.1 hf with rfl | hf
      · exact ⟨[], rfl⟩
      · rcases List.suffix_cons_iff.1 hf with rfl | hf
        · exact absurd (List.cons.inj htext).1 (by decide)
        · exact absurd (List.suffix_nil.1 hf) h.late
    · exact hf
  rw [List.append_assoc] at htext
  match v, htext with
  | [], htext => exact absurd (List.cons.inj htext).1 (by decide)
  | [c], htext =>
    obtain ⟨d, more, hname, hd⟩ := hb.isName.exists_cons
    have hgt := (List.cons.inj (List.cons.inj htext).2).2
    obtain ⟨w, hw⟩ : ∃ w, gateText b.type bs = b.type ++ w := ⟨_, rfl⟩
    rw [hw, hname] at hgt
    obtain ⟨rfl, _⟩ := List.cons.inj hgt
    exact absurd hd (by decide)
  | c :: d :: v, htext =>
    have hgate := (List.cons.inj (List.cons.inj htext).2).2
    obtain ⟨b', bs', g, rfl, hg⟩ := Graft.late hb.isName hbs (fun ha => ha.2 rfl rfl) (by decide) hgate
    exact ⟨b', bs', g ++ [Byte.slash, Byte.gt], rfl, by rw [← hg]; simp⟩

/-- If a tag ends behind the place where the content of a block starts, the end tag behind that
content stands in the content of the next block. -/
theorem Shifted.behind_pair {b : Block} {bs : List Block} {t : Token} {f r z : Bytes}
    (h : Shifted b bs t f r) (hb : SoundBlock b) (hbs : ∀ b ∈ bs, SoundBlock b)
    (hr : r = b.content ++ Byte.lt :: Byte.slash :: z) :
    ∃ b' bs' g, bs = b' :: bs' ∧ g ++ Byte.lt :: Byte.slash :: z = contentText b' bs' := by
  have htext := h.text
  rw [contentText_eq, hr, ← List.append_assoc] at htext
  obtain ⟨v, hv, hne⟩ : ∃ v, v ++ Byte.lt :: Byte.slash :: z =
      Byte.lt :: Byte.slash :: (gateText b.type bs ++ insideText bs) ∧ v ≠ [] := by
    have hlen := List.length_pos_iff.2 h.late
    rcases List.append_eq_append_iff.1 htext with ⟨v, hv, _⟩ | ⟨v, hv, hrest⟩
    · have := congrArg List.length hv
      simp only [List.length_append] at this
      omega
    · refine ⟨v, hrest.symm, ?_⟩
      rintro rfl
      have := congrArg List.length hv
      simp only [List.length_append, List.length_nil] at this
      omega
  match v, hv with
  | [], _ => exact absurd rfl hne
  | [c], hv => exact absurd (List.cons.inj (List.cons.inj hv).2).1 (by decide)
  | c :: d :: v, hv =>
    have hgate := (List.cons.inj (List.cons.inj hv).2).2
    exact Graft.late hb.isName hbs (fun ha => ha.1 rfl rfl) (by decide) hgate

/-! ## Readings -/

/-- Blocks with the same types and contents in the same order. -/
def SameBlocks (bs bs' : List Block) : Prop :=
  bs.map (fun b => (b.type, b.content)) = bs'.map fun b => (b.type, b.content)

theorem sameBlocks_reread (bs : List Block) : SameBlocks (bs.map Block.reread) bs := by
  rw [SameBlocks, List.map_map]
  rfl

/-- The source begins with parts that have the given blocks. -/
def ReadsAs (s : Bytes) (bs : List Block) : Prop :=
  ∃ parts mode rest, (∀ part ∈ parts, Part.WellFormed part) ∧
    Steps .markup s (parts.flatMap Part.tokens) mode rest ∧ SameBlocks (blocksOf parts) bs

/-- A part that begins with the tag `t` and is read as the block `b`. -/
structure Found (b : Block) (bs : List Block) (t : Token) (r : Bytes) where
  part : Part
  more : List Token
  found : Block
  rest : Bytes
  wellFormed : part.WellFormed
  tokens : part.tokens = t :: more
  block : part.block? = some found
  type : found.type = b.type
  content : found.content = b.content
  steps : Steps .markup (t.raw ++ r) part.tokens .markup rest
  behind : ReadsAs rest bs

theorem ReadsAs.exists_found {s : Bytes} {b : Block} {bs : List Block} (h : ReadsAs s (b :: bs)) :
    ∃ p t r, s = p ++ (t.raw ++ r) ∧ Nonempty (Found b bs t r) ∧
      (p = [] ∨ ∃ gap rest, scanMarkup s = .token gap rest ∧ isGap gap = true) := by
  obtain ⟨parts, mode, rest, hw, hsteps, hsame⟩ := h
  induction parts generalizing s with
  | nil => cases hsame
  | cons part parts ih =>
    rw [List.forall_mem_cons] at hw
    rw [List.flatMap_cons] at hsteps
    obtain ⟨m₁, s₁, h₁, h₂⟩ := hsteps.split
    have hm₁ := part.mode_eq hw.1 h₁
    subst hm₁
    rw [SameBlocks, blocksOf_cons] at hsame
    cases hblock : part.block? with
    | none =>
      rw [hblock] at hsame
      obtain ⟨p, t, r, rfl, hfound, _⟩ := ih hw.2 h₂ hsame
      refine ⟨slices part.tokens ++ p, t, r, by rw [← h₁.append]; simp, hfound, .inr ?_⟩
      cases part with
      | gap gap =>
        cases h₁ with
        | cons hscan _ => exact ⟨gap, _, hscan, hw.1⟩
      | single _ | pair _ _ _ => cases hblock
    | some found =>
      rw [hblock] at hsame
      obtain ⟨hhead, htail⟩ := List.cons.inj hsame
      obtain ⟨t, more, hmore⟩ := List.exists_cons_of_ne_nil part.tokens_ne_nil
      have happ := h₁.append
      rw [hmore, slices_cons, List.append_assoc] at happ
      refine ⟨[], t, slices more ++ s₁, happ.symm, ⟨⟨part, more, found, s₁, hw.1, hmore, hblock, ?_,
        ?_, happ ▸ h₁, parts, mode, rest, hw.2, h₂, htail⟩⟩, .inl rfl⟩
      · exact (Prod.mk.inj hhead).1
      · exact (Prod.mk.inj hhead).2

theorem Found.tagName {b : Block} {bs : List Block} {t : Token} {r : Bytes} (h : Found b bs t r) :
    tagName t = b.type := by
  have hblock := h.block
  have htokens := h.tokens
  rw [← h.type]
  cases hp : h.part with
  | gap t' => rw [hp] at hblock; cases hblock
  | single t' | pair t' _ _ =>
    rw [hp] at hblock htokens
    obtain ⟨rfl, _⟩ := List.cons.inj htokens
    rw [← Option.some.inj hblock]

/-- The next block starts behind the place where the content of the next written block starts. -/
theorem Found.exists_next {b : Block} {bs : List Block} {t : Token} {f r : Bytes}
    (h : Found b bs t r) (hs : Shifted b bs t f r) (hb : SoundBlock b) (hbs : ∀ b ∈ bs, SoundBlock b) :
    ∃ b' bs' g, bs = b' :: bs' ∧ g ++ h.rest = contentText b' bs' := by
  have hw := h.wellFormed
  have hblock := h.block
  have hcontent := h.content
  have hsteps := h.steps
  have htokens := h.tokens
  have happ := hsteps.append
  rw [htokens, slices_cons, List.append_assoc] at happ
  have hr := List.append_cancel_left happ
  cases hp : h.part with
  | gap t' => rw [hp] at hblock; cases hblock
  | single t' =>
    rw [hp] at hw hblock hsteps htokens
    obtain ⟨rfl, hmore⟩ := List.cons.inj htokens
    obtain ⟨lowered, attrs, hk⟩ := hw
    obtain ⟨w, hraw⟩ := slash_of_selfClosing hsteps.cases_cons.1 hk
    rw [← hmore, slices_nil, List.nil_append] at hr
    rw [hr]
    refine hs.behind_single hb hbs hraw ?_
    rw [← hcontent, ← Option.some.inj hblock]
  | pair start inner stop =>
    rw [hp] at hw hblock hsteps htokens
    obtain ⟨rfl, hmore⟩ := List.cons.inj htokens
    obtain ⟨name, ⟨run⟩⟩ := exists_pairRun hw hsteps
    obtain ⟨tail, _, hraw, _⟩ := run.closeTag.exists_name
    have hinner : slices inner = b.content := by rw [← hcontent, ← Option.some.inj hblock]
    have hr' : r = b.content ++ Byte.lt :: Byte.slash :: (run.stopName ++ tail ++ h.rest) := by
      refine hr.symm.trans ?_
      rw [← hmore, slices_append, hinner, slices_cons, slices_nil, hraw]
      simp
    obtain ⟨b', bs', g, hbs', hg⟩ := hs.behind_pair hb hbs hr'
    exact ⟨b', bs', g ++ Byte.lt :: Byte.slash :: (run.stopName ++ tail), hbs', by rw [← hg]; simp⟩

theorem not_shifted {bs : List Block} {b : Block} {t : Token} {f r : Bytes} (h : Found b bs t r)
    (hs : Shifted b bs t f r) (hb : SoundBlock b) (hbs : ∀ b ∈ bs, SoundBlock b) : False := by
  induction bs generalizing b t f r with
  | nil =>
    obtain ⟨_, _, _, hnil, _⟩ := h.exists_next hs hb hbs
    cases hnil
  | cons b' bs ih =>
    obtain ⟨_, _, g, hcons, hg⟩ := h.exists_next hs hb hbs
    cases hcons
    obtain ⟨p, t', r', hrest, ⟨h'⟩, _⟩ := h.behind.exists_found
    have hopen : t'.raw ≠ [] := by
      have hsteps := h'.steps
      rw [h'.tokens] at hsteps
      exact scan_raw_ne_nil hsteps.cases_cons.1
    rw [List.forall_mem_cons] at hbs
    refine ih (f := g ++ p ++ t'.raw) h' ⟨?_, ?_, .inr (List.suffix_append _ _)⟩ hbs.1 hbs.2
    · rw [← hg, hrest]
      simp
    · simp [hopen]

/-! ## Start tags -/

theorem gt_not_mem_writeAttrs {attrs : List Attr} (hk : ∀ a ∈ attrs, IsKey a.key) :
    Byte.gt ∉ writeAttrs attrs := by
  induction attrs with
  | nil => simp [writeAttrs_nil]
  | cons a attrs ih =>
    rw [List.forall_mem_cons] at hk
    have hkey : Byte.gt ∉ a.key := fun hm => absurd (hk.1.bytes _ hm) (by decide)
    have hvalue : Byte.gt ∉ escapeValue a.val := fun hm => (mem_escapeValue hm).2.1 rfl
    rw [writeAttrs_cons, List.mem_append, not_or]
    refine ⟨?_, ih hk.2⟩
    unfold writeAttr
    split <;> simp [hkey, hvalue, Byte.gt, Byte.space, Byte.eq, Byte.quote]

/-- What `<` and a letter start, if it is a token, is a tag. -/
theorem openTag_of_letter {c : UInt8} {s r : Bytes} {t : Token} (hc : Byte.isLetter c = true)
    (h : scanMarkup (Byte.lt :: c :: s) = .token t r) : ∃ name pairs, OpenTag t name pairs := by
  have hs : startsMarkup (Byte.lt :: c :: s) = true := by simp [startsMarkup, hc]
  have hne : c ≠ Byte.slash ∧ c ≠ Byte.bang ∧ c ≠ Byte.question := by
    refine ⟨?_, ?_, ?_⟩ <;> (rintro rfl; exact absurd hc (by decide))
  have hm : markup? (Byte.lt :: c :: s) = openTag? (Byte.lt :: c :: s) := by
    simp [markup?, hne]
  rw [scanMarkup, if_pos hs, hm] at h
  cases ho : openTag? (Byte.lt :: c :: s) with
  | none => rw [ho] at h; cases h
  | some found =>
    rw [ho] at h
    cases h
    exact openTag_of_openTag? hc ho

theorem closesItself_or_shifted {b : Block} {bs : List Block} {t : Token} {r : Bytes}
    {pairs : List (Bytes × Bytes)} (hk : ∀ a ∈ b.attrs, IsKey a.key) (h : OpenTag t b.type pairs)
    (happ : t.raw ++ r = openText b ++ contentText b bs) :
    ClosesItself b.attrs ∨ ∃ f, Shifted b bs t f r := by
  obtain ⟨tail, hraw, hr⟩ := h.exists_name
  have htail : tail ++ r = writeAttrs b.attrs ++ [Byte.gt] ++ contentText b bs := by
    rw [hraw, openText] at happ
    simpa using happ
  rcases List.append_eq_append_iff.1 htail with ⟨f, hf, _⟩ | ⟨f, hf, hrest⟩
  · obtain ⟨u, hu⟩ := readAttrs?_last tail hr
    have hnil : f = [] := by
      rcases List.eq_nil_or_concat f with rfl | ⟨f, d, rfl⟩
      · rfl
      · rw [← hu, List.concat_eq_append, ← List.append_assoc] at hf
        have hw := (List.append_inj_left' hf rfl).symm
        exact absurd (by rw [← hw]; simp) (gt_not_mem_writeAttrs hk)
    rw [hnil, List.append_nil] at hf
    exact .inl ⟨pairs, hf ▸ hr⟩
  · by_cases hnil : f = []
    · rw [hnil, List.append_nil] at hf
      exact .inl ⟨pairs, hf ▸ hr⟩
    · refine .inr ⟨f, hrest.symm, hnil,
        .inl ⟨Byte.lt :: (b.type ++ (writeAttrs b.attrs ++ [Byte.gt])), ?_⟩⟩
      rw [hraw, hf]
      simp

theorem not_isGap_of_openTag {t : Token} {name : Bytes} {pairs : List (Bytes × Bytes)}
    (h : OpenTag t name pairs) : isGap t = false := by
  have hk := h.kind
  unfold isGap
  split at hk <;> rw [hk]

theorem ReadsAs.of_feed {x : Bytes} {b : Block} {bs : List Block} (hx : textRest x = x)
    (h : ReadsAs (Byte.lf :: x) (b :: bs)) : ReadsAs x (b :: bs) := by
  obtain ⟨parts, mode, rest, hw, hsteps, hsame⟩ := h
  cases parts with
  | nil => cases hsame
  | cons part parts =>
    have hfeed := tokensFrom_of_steps (steps_feed hx)
    have htokens := (tokensFrom_of_steps hsteps).symm.trans hfeed
    rw [List.flatMap_cons, List.append_assoc] at htokens
    rw [List.forall_mem_cons] at hw
    obtain ⟨hpart, _⟩ := Part.unique hw.1 Part.WellFormed.feed htokens
    rw [List.flatMap_cons] at hsteps
    obtain ⟨m₁, s₁, h₁, h₂⟩ := hsteps.split
    have hm₁ := part.mode_eq hw.1 h₁
    have happ := h₁.append
    subst hm₁ hpart
    have hs₁ : s₁ = x := List.append_cancel_left (show [Byte.lf] ++ s₁ = [Byte.lf] ++ x from happ)
    exact ⟨parts, mode, rest, hw.2, hs₁ ▸ h₂, hsame⟩

theorem closesItself_of_readsAs {bs : List Block} (hbs : ∀ b ∈ bs, SoundBlock b)
    (h : ReadsAs (linesOf bs) bs) : ∀ b ∈ bs, ClosesItself b.attrs := by
  induction bs with
  | nil => simp
  | cons b bs ih =>
    rw [List.forall_mem_cons] at hbs
    obtain ⟨hb, hbs⟩ := hbs
    obtain ⟨c, name, hname, hc⟩ := hb.isName.exists_cons
    have hsource : b.source ++ linesOf bs = openText b ++ contentText b bs := source_append b _
    have htext : openText b ++ contentText b bs = Byte.lt :: c ::
        (name ++ (writeAttrs b.attrs ++ Byte.gt :: contentText b bs)) := by
      simp [openText, hname]
    have hstarts : startsMarkup (openText b ++ contentText b bs) = true := by
      rw [htext]
      simp [startsMarkup, hc]
    rw [linesOf_cons] at h
    obtain ⟨p, t, r, happ, ⟨hfound⟩, hp⟩ :=
      (h.of_feed (textRest_of_startsMarkup hstarts)).exists_found
    obtain rfl : p = [] := by
      refine hp.resolve_right ?_
      rintro ⟨gap, rest, hscan, hgap⟩
      rw [htext] at hscan
      obtain ⟨_, _, hopen⟩ := openTag_of_letter hc hscan
      rw [not_isGap_of_openTag hopen] at hgap
      cases hgap
    rw [List.nil_append] at happ
    have hsteps := hfound.steps
    obtain ⟨name', pairs, hopen⟩ : ∃ name pairs, OpenTag t name pairs := by
      rw [hfound.tokens, ← happ, htext] at hsteps
      cases hsteps with
      | cons hscan _ => exact openTag_of_letter hc hscan
    have hname' : name' = b.type := by rw [← hopen.tagName, hfound.tagName]
    subst hname'
    rcases closesItself_or_shifted hb.isKey hopen happ.symm with hcloses | ⟨f, hshifted⟩
    · obtain ⟨part, hpart, _, hwritten⟩ := (hb.legible hcloses).exists_part (linesOf bs)
      rw [hsource, happ] at hwritten
      have htokens := (tokensFrom_of_steps hwritten).symm.trans (tokensFrom_of_steps hsteps)
      obtain ⟨rfl, _⟩ := Part.unique hpart hfound.wellFormed htokens
      have hrest := List.append_cancel_left (hwritten.append.trans hsteps.append.symm)
      exact List.forall_mem_cons.2 ⟨hcloses, ih hbs (hrest ▸ hfound.behind)⟩
    · exact (not_shifted hfound hshifted hb hbs).elim

end Graft
