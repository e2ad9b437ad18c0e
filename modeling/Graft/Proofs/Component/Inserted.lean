import Graft.Proofs.Component.Outlined

/-!
# Graft.Proofs.Component.Inserted

A tag of a void element between the blocks of a source. A start tag opens a block there like any
other, so the source is refused; only a self-closing tag is an empty block.

* `Part.unique_last`: the last token tells what a part is.
* `not_parts_of_start`: a start tag in front of parts is not closed by them.
* `swap_parts`: parts in front of another source.
* `Between`: a place between the blocks of a source, between two tokens or inside a text.
* `Between.steps`, `Between.tokens`: what stands on both sides of a place.
* `parse_void_inserted`: the tag of a void element.
-/

namespace Graft

open Markup

/-! ## The last part -/

/-- A run does not close a start tag in front of a run that closes all it opens. -/
theorem not_nested_around {type : Bytes} {start : Token} {ts inner : List Token}
    (hs : nesting type start = 1) (hn : Nested type inner) :
    ¬ Nested type (ts ++ start :: inner) := by
  intro h
  have hfront := h.nonneg ts (List.prefix_append _ _)
  have hsettled := h.settled
  have hinner := hn.settled
  rw [level_append, level_cons] at hsettled
  omega

theorem nested_start_unique {type type' : Bytes} {us us' inner inner' : List Token}
    {start start' : Token} (hn : Nested type inner) (hn' : Nested type' inner')
    (hs : nesting type start = 1) (hs' : nesting type' start' = 1)
    (ha : Fold.alike type type' = true) (he : us ++ start :: inner = us' ++ start' :: inner') :
    us = us' ∧ start = start' ∧ inner = inner' := by
  rcases List.append_eq_append_iff.1 he with ⟨w, rfl, hw⟩ | ⟨w, rfl, hw⟩
  · cases w with
    | nil =>
      obtain ⟨rfl, rfl⟩ := List.cons.inj hw
      exact ⟨(List.append_nil _).symm, rfl, rfl⟩
    | cons t w =>
      obtain ⟨rfl, rfl⟩ := List.cons.inj hw
      have hstart : nesting type start' = 1 := (nesting_congr ha start').trans hs'
      exact absurd hn (not_nested_around hstart (nested_congr (Fold.alike_symm ha) hn'))
  · cases w with
    | nil =>
      obtain ⟨rfl, rfl⟩ := List.cons.inj hw
      exact ⟨List.append_nil _, rfl, rfl⟩
    | cons t w =>
      obtain ⟨rfl, rfl⟩ := List.cons.inj hw
      have hstart : nesting type' start = 1 := (nesting_congr ha start).symm.trans hs
      exact absurd hn' (not_nested_around hstart (nested_congr ha hn))

namespace Part

/-- The last token of a part. -/
def last : Part → Token
  | gap t => t
  | single t => t
  | pair _ _ stop => stop

theorem exists_last (part : Part) : ∃ ts, part.tokens = ts ++ [part.last] := by
  cases part with
  | gap t | single t => exact ⟨[], rfl⟩
  | pair start inner stop => exact ⟨start :: inner, rfl⟩

theorem WellFormed.last_ne {part : Part} (h : part.WellFormed) {lowered : Bytes}
    {attrs : List Attr} : part.last.kind ≠ .startTag lowered attrs := by
  intro hk
  cases part with
  | gap t =>
    rw [last] at hk
    simp [WellFormed, isGap, hk] at h
  | single t =>
    obtain ⟨_, _, hk'⟩ := h
    rw [last, hk'] at hk
    cases hk
  | pair start inner stop =>
    obtain ⟨_, _, hs⟩ := h
    rw [last] at hk
    simp [isStop, hk] at hs

theorem unique_last {part part' : Part} (h : part.WellFormed) (h' : part'.WellFormed)
    {us us' : List Token} (he : us ++ part.tokens = us' ++ part'.tokens) :
    us = us' ∧ part = part' := by
  obtain ⟨ts, hts⟩ := part.exists_last
  obtain ⟨ts', hts'⟩ := part'.exists_last
  have hlast : part.last = part'.last := by
    rw [hts, hts', ← List.append_assoc, ← List.append_assoc] at he
    exact List.singleton_inj.1 (List.append_inj_right' he rfl)
  cases part with
  | gap t =>
    cases part' with
    | gap t' =>
      cases hlast
      exact ⟨List.append_cancel_right he, rfl⟩
    | single t' =>
      cases hlast
      obtain ⟨_, _, hk⟩ := h'
      simp [WellFormed, isGap, hk] at h
    | pair start inner stop =>
      cases hlast
      obtain ⟨_, hk⟩ := exists_endTag h'.2.2
      simp [WellFormed, isGap, hk] at h
  | single t =>
    obtain ⟨_, _, hk⟩ := h
    cases part' with
    | gap t' =>
      cases hlast
      simp [WellFormed, isGap, hk] at h'
    | single t' =>
      cases hlast
      exact ⟨List.append_cancel_right he, rfl⟩
    | pair start inner stop =>
      cases hlast
      obtain ⟨_, hk'⟩ := exists_endTag h'.2.2
      rw [hk] at hk'
      cases hk'
  | pair start inner stop =>
    obtain ⟨⟨_, _, hk⟩, hn, hs⟩ := h
    obtain ⟨_, hstop⟩ := exists_endTag hs
    cases part' with
    | gap t' =>
      cases hlast
      simp [WellFormed, isGap, hstop] at h'
    | single t' =>
      cases hlast
      obtain ⟨_, _, hk'⟩ := h'
      rw [hstop] at hk'
      cases hk'
    | pair start' inner' stop' =>
      cases hlast
      obtain ⟨⟨_, _, hk'⟩, hn', hs'⟩ := h'
      have hfront : us ++ start :: inner = us' ++ start' :: inner' := by
        rw [tokens, tokens, ← List.cons_append, ← List.cons_append, ← List.append_assoc,
          ← List.append_assoc] at he
        exact List.append_cancel_right he
      obtain ⟨rfl, rfl, rfl⟩ := nested_start_unique hn hn' (nesting_of_start hk)
        (nesting_of_start hk') (alike_of_isStop hs hs') hfront
      exact ⟨rfl, rfl⟩

end Part

theorem exists_behind {behind parts : List Part} (hb : ∀ part ∈ behind, part.WellFormed)
    (hp : ∀ part ∈ parts, part.WellFormed) {us : List Token}
    (he : us ++ behind.flatMap Part.tokens = parts.flatMap Part.tokens) :
    ∃ front, parts = front ++ behind ∧ front.flatMap Part.tokens = us := by
  induction behind using List.reverseRecOn generalizing parts us with
  | nil => exact ⟨parts, (List.append_nil _).symm, by simpa using he.symm⟩
  | append_singleton behind part ih =>
    rw [List.flatMap_append, List.flatMap_singleton, ← List.append_assoc] at he
    rcases List.eq_nil_or_concat parts with rfl | ⟨parts, part', rfl⟩
    · exact absurd (List.append_eq_nil_iff.1 he).2 part.tokens_ne_nil
    · rw [List.concat_eq_append] at hp he ⊢
      rw [List.flatMap_append, List.flatMap_singleton] at he
      rw [List.forall_mem_append] at hb hp
      obtain ⟨hrest, rfl⟩ := Part.unique_last (hb.2 part (List.mem_singleton_self _))
        (hp.2 part' (List.mem_singleton_self _)) he
      obtain ⟨front, rfl, htokens⟩ := ih hb.1 hp.1 hrest
      exact ⟨front, List.append_assoc .., htokens⟩

theorem not_parts_of_start {behind parts : List Part} (hb : ∀ part ∈ behind, part.WellFormed)
    (hp : ∀ part ∈ parts, part.WellFormed) {us : List Token} {t : Token} {lowered : Bytes}
    {attrs : List Attr} (hk : t.kind = .startTag lowered attrs) :
    parts.flatMap Part.tokens ≠ us ++ t :: behind.flatMap Part.tokens := by
  intro he
  have hsplit : us ++ [t] ++ behind.flatMap Part.tokens = parts.flatMap Part.tokens := by
    rw [he, List.append_assoc, List.singleton_append]
  obtain ⟨front, rfl, htokens⟩ := exists_behind hb hp hsplit
  rcases List.eq_nil_or_concat front with rfl | ⟨front, part, rfl⟩
  · exact List.append_ne_nil_of_right_ne_nil us (List.cons_ne_nil t []) htokens.symm
  · rw [List.concat_eq_append] at htokens hp
    obtain ⟨ts, hts⟩ := part.exists_last
    rw [List.flatMap_append, List.flatMap_singleton, hts, ← List.append_assoc] at htokens
    have hlast : part.last = t := List.singleton_inj.1 (List.append_inj_right' htokens rfl)
    exact (hp part (by simp)).last_ne (hlast ▸ hk)

/-! ## Parts in front of another source -/

/-- Where markup starts, the token that is read there is long enough to tell so. -/
theorem startsMarkup_of_scan {t : Token} {u : Bytes} (h : scanMarkup (t.raw ++ u) = .token t u)
    (hs : startsMarkup (t.raw ++ u) = true) (v : Bytes) : startsMarkup (t.raw ++ v) = true := by
  have hl : 2 ≤ t.raw.length := by
    unfold scanMarkup at h
    split at h
    · cases h
    rw [if_pos hs] at h
    split at h
    · rename_i kind rest hm
      have hlength := markup?_length hm
      rw [(Step.token.inj h).2, List.length_append] at hlength
      omega
    · cases h
  match hraw : t.raw, hl with
  | c :: d :: more, _ =>
    rw [hraw] at hs
    exact hs
  | [], hl | [_], hl => simp at hl

theorem Markup.CloseTag.startsMarkup {t : Token} {name : Bytes} (h : CloseTag t name) (x : Bytes) :
    startsMarkup (t.raw ++ x) = true := by
  obtain ⟨tail, _, hraw, _⟩ := h.exists_name
  rw [hraw]
  rfl

theorem append_ne_nil_of_scan {t : Token} {u : Bytes} (h : scan .markup (t.raw ++ u) = .token t u)
    (v : Bytes) : t.raw ++ v ≠ [] :=
  List.append_ne_nil_of_left_ne_nil (scan_raw_ne_nil h) v

/-- A token in front of two sources, where markup starts in both or not in the first. -/
theorem scanMarkup_before {t : Token} {u v : Bytes} (h : scanMarkup (t.raw ++ u) = .token t u)
    (hu : u ≠ []) (hv : v ≠ []) (hm : startsMarkup u = true → startsMarkup v = true) :
    scanMarkup (t.raw ++ v) = .token t v := by
  obtain ⟨kind, hscan, hkind⟩ := scanMarkup_swap h hu fun hs => .inr (hm hs)
  rwa [hkind.resolve_right fun hnil => hv hnil.1] at hscan

/-- A block stands in front of anything, and a gap where it is read in the same way. -/
theorem Part.swap {part : Part} (hw : part.WellFormed) {u v : Bytes}
    (h : Steps .markup (slices part.tokens ++ u) part.tokens .markup u)
    (hgap : ∀ t, part = .gap t → scanMarkup (t.raw ++ v) = .token t v) :
    Steps .markup (slices part.tokens ++ v) part.tokens .markup v := by
  cases part with
  | gap t =>
    rw [Part.tokens, slices_cons, slices_nil, List.append_nil]
    exact .of_scanMarkup (hgap t rfl) (mode_of_isGap hw)
  | single t =>
    obtain ⟨lowered, attrs, hk⟩ := hw
    obtain ⟨name, pairs, ht⟩ := selfClosing_of_kind h.cases_cons.1 hk
    rw [Part.tokens, slices_cons, slices_nil, List.append_nil]
    exact .of_scanMarkup (ht.scan v) (by rw [Token.mode, hk])
  | pair start inner stop =>
    obtain ⟨name, ⟨run⟩⟩ := exists_pairRun hw h
    obtain ⟨us, hus, hall⟩ := run.steps.swap (y := stop.raw ++ v)
      (run.closeTag.append_ne_nil _) (run.closeTag.stops _) (run.closeTag.stops v)
      (fun _ => .inr (run.closeTag.startsMarkup v))
      fun element _ hend => .inr ((run.closeTag.startsRawEnd_iff element v).2
        ((run.closeTag.startsRawEnd_iff element _).1 hend))
    rw [hall.eq (run.closeTag.append_ne_nil v)] at hus
    have hmode : start.mode = contentMode name := by
      rw [run.openTag.mode, run.unslashed, if_neg Bool.false_ne_true]
    have hstop : scan run.mode (stop.raw ++ v) = .token stop v := by
      cases hm : run.mode with
      | markup => exact run.closeTag.scan v
      | raw element =>
        obtain ⟨hplain, hlower⟩ := run.rawStop element hm
        exact run.closeTag.scan_raw hplain hlower v
    have hlast : Steps run.mode (stop.raw ++ v) [stop] .markup v :=
      run.closeTag.mode ▸ .single hstop
    rw [Part.tokens, slices_cons, slices_append, slices_cons, slices_nil, List.append_nil,
      List.append_assoc, List.append_assoc]
    exact .cons (run.openTag.scan _) (hmode ▸ hus.trans hlast)

/-- Parts stand in front of anything, if the last one is a block or is read there in the same way. -/
theorem swap_parts {parts : List Part} (hw : ∀ part ∈ parts, part.WellFormed) {u v : Bytes}
    (h : Steps .markup (slices (parts.flatMap Part.tokens) ++ u) (parts.flatMap Part.tokens)
      .markup u)
    (hlast : ∀ t, parts.getLast? = some (.gap t) → scanMarkup (t.raw ++ v) = .token t v) :
    Steps .markup (slices (parts.flatMap Part.tokens) ++ v) (parts.flatMap Part.tokens)
      .markup v := by
  induction parts with
  | nil => exact .refl
  | cons part parts ih =>
    rw [List.forall_mem_cons] at hw
    rw [List.flatMap_cons] at h ⊢
    obtain ⟨mode, s, hpart, hrest⟩ := h.split
    obtain rfl := part.mode_eq hw.1 hpart
    obtain rfl := hrest.append
    rw [slices_append, List.append_assoc] at hpart ⊢
    cases parts with
    | nil =>
      refine (Part.swap hw.1 hpart fun t ht => hlast t ?_).trans .refl
      rw [ht]
      rfl
    | cons next parts =>
      refine (Part.swap hw.1 hpart fun t ht => ?_).trans (ih hw.2 hrest hlast)
      -- what follows the gap begins with the token of the next part, in front of `u` and of `v`
      obtain ⟨t', ts, hts⟩ : ∃ t' ts, (next :: parts).flatMap Part.tokens = t' :: ts :=
        List.exists_cons_of_ne_nil fun hnil =>
          next.tokens_ne_nil (List.append_eq_nil_iff.1 hnil).1
      rw [hts, slices_cons, List.append_assoc] at hrest hpart ⊢
      subst ht
      have hgap := hpart.cases_cons.1
      have hnext := hrest.cases_cons.1
      exact scanMarkup_before hgap (append_ne_nil_of_scan hnext _) (append_ne_nil_of_scan hnext _)
        fun hs => startsMarkup_of_scan hnext hs _

/-! ## Places between blocks -/

/-- A token that is read in front of any tag as it stands. A comment that the end of the source cuts
off is none. -/
def Whole (t : Token) : Prop := ∀ v, startsMarkup v = true → scanMarkup (t.raw ++ v) = .token t v

/-- Parts divided at a place: between two of them, or inside a text. -/
inductive Divided : List Part → List Part → List Part → Prop where
  | edge (front behind : List Part) : Divided (front ++ behind) front behind
  | text {front behind : List Part} {x y data : Bytes} (hx : x ≠ []) (hy : y ≠ [])
      (hs : startsMarkup (x ++ y) = false) :
      Divided (front ++ .gap ⟨x ++ y, .text data⟩ :: behind)
        (front ++ [.gap ⟨x, .text (decodeText x)⟩]) (.gap ⟨y, .text (decodeText y)⟩ :: behind)

/-- A place between the blocks of the source `p ++ q`, with the parts on both sides of it. -/
structure Between (p q : Bytes) (front behind : List Part) : Prop where
  parts : ∃ parts, Factors parts (tokens (p ++ q)) ∧ Divided parts front behind
  before : slices (front.flatMap Part.tokens) = p
  whole : q = [] → ∀ t, front.getLast? = some (.gap t) → Whole t

theorem Divided.blocks {parts front behind : List Part} (h : Divided parts front behind) :
    blocksOf parts = blocksOf front ++ blocksOf behind := by
  cases h with
  | edge => exact List.filterMap_append
  | text =>
    simp only [blocksOf, List.filterMap_append, List.append_assoc]
    rfl

theorem Divided.wellFormed {parts front behind : List Part} (h : Divided parts front behind)
    (hw : ∀ part ∈ parts, part.WellFormed) :
    (∀ part ∈ front, part.WellFormed) ∧ ∀ part ∈ behind, part.WellFormed := by
  cases h with
  | edge => exact List.forall_mem_append.1 hw
  | text =>
    obtain ⟨hfront, hbehind⟩ := List.forall_mem_append.1 hw
    refine ⟨List.forall_mem_append.2 ⟨hfront, List.forall_mem_singleton.2 rfl⟩, ?_⟩
    exact List.forall_mem_cons.2 ⟨rfl, (List.forall_mem_cons.1 hbehind).2⟩

theorem mode_of_parts {parts : List Part} (hw : ∀ part ∈ parts, part.WellFormed) {m : Mode}
    {s s' : Bytes} (h : Steps .markup s (parts.flatMap Part.tokens) m s') : m = .markup := by
  induction parts generalizing s with
  | nil =>
    cases h
    rfl
  | cons part parts ih =>
    rw [List.forall_mem_cons] at hw
    rw [List.flatMap_cons] at h
    obtain ⟨mode, u, hpart, hrest⟩ := h.split
    obtain rfl := part.mode_eq hw.1 hpart
    exact ih hw.2 hrest

theorem steps_of_factors {front behind : List Part} {q : Bytes}
    (h : Factors (front ++ behind) (tokens (slices (front.flatMap Part.tokens) ++ q))) :
    Steps .markup (slices (front.flatMap Part.tokens) ++ q) (front.flatMap Part.tokens) .markup q ∧
      tokens q = behind.flatMap Part.tokens := by
  have htokens := h.tokens
  rw [List.flatMap_append] at htokens
  obtain ⟨mode, hsteps⟩ := steps_tokensFrom .markup (slices (front.flatMap Part.tokens) ++ q)
  rw [← tokens, ← htokens] at hsteps
  obtain ⟨m, s, hfront, _⟩ := hsteps.split
  obtain rfl := mode_of_parts (fun part hp => h.wellFormed part (List.mem_append_left _ hp)) hfront
  obtain rfl := List.append_cancel_left hfront.append
  refine ⟨hfront, ?_⟩
  rw [tokens, tokensFrom_of_steps hfront] at htokens
  exact (List.append_cancel_left htokens).symm

theorem scan_of_last_gap {parts : List Part} {t : Token} {u : Bytes}
    (hw : ∀ part ∈ parts, part.WellFormed)
    (h : Steps .markup (slices (parts.flatMap Part.tokens) ++ u) (parts.flatMap Part.tokens)
      .markup u)
    (hlast : parts.getLast? = some (.gap t)) : scanMarkup (t.raw ++ u) = .token t u := by
  obtain ⟨front, rfl⟩ := List.getLast?_eq_some_iff.1 hlast
  rw [List.flatMap_append, List.flatMap_singleton] at h
  obtain ⟨m, s, hfront, hgap⟩ := h.split
  obtain rfl := mode_of_parts (fun part hp => hw part (List.mem_append_left _ hp)) hfront
  have hscan := hgap.cases_cons.1
  rwa [slices_nil, List.nil_append] at hscan

theorem textRest_front {f u : Bytes} (h : (textRest (f ++ u)).length ≤ u.length) :
    textRest (f ++ u) = textRest u ∧ ∀ v, startsMarkup v = true → textRest (f ++ v) = v := by
  induction f with
  | nil => exact ⟨rfl, fun v hv => textRest_of_startsMarkup hv⟩
  | cons c f ih =>
    rw [List.cons_append, textRest] at h
    split at h
    · rw [List.length_cons, List.length_append] at h
      omega
    · rename_i hc
      obtain ⟨hrest, hfront⟩ := ih h
      refine ⟨by rw [List.cons_append, textRest, if_neg hc, hrest], fun v hv => ?_⟩
      have hc' : ¬ startsMarkup (c :: (f ++ v)) = true := by
        cases f with
        | nil => rw [List.nil_append, startsMarkup_stop c (stops_of_startsMarkup hv)]; decide
        | cons d f => exact hc
      rw [List.cons_append, textRest, if_neg hc', hfront v hv]

theorem startsMarkup_of_textRest {f u : Bytes} (hf : f ≠ []) (h : textRest (f ++ u) = u) :
    startsMarkup (f ++ u) = false := by
  by_contra hs
  rw [textRest_of_startsMarkup (by simpa using hs)] at h
  exact hf (List.append_left_eq_self.1 h)

theorem scanMarkup_text {f u : Bytes} (hf : f ≠ []) (h : textRest (f ++ u) = u) :
    scanMarkup (f ++ u) = .token ⟨f, .text (decodeText f)⟩ u :=
  scanMarkup_of_text hf (startsMarkup_of_textRest hf h) h

/-- A text that is cut: what is in front of the cut ends at any tag, and what is behind it is a text
of its own. -/
theorem cut_text {x y q data : Bytes} {ts : List Token} (hx : x ≠ []) (hy : y ≠ [])
    (hs : startsMarkup (x ++ y) = false)
    (h : Markup.tokens (x ++ q) = ⟨x ++ y, .text data⟩ :: ts) :
    startsMarkup (x ++ q) = false ∧ (∀ v, startsMarkup v = true → textRest (x ++ v) = v) ∧
      Markup.tokens q = ⟨y, .text (decodeText y)⟩ :: ts := by
  cases hscan : scan .markup (x ++ q) with
  | finished rest =>
    rw [Markup.tokens, tokensFrom_of_finished hscan] at h
    cases h
  | token t rest =>
    rw [Markup.tokens, tokensFrom_of_token hscan] at h
    obtain ⟨rfl, rfl⟩ := List.cons.inj h
    obtain rfl : y ++ rest = q :=
      List.append_cancel_left ((List.append_assoc ..).symm.trans (scan_append hscan))
    have hs' : startsMarkup (x ++ (y ++ rest)) = false := by
      rw [← List.append_assoc]
      rcases hxy : x ++ y with _ | ⟨c, _ | ⟨d, more⟩⟩
      · exact absurd (List.append_eq_nil_iff.1 hxy).1 hx
      · simp [List.append_eq_cons_iff, hx, hy] at hxy
      · rw [hxy] at hs
        exact hs
    have hrest : textRest (x ++ (y ++ rest)) = rest := by
      unfold scan scanMarkup at hscan
      dsimp only at hscan
      split at hscan
      · cases hscan
      · rw [hs', if_neg Bool.false_ne_true] at hscan
        exact (Step.token.inj hscan).2
    obtain ⟨hbehind, hfront⟩ := textRest_front (f := x) (u := y ++ rest) (by
      rw [hrest, List.length_append]
      omega)
    have hcut : scan .markup (y ++ rest) = .token ⟨y, .text (decodeText y)⟩ rest :=
      scanMarkup_text hy (hbehind.symm.trans hrest)
    exact ⟨hs', hfront, tokensFrom_of_token hcut⟩

theorem Between.steps {p q v : Bytes} {front behind : List Part} (h : Between p q front behind)
    (hv : startsMarkup v = true) :
    Steps .markup (p ++ v) (front.flatMap Part.tokens) .markup v := by
  obtain ⟨⟨parts, hparts, hdivided⟩, rfl, hwhole⟩ := h
  have hne : v ≠ [] := by
    rintro rfl
    cases hv
  cases hdivided with
  | edge =>
    obtain ⟨hsteps, _⟩ := steps_of_factors hparts
    have hw := (List.forall_mem_append.1 hparts.wellFormed).1
    refine swap_parts hw hsteps fun t ht => ?_
    by_cases hq : q = []
    · exact hwhole hq t ht v hv
    · exact scanMarkup_before (scan_of_last_gap hw hsteps ht) hq hne fun _ => hv
  | @text front behind x y data hx hy hs =>
    rw [List.flatMap_append, slices_append, List.flatMap_singleton, Part.tokens, slices_cons,
      slices_nil, List.append_nil, List.append_assoc] at hparts ⊢
    obtain ⟨hsteps, htokens⟩ := steps_of_factors hparts
    have hw := (List.forall_mem_append.1 hparts.wellFormed).1
    obtain ⟨hstart, hfront, _⟩ := cut_text hx hy hs htokens
    have hcut := scanMarkup_text hx (hfront v hv)
    have hbefore := swap_parts (v := x ++ v) hw hsteps fun t ht =>
      scanMarkup_before (scan_of_last_gap hw hsteps ht)
        (List.append_ne_nil_of_left_ne_nil hx _) (List.append_ne_nil_of_left_ne_nil hx _)
        fun hs => absurd hs (by rw [hstart]; decide)
    exact hbefore.trans (.of_scanMarkup hcut rfl)

theorem Between.tokens {p q : Bytes} {front behind : List Part} (h : Between p q front behind) :
    Markup.tokens q = behind.flatMap Part.tokens := by
  obtain ⟨⟨parts, hparts, hdivided⟩, rfl, _⟩ := h
  cases hdivided with
  | edge => exact (steps_of_factors hparts).2
  | @text front behind x y data hx hy hs =>
    rw [List.flatMap_append, slices_append, List.flatMap_singleton, Part.tokens, slices_cons,
      slices_nil, List.append_nil, List.append_assoc] at hparts
    exact (cut_text hx hy hs (steps_of_factors hparts).2).2.2

/-! ## Reading up to a place -/

/-- Parts that are read leave a reading between blocks, whatever stands behind them. -/
theorem exists_takeAll_parts {pad : Padding} {r r' : Reading} {parts : List Part} {us : List Token}
    (hc : r.current = none) (hw : ∀ part ∈ parts, part.WellFormed)
    (h : r.takeAll pad (parts.flatMap Part.tokens ++ us) = .ok r') :
    ∃ r₁ : Reading, r₁.current = none ∧
      r₁.feeds = r.feeds + (slices (parts.flatMap Part.tokens)).lineFeeds ∧
      ∀ vs, r.takeAll pad (parts.flatMap Part.tokens ++ vs) = r₁.takeAll pad vs := by
  induction parts generalizing r with
  | nil => exact ⟨r, hc, rfl, fun vs => rfl⟩
  | cons part parts ih =>
    rw [List.forall_mem_cons] at hw
    rw [List.flatMap_cons, List.append_assoc, takeAll_part hc hw.1] at h
    simp only [List.flatMap_cons, List.append_assoc, takeAll_part hc hw.1, slices_append,
      lineFeeds_append]
    cases hblock : part.padded? pad r.feeds with
    | none =>
      rw [hblock] at h
      obtain ⟨r₁, hc₁, hfeeds, hall⟩ :=
        ih (r := { r with feeds := r.feeds + (slices part.tokens).lineFeeds }) hc hw.2 h
      exact ⟨r₁, hc₁, hfeeds.trans (Nat.add_assoc ..), hall⟩
    | some b =>
      rw [hblock] at h
      dsimp only at h
      cases hadd : r.add b with
      | error e =>
        rw [hadd] at h
        cases h
      | ok r₂ =>
        rw [hadd] at h
        obtain ⟨r₁, hc₁, hfeeds, hall⟩ :=
          ih (r := { r₂ with feeds := r.feeds + (slices part.tokens).lineFeeds })
            ((add_filed hadd).2.1.trans hc) hw.2 h
        refine ⟨r₁, hc₁, hfeeds.trans (Nat.add_assoc ..), fun vs => ?_⟩
        dsimp only
        rw [hadd]
        exact hall vs

/-- A block that is open stays open behind tokens without an end tag of its name. -/
theorem exists_takeAll_open {pad : Padding} {r : Reading} {b : OpenBlock} {ts : List Token}
    (hb : r.current = some b) (h : ∀ t ∈ ts, isStop b.type t = false) :
    ∃ r' b', r.takeAll pad ts = .ok r' ∧ r'.current = some b' ∧ b'.type = b.type ∧
      b'.line = b.line := by
  induction ts generalizing r b with
  | nil => exact ⟨r, b, rfl, hb, rfl, rfl⟩
  | cons t ts ih =>
    rw [List.forall_mem_cons] at h
    rw [Reading.takeAll, Reading.take, hb]
    dsimp only
    rw [takeInside_eq, if_neg fun hs => absurd hs.1 (by rw [h.1]; decide)]
    exact ih (b := { b.keep t.raw with depth := (b.depth + nesting b.type t).toNat }) rfl h.2

/-- Reading up to a place between the blocks of a source that is accepted. -/
theorem Between.exists_takeAll {pad : Padding} {p q : Bytes} {front behind : List Part}
    {c : Component} (h : Between p q front behind) (hc : Component.parse pad (p ++ q) = .ok c) :
    ∃ r : Reading, r.current = none ∧ r.feeds = p.lineFeeds ∧
      ∀ vs, Reading.empty.takeAll pad (front.flatMap Part.tokens ++ vs) = r.takeAll pad vs := by
  obtain ⟨⟨parts, hparts, hdivided⟩, rfl, _⟩ := h
  obtain ⟨r', hr'⟩ : ∃ r', Reading.empty.takeAll pad (parts.flatMap Part.tokens) = .ok r' := by
    rw [hparts.tokens]
    unfold Component.parse at hc
    split at hc
    · exact ⟨_, ‹_›⟩
    · cases hc
  have hw := hparts.wellFormed
  cases hdivided with
  | edge =>
    rw [List.flatMap_append] at hr'
    obtain ⟨r, hcurrent, hfeeds, hall⟩ :=
      exists_takeAll_parts rfl (List.forall_mem_append.1 hw).1 hr'
    exact ⟨r, hcurrent, hfeeds.trans (Nat.zero_add _), hall⟩
  | @text front behind x y data hx hy hs =>
    rw [List.flatMap_append] at hr'
    obtain ⟨r, hcurrent, hfeeds, hall⟩ :=
      exists_takeAll_parts rfl (List.forall_mem_append.1 hw).1 hr'
    have hgap : Part.WellFormed (.gap ⟨x, .text (decodeText x)⟩) := rfl
    refine ⟨{ r with feeds := r.feeds + x.lineFeeds }, hcurrent, ?_, fun vs => ?_⟩
    · dsimp only
      rw [hfeeds, List.flatMap_append, slices_append, lineFeeds_append, List.flatMap_singleton,
        Part.tokens, slices_cons, slices_nil, List.append_nil]
      exact congrArg (· + _) (Nat.zero_add _)
    · rw [List.flatMap_append, List.append_assoc, hall, List.flatMap_singleton,
        takeAll_part hcurrent hgap, Part.tokens, slices_cons, slices_nil, List.append_nil]
      rfl

/-! ## Tags between blocks -/

theorem Markup.OpenTag.startsMarkup {t : Token} {name : Bytes} {pairs : List (Bytes × Bytes)}
    (h : OpenTag t name pairs) (x : Bytes) : startsMarkup (t.raw ++ x) = true := by
  obtain ⟨tail, hraw, _⟩ := h.exists_name
  obtain ⟨c, more, rfl, hc⟩ := h.isName.exists_cons
  rw [hraw]
  simp [Markup.startsMarkup, hc]

theorem scan_of_tokens {t : Token} (h : Markup.tokens t.raw = [t]) :
    scanMarkup (t.raw ++ []) = .token t [] := by
  obtain ⟨mode, hsteps⟩ := steps_tokensFrom .markup t.raw
  rw [← Markup.tokens, h] at hsteps
  have happ := hsteps.append
  rw [slices_cons, slices_nil, List.append_nil] at happ
  rw [List.append_right_eq_self.1 happ] at hsteps
  exact hsteps.cases_cons.1

theorem contentMode_of_isVoid {name : Bytes} (h : isVoid name = true) :
    contentMode name = .markup := by
  have hall : ∀ name ∈ voidNames, contentMode name = .markup := by decide
  exact hall name (List.contains_iff_mem.1 h)

theorem isCustom_of_isVoid {name : Bytes} (h : isVoid name = true) :
    name ≠ BlockType.template ∧ name ≠ BlockType.script ∧ name ≠ BlockType.style := by
  have hall : ∀ name ∈ voidNames,
      name ≠ BlockType.template ∧ name ≠ BlockType.script ∧ name ≠ BlockType.style := by
    decide
  exact hall name (List.contains_iff_mem.1 h)

/-- The tokens of a source with the tag of a void element between its blocks. -/
theorem Between.tokens_insert {p q name : Bytes} {front behind : List Part} {t : Token}
    {pairs : List (Bytes × Bytes)} (h : Between p q front behind) (ht : OpenTag t name pairs)
    (hv : isVoid name = true) :
    Markup.tokens (p ++ (t.raw ++ q)) =
      front.flatMap Part.tokens ++ t :: behind.flatMap Part.tokens := by
  have hmode : t.mode = .markup := by
    rw [ht.mode, contentMode_of_isVoid hv, ite_self]
  have htag : Steps .markup (t.raw ++ q) [t] .markup q := .of_scanMarkup (ht.scan q) hmode
  rw [Markup.tokens, tokensFrom_of_steps ((h.steps (ht.startsMarkup q)).trans htag), ← Markup.tokens,
    h.tokens, List.append_assoc]
  rfl

/-- A start tag between the blocks of a source opens one more. Without an end tag of its name behind
it the block is never closed. -/
theorem Between.unterminated {pad : Padding} {p q source lowered : Bytes} {c : Component}
    {front behind : List Part} {t : Token} {attrs : List Attr} (h : Between p q front behind)
    (hc : Component.parse pad (p ++ q) = .ok c) (hk : t.kind = .startTag lowered attrs)
    (htokens : Markup.tokens source = front.flatMap Part.tokens ++ t :: behind.flatMap Part.tokens)
    (hstop : ∀ u ∈ behind.flatMap Part.tokens, isStop (tagName t) u = false) :
    Component.parse pad source = .error (.unterminated (tagName t) (p.lineFeeds + 1)) := by
  obtain ⟨r, hcurrent, hfeeds, hall⟩ := h.exists_takeAll hc
  obtain ⟨r', b, hr', hb, htype, hline⟩ :=
    exists_takeAll_open (r := r.enter t) (b := r.opened t) rfl hstop
  rw [Component.parse, htokens, hall, Reading.takeAll, take_start hcurrent hk]
  dsimp only
  rw [hr']
  dsimp only
  rw [Reading.finish, hb]
  dsimp only
  rw [htype, hline, ← hfeeds, Reading.opened]

theorem ofType_middle {type : Bytes} {b : Block} (h : b.type ≠ type) (bs cs : List Block) :
    ofType type (bs ++ b :: cs) = ofType type (bs ++ cs) := by
  rw [ofType_append, ofType_append, ofType, ofType, List.filter_cons_of_neg (by simpa using h)]
  rfl

theorem Distributed.insert {bs cs : List Block} {c : Component} {b : Block}
    (h : Distributed (bs ++ cs) c) (hb : b.type ≠ BlockType.template ∧ b.type ≠ BlockType.script ∧
      b.type ≠ BlockType.style) :
    Distributed (bs ++ b :: cs)
      { c with auxiliary := { c.auxiliary with custom := customOf bs ++ b :: customOf cs } } where
  template := (ofType_middle hb.1 bs cs).trans h.template
  script := (ofType_middle hb.2.1 bs cs).trans h.script
  styles := (ofType_middle hb.2.2 bs cs).trans h.styles
  custom := by
    have hcustom : customOf (b :: cs) = b :: customOf cs :=
      List.filter_cons_of_pos (by simp [hb])
    rw [customOf_append, hcustom]

/-- The tag of a void element between the blocks of a source that is accepted. A start tag opens a
block, so the source is refused; if no end tag of its name follows, the block is reported as open.
Only the self-closing tag is an empty block: the source is accepted, with one more custom block at
its place. -/
theorem parse_void_inserted {pad : Padding} {p q : Bytes} {c : Component} {front behind : List Part}
    {t : Token} (h : Component.parse pad (p ++ q) = .ok c) (hplace : Between p q front behind)
    (ht : Markup.tokens t.raw = [t]) (hv : isVoid (tagName t) = true) :
    (∀ lowered attrs, t.kind = .startTag lowered attrs →
      (∃ e, Component.parse pad (p ++ (t.raw ++ q)) = .error e) ∧
      ((∀ u ∈ Markup.tokens q, isStop (tagName t) u = false) →
        Component.parse pad (p ++ (t.raw ++ q)) =
          .error (.unterminated (tagName t) (p.lineFeeds + 1)))) ∧
    (∀ lowered attrs, t.kind = .selfClosing lowered attrs → pad = .none →
      c.auxiliary.custom = customOf (blocksOf front) ++ customOf (blocksOf behind) ∧
      Component.parse .none (p ++ (t.raw ++ q)) =
        .ok { c with auxiliary := { c.auxiliary with
          custom := customOf (blocksOf front) ++
            ⟨tagName t, tagAttrs t, []⟩ :: customOf (blocksOf behind) } }) := by
  obtain ⟨parts, hparts, hdivided⟩ := hplace.parts
  obtain ⟨hfront, hbehind⟩ := hdivided.wellFormed hparts.wellFormed
  have hscan := scan_of_tokens ht
  constructor
  · intro lowered attrs hk
    obtain ⟨name, pairs, hopen, _⟩ := openTag_of_kind hscan hk
    have htokens := hplace.tokens_insert hopen (hopen.tagName ▸ hv)
    constructor
    · cases hresult : Component.parse pad (p ++ (t.raw ++ q)) with
      | error e => exact ⟨e, rfl⟩
      | ok c' =>
        obtain ⟨parts', hparts', _⟩ := parse_ok_iff.1 hresult
        exact absurd (hparts'.tokens.trans htokens) (not_parts_of_start hbehind hparts'.wellFormed hk)
    · intro hstop
      exact hplace.unterminated h hk htokens (hplace.tokens ▸ hstop)
  · rintro lowered attrs hk rfl
    obtain ⟨name, pairs, hopen⟩ := selfClosing_of_kind hscan hk
    have htokens := hplace.tokens_insert hopen (hopen.tagName ▸ hv)
    obtain ⟨parts', hparts', hdist, hvalid⟩ := parse_ok_iff.1 h
    obtain rfl := hparts'.unique hparts
    rw [blocksFrom_none, hdivided.blocks] at hdist
    refine ⟨hdist.custom.symm.trans (customOf_append _ _), parse_ok_iff.2
      ⟨front ++ .single t :: behind, ⟨?_, ?_⟩, ?_, hvalid⟩⟩
    · rw [List.flatMap_append, List.flatMap_cons, htokens]
      rfl
    · exact List.forall_mem_append.2
        ⟨hfront, List.forall_mem_cons.2 ⟨⟨lowered, attrs, hk⟩, hbehind⟩⟩
    · rw [blocksFrom_none, blocksOf, List.filterMap_append]
      exact hdist.insert (isCustom_of_isVoid hv)

/-- A place in the empty line between a template and a block of documentation. -/
theorem parse_void_inserted_br :
    Component.parse .none ("<template></template>\n" ++ "\n<docs></docs>") =
        .ok ⟨⟨"template", [], []⟩, ⟨none, [], [⟨"docs", [], []⟩]⟩⟩ ∧
      Component.parse .none ("<template></template>\n" ++ ("<br>" ++ "\n<docs></docs>")) =
        .error (.unterminated "br" 2) ∧
      Component.parse .none ("<template></template>\n" ++ ("<br/>" ++ "\n<docs></docs>")) =
        .ok ⟨⟨"template", [], []⟩, ⟨none, [], [⟨"br", [], []⟩, ⟨"docs", [], []⟩]⟩⟩ := by
  let template : Part := .pair ⟨"<template>", .startTag "template" []⟩ []
    ⟨"</template>", .endTag "template"⟩
  let docs : Part := .pair ⟨"<docs>", .startTag "docs" []⟩ [] ⟨"</docs>", .endTag "docs"⟩
  have hparse : Component.parse .none ("<template></template>\n" ++ "\n<docs></docs>") =
      .ok ⟨⟨"template", [], []⟩, ⟨none, [], [⟨"docs", [], []⟩]⟩⟩ := by
    decide +kernel
  have hparts : Factors [template, .gap ⟨"\n\n", .text "\n\n"⟩, docs]
      (Markup.tokens ("<template></template>\n" ++ "\n<docs></docs>")) := by
    refine ⟨by decide +kernel, ?_⟩
    simp only [List.forall_mem_cons, List.not_mem_nil, false_imp_iff, implies_true, and_true]
    exact ⟨⟨⟨_, _, rfl⟩, nestedFrom_nil.2 rfl, by decide +kernel⟩, rfl,
      ⟨_, _, rfl⟩, nestedFrom_nil.2 rfl, by decide +kernel⟩
  have hdivided : Divided ([template] ++ .gap ⟨"\n" ++ "\n", .text "\n\n"⟩ :: [docs])
      ([template] ++ [.gap ⟨"\n", .text (decodeText "\n")⟩])
      (.gap ⟨"\n", .text (decodeText "\n")⟩ :: [docs]) :=
    .text (by decide) (by decide) (by decide)
  have hplace : Between "<template></template>\n" "\n<docs></docs>"
      ([template] ++ [.gap ⟨"\n", .text (decodeText "\n")⟩])
      (.gap ⟨"\n", .text (decodeText "\n")⟩ :: [docs]) :=
    ⟨⟨_, hparts, hdivided⟩, by decide, fun hq => absurd hq (by decide)⟩
  have hstart := parse_void_inserted (t := ⟨"<br>", .startTag "br" []⟩) hparse hplace
    (by decide +kernel) (by decide +kernel)
  have hclosed := parse_void_inserted (t := ⟨"<br/>", .selfClosing "br" []⟩) hparse hplace
    (by decide +kernel) (by decide +kernel)
  exact ⟨hparse, (hstart.1 _ _ rfl).2 (by decide +kernel),
    (hclosed.2 _ _ rfl rfl).2.trans (by decide +kernel)⟩

/-- A void start tag behind the template is no empty block. -/
theorem void_refused :
    Component.parse .none "<template></template>" =
        .ok ⟨⟨"template", [], []⟩, ⟨none, [], []⟩⟩ ∧
      isVoid "br" = true ∧
      Component.parse .none "<template></template><br>" = .error (.unterminated "br" 1) := by
  decide +kernel

end Graft
