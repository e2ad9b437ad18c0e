import Graft.Proofs.Component.Grammar
import Graft.Proofs.Markup.Written

/-!
# Graft.Proofs.Component.Enclosed

The content of a block stays inside its tags: whatever stands behind it, the reader finds the end
tag that is written behind the content, and finds it well nested.

* `Enclosed`: content that its written end tag ends.
* `PairRun.enclosed`, `enclosed_nil`: the content of the blocks of a source.
* `Enclosed.pad`: filler in front of the content.
* `enclosed_of_readsAll`: a written forest in a block of markup.
-/

namespace Graft

open Markup

/-- Content in front of which the start tag of a block may stand, and behind which its end tag is
found, whatever follows. -/
def Enclosed (type content : Bytes) : Prop :=
  ∀ x, ∃ inner mode,
    Steps (contentMode type) (content ++ (endText type ++ x)) inner mode (endText type ++ x) ∧
      Nested type inner ∧ scan mode (endText type ++ x) = .token ⟨endText type, .endTag type.lower⟩ x

/-! ## Tags in a run -/

theorem openTag_of_kind {t : Token} {u lowered : Bytes} {attrs : List Attr}
    (h : scanMarkup (t.raw ++ u) = .token t u) (hk : t.kind = .startTag lowered attrs) :
    ∃ name pairs, OpenTag t name pairs ∧ endsWithSlash t.raw = false := by
  cases scanned_of_scanMarkup h with
  | @openTag name pairs ht =>
    refine ⟨name, pairs, ht, ?_⟩
    have hkind := ht.kind
    rw [hk] at hkind
    split at hkind
    · cases hkind
    · rename_i hslash
      simpa using hslash
  | text _ _ hk' | cut _ hk' | comment _ _ hk' | doctype _ _ hk' => rw [hk] at hk'; cases hk'
  | closeTag ht => rw [ht.kind] at hk; cases hk

theorem selfClosing_of_kind {t : Token} {u lowered : Bytes} {attrs : List Attr}
    (h : scanMarkup (t.raw ++ u) = .token t u) (hk : t.kind = .selfClosing lowered attrs) :
    ∃ name pairs, OpenTag t name pairs := by
  cases scanned_of_scanMarkup h with
  | @openTag name pairs ht => exact ⟨name, pairs, ht⟩
  | text _ _ hk' | cut _ hk' | comment _ _ hk' | doctype _ _ hk' => rw [hk] at hk'; cases hk'
  | closeTag ht => rw [ht.kind] at hk; cases hk

theorem closeTag_of_kind {mode : Mode} {t : Token} {u lowered : Bytes}
    (h : scan mode (t.raw ++ u) = .token t u) (hk : t.kind = .endTag lowered) :
    ∃ name, CloseTag t name ∧
      ∀ element, mode = .raw element → element ≠ .plaintext ∧ name.lower = element.name := by
  cases mode with
  | markup =>
    cases scanned_of_scanMarkup h with
    | @closeTag name ht => exact ⟨name, ht, by simp⟩
    | text _ _ hk' | cut _ hk' | comment _ _ hk' | doctype _ _ hk' => rw [hk] at hk'; cases hk'
    | openTag ht =>
      have hkind := ht.kind
      rw [hk] at hkind
      split at hkind <;> cases hkind
  | raw element =>
    rcases scan_raw_cases h with ⟨_, hk'⟩ | ⟨he, name, ht, hn⟩
    · rw [hk] at hk'; cases hk'
    · refine ⟨name, ht, fun element' he' => ?_⟩
      cases he'
      exact ⟨he, hn⟩

theorem Markup.CloseTag.stops {t : Token} {name : Bytes} (h : CloseTag t name) (x : Bytes) :
    Stops (t.raw ++ x) := by
  obtain ⟨tail, _, hraw, _⟩ := h.exists_name
  rw [hraw]
  exact stops_cons _

theorem Markup.CloseTag.append_ne_nil {t : Token} {name : Bytes} (h : CloseTag t name) (x : Bytes) :
    t.raw ++ x ≠ [] := by
  obtain ⟨tail, _, hraw, _⟩ := h.exists_name
  rw [hraw]
  exact List.cons_ne_nil _ _

/-! ## Parts in a run -/

theorem mode_of_isGap {t : Token} (h : isGap t = true) : t.mode = .markup := by
  unfold isGap at h
  unfold Token.mode
  cases hk : t.kind with
  | startTag =>
    rw [hk] at h
    cases h
  | text | comment | doctype | selfClosing | endTag => rfl

theorem Part.mode_eq {part : Part} {m m' : Mode} {s s' : Bytes} (hw : part.WellFormed)
    (h : Steps m s part.tokens m' s') : m' = .markup := by
  have single {t : Token} {m m' : Mode} {s s' : Bytes} (h : Steps m s [t] m' s') : m' = t.mode := by
    cases h with
    | cons _ hrest => cases hrest; rfl
  cases part with
  | gap t => rw [single h, mode_of_isGap hw]
  | single t =>
    obtain ⟨lowered, attrs, hk⟩ := hw
    rw [single h, Token.mode, hk]
  | pair start inner stop =>
    obtain ⟨_, _, hs⟩ := hw
    rw [Part.tokens, ← List.cons_append] at h
    obtain ⟨m₁, s₁, _, h₂⟩ := h.split
    obtain ⟨_, hk⟩ := exists_endTag hs
    rw [single h₂, Token.mode, hk]

theorem exists_steps_of_mem {parts : List Part} {part : Part} (hw : ∀ p ∈ parts, p.WellFormed)
    (hm : part ∈ parts) {s s' : Bytes} {m' : Mode}
    (h : Steps .markup s (parts.flatMap Part.tokens) m' s') :
    ∃ s₀ s₁, Steps .markup s₀ part.tokens .markup s₁ := by
  induction parts generalizing s with
  | nil => cases hm
  | cons p parts ih =>
    rw [List.flatMap_cons] at h
    obtain ⟨m₁, s₁, h₁, h₂⟩ := h.split
    have hm₁ := p.mode_eq (hw p (List.mem_cons_self ..)) h₁
    subst hm₁
    rcases List.mem_cons.1 hm with rfl | hm
    · exact ⟨s, s₁, h₁⟩
    · exact ih (fun q hq => hw q (List.mem_cons_of_mem _ hq)) hm h₂

theorem Factors.exists_steps {parts : List Part} {part : Part} {source : Bytes}
    (h : Factors parts (Markup.tokens source)) (hm : part ∈ parts) :
    ∃ s₀ s₁, Steps .markup s₀ part.tokens .markup s₁ := by
  obtain ⟨mode, hsteps⟩ := steps_tokensFrom .markup source
  rw [show tokensFrom .markup source = parts.flatMap Part.tokens from h.tokens.symm] at hsteps
  exact exists_steps_of_mem h.wellFormed hm hsteps

/-- A block with its tags, in a run. -/
structure PairRun (start : Token) (inner : List Token) (stop : Token) (name : Bytes) where
  pairs : List (Bytes × Bytes)
  stopName : Bytes
  behind : Bytes
  mode : Mode
  openTag : OpenTag start name pairs
  unslashed : endsWithSlash start.raw = false
  closeTag : CloseTag stop stopName
  alike : Fold.alike stopName name = true
  nested : Nested name inner
  steps : Steps (contentMode name) (slices inner ++ (stop.raw ++ behind)) inner mode
    (stop.raw ++ behind)
  rawStop : ∀ element, mode = .raw element →
    element ≠ .plaintext ∧ stopName.lower = element.name

theorem exists_pairRun {start stop : Token} {inner : List Token} {s₀ s₁ : Bytes}
    (hw : Part.WellFormed (.pair start inner stop))
    (h : Steps .markup s₀ (Part.tokens (.pair start inner stop)) .markup s₁) :
    ∃ name, Nonempty (PairRun start inner stop name) := by
  obtain ⟨⟨lowered, attrs, hk⟩, hn, hs⟩ := hw
  rw [Part.tokens] at h
  obtain ⟨hstart, hrest⟩ := h.cases_cons
  obtain ⟨name, pairs, hopen, hslash⟩ := openTag_of_kind hstart hk
  have hmode : start.mode = contentMode name := by rw [hopen.mode, hslash]; rfl
  obtain ⟨mode, s₂, hinner, hstop⟩ := hrest.split
  have hlast := hstop.cases_cons.1
  have happ := hstop.append
  rw [slices_cons, slices_nil, List.append_nil] at happ
  rw [slices_nil, List.nil_append] at hlast
  rw [hopen.tagName] at hn hs
  obtain ⟨stopLowered, hstopKind⟩ := exists_endTag hs
  obtain ⟨stopName, hclose, hraw⟩ := closeTag_of_kind hlast hstopKind
  have halike : Fold.alike stopName name = true := by
    unfold isStop at hs
    rw [hclose.kind] at hs
    dsimp only at hs
    rwa [hclose.spelledName] at hs
  have hslices := hinner.append
  rw [← happ] at hinner hslices
  rw [← hslices, hmode] at hinner
  exact ⟨name, ⟨⟨pairs, stopName, s₁, mode, hopen, hslash, hclose, halike, hn, hinner, hraw⟩⟩⟩

/-! ## Runs that end in a raw element -/

theorem endsInRaw_of_steps {element : RawElement} {m : Mode} {ts : List Token} {s s' : Bytes}
    (h : Steps m s ts (.raw element) s') : EndsInRaw element m ts := by
  induction ts generalizing m s with
  | nil => cases h; rfl
  | cons t ts ih => exact .inr (ih h.cases_cons.2)

theorem nesting_of_mode {t : Token} {element : RawElement} {type : Bytes}
    (h : t.mode = .raw element) (ha : Fold.alike element.name type = true) :
    nesting type t = 1 := by
  unfold Token.mode at h
  split at h
  · rename_i lowered attrs hk
    split at h
    · rename_i hname
      split at h
      · rename_i hof
        cases h
        rw [RawElement.name_of_ofName? hof] at ha
        simp only [nesting, hk, hname, ha, if_true]
      · cases h
    · cases h
  · cases h

/-- Tags of the name of a raw element that are well nested do not end inside it. -/
theorem Markup.EndsInRaw.of_nested {element : RawElement} {mode : Mode} {depth : Int} {type : Bytes}
    {ts : List Token} (h : EndsInRaw element mode ts) (hn : NestedFrom depth type ts)
    (ha : Fold.alike element.name type = true) :
    mode = .raw element ∧ level type ts = 0 := by
  induction ts generalizing mode depth with
  | nil => exact ⟨h, level_nil type⟩
  | cons t ts ih =>
    obtain ⟨hdepth, hrest⟩ := nestedFrom_cons.1 hn
    rcases h with ⟨hmode, rfl, data, hk⟩ | h
    · exact ⟨hmode, by rw [level_cons, level_nil, nesting_of_text hk]; rfl⟩
    · obtain ⟨hmode, hlevel⟩ := ih h hrest
      have hone := nesting_of_mode hmode ha
      have hsettled := hn.settled
      rw [level_cons] at hsettled
      omega

/-! ## The content of the blocks of a source -/

theorem PairRun.enclosed {start stop : Token} {inner : List Token} {name : Bytes}
    (h : PairRun start inner stop name) : Enclosed name (slices inner) := by
  have hname (element : RawElement) (hlower : h.stopName.lower = element.name)
      (he : EndsInRaw element (contentMode name) inner) : name = element.name := by
    have ha : Fold.alike element.name name = true :=
      hlower ▸ Fold.alike_trans (Fold.alike_symm (Fold.alike_lower h.stopName)) h.alike
    have hmode := (he.of_nested h.nested ha).1
    unfold contentMode at hmode
    split at hmode
    · rename_i hof
      cases hmode
      exact (RawElement.name_of_ofName? hof).symm
    · cases hmode
  have hclose := closeTag_written h.openTag.isName
  intro x
  obtain ⟨us, hus, hall⟩ := h.steps.swap (y := endText name ++ x)
    (h.closeTag.append_ne_nil h.behind) (h.closeTag.stops h.behind) (stops_cons _)
    (fun _ => .inr (startsMarkup_endText name x)) fun element he hend =>
      .inr ((hclose.startsRawEnd_iff element x).2 (by
        have hlower := (h.closeTag.startsRawEnd_iff element h.behind).1 hend
        rw [hname element hlower he, element.lower_name]))
  rw [hall.eq (by simp [endText])] at hus
  refine ⟨inner, h.mode, hus, h.nested, ?_⟩
  cases hm : h.mode with
  | markup => exact hclose.scan x
  | raw element =>
    obtain ⟨hplain, hlower⟩ := h.rawStop element hm
    have hsteps := h.steps
    rw [hm] at hsteps
    refine hclose.scan_raw hplain ?_ x
    rw [hname element hlower (endsInRaw_of_steps hsteps), element.lower_name]

/-! ## Content put together -/

theorem scan_endText {type : Bytes} (hn : IsTagName type) (hp : type ≠ plaintextName) (x : Bytes) :
    scan (contentMode type) (endText type ++ x) = .token ⟨endText type, .endTag type.lower⟩ x := by
  have hclose := closeTag_written hn
  unfold contentMode
  split
  · rename_i element hof
    have hname := RawElement.name_of_ofName? hof
    refine hclose.scan_raw ?_ (by rw [← hname, element.lower_name]) x
    rintro rfl
    exact hp hname.symm
  · exact hclose.scan x

theorem enclosed_nil {type : Bytes} (hn : IsTagName type) (hp : type ≠ plaintextName) :
    Enclosed type [] :=
  fun x => ⟨[], contentMode type, .refl, nestedFrom_nil.2 rfl, scan_endText hn hp x⟩

theorem Markup.Prepended.nested {read : Bytes → Bytes} {p type : Bytes} {ts us : List Token}
    (h : Prepended read p ts us) (hn : Nested type ts) : Nested type us := by
  cases h with
  | alone => exact nestedFrom_cons.2 ⟨Int.le_refl 0, hn⟩
  | merged hk =>
    have hrest := (nestedFrom_cons.1 hn).2
    rw [nesting_of_text hk] at hrest
    exact nestedFrom_cons.2 ⟨Int.le_refl 0, hrest⟩

theorem Enclosed.pad {type content p : Bytes} (h : Enclosed type content) (hn : IsTagName type)
    (hp : Byte.lt ∉ p) : Enclosed type (p ++ content) := by
  by_cases hne : p = []
  · subst hne
    exact h
  intro x
  obtain ⟨inner, mode, hsteps, hnested, hstop⟩ := h x
  have hclose := (closeTag_written hn).scan x
  have last {mode' : Mode} (hm : mode' = mode ∨ mode' = .markup) :
      scan mode' (endText type ++ x) = .token ⟨endText type, .endTag type.lower⟩ x := by
    rcases hm with rfl | rfl
    · exact hstop
    · exact hclose
  rw [List.append_assoc]
  cases hm : contentMode type with
  | markup =>
    rw [hm] at hsteps
    obtain ⟨us, mode', hus, hpre, hmode⟩ := hsteps.prepend_markup hp hne
      (textRest_of_startsMarkup (startsMarkup_endText type x))
    exact ⟨us, mode', hus, hpre.nested hnested, last hmode⟩
  | raw element =>
    rw [hm] at hsteps
    obtain ⟨us, mode', hus, hpre, hmode⟩ := hsteps.prepend_raw hp hne (by
      rintro rfl
      generalize content ++ (endText type ++ x) = s at hsteps
      cases hsteps
      rcases scan_raw_cases (t := ⟨endText type, .endTag type.lower⟩) hstop with
        ⟨_, hk⟩ | ⟨he, name, ht, hname⟩
      · cases hk
      · exact contentRest_of_startsRawEnd he ((ht.startsRawEnd_iff element x).2 hname))
    exact ⟨us, mode', hus, hpre.nested hnested, last hmode⟩

theorem enclosed_of_readsAll {type text : Bytes} {nodes : List Node} (hn : IsTagName type)
    (hm : contentMode type = .markup) (h : ReadsAll nodes text) : Enclosed type text := by
  intro x
  obtain ⟨ts, hsteps, hnested, _⟩ :=
    h [] (endText type ++ x) (textRest_of_startsMarkup (startsMarkup_endText type x))
  exact ⟨ts, .markup, hm ▸ hsteps, hnested type, (closeTag_written hn).scan x⟩

end Graft
