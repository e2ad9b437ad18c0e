import Graft.Proofs.Markup.Joined

/-!
# Graft.Proofs.Markup.Swallowed

A `plaintext` element that is written swallows what stands behind it, so that nothing that was open
before it is closed any more.

* `Opening`: tokens that close nothing but what they open.
* `Swallows`: written markup in front of which nothing is closed, whatever follows it.
* `sound_or_swallows`: a node as it is read is sound, or its written form swallows.
* `sound_or_opening`: the same for a forest.
-/

namespace Graft.Markup

/-- Tokens that close nothing but what they have opened. -/
def Opening (ts : List Token) : Prop := ∀ type front, front <+: ts → 0 ≤ level type front

theorem opening_nil : Opening [] := by
  intro type front hf
  rw [List.prefix_nil.1 hf]
  exact Int.le_refl 0

theorem Opening.cons {t : Token} {ts : List Token} (h : Opening ts) (ht : ∀ type, 0 ≤ nesting type t) :
    Opening (t :: ts) := by
  intro type front hf
  rcases List.prefix_cons_iff.1 hf with rfl | ⟨more, rfl, hmore⟩
  · exact Int.le_refl 0
  · have hfirst := ht type
    have hrest := h type more hmore
    rw [level_cons]
    omega

theorem NestedFrom.opening {depth : Int} {type : Bytes} {ts us front : List Token}
    (h : NestedFrom depth type ts) (hu : Opening us) (hf : front <+: ts ++ us) :
    0 ≤ depth + level type front := by
  induction ts generalizing depth front with
  | nil =>
    have hfront := hu type front hf
    rw [nestedFrom_nil.1 h]
    omega
  | cons t ts ih =>
    obtain ⟨hd, hrest⟩ := nestedFrom_cons.1 h
    rcases List.prefix_cons_iff.1 hf with rfl | ⟨more, rfl, hmore⟩
    · rw [level_nil]
      omega
    · have := ih hrest hmore
      rw [level_cons]
      omega

theorem Opening.behind {ts us : List Token} (hu : Opening us) (h : ∀ type, Nested type ts) :
    Opening (ts ++ us) := by
  intro type front hf
  have := (h type).opening hu hf
  omega

/-- Behind the start tag of a `plaintext` element there is only text. -/
theorem opening_plaintext (s : Bytes) : Opening (tokensFrom (.raw .plaintext) s) := by
  by_cases hs : s = []
  · rw [hs, tokensFrom_nil]
    exact opening_nil
  · have hscan : scan (.raw .plaintext) (s ++ []) = .token ⟨s, .text (decodeRaw .plaintext s)⟩ [] :=
      scan_of_content hs rfl
    rw [List.append_nil] at hscan
    rw [tokensFrom_of_token hscan, tokensFrom_nil]
    exact opening_nil.cons fun _ => Int.le_refl 0

/-! ## Written nodes -/

/-- Markup that keeps everything open that stands open in front of it, whatever follows. -/
structure Swallows (text : Bytes) : Prop where
  starts : ∀ x, startsMarkup (text ++ x) = true
  opening : ∀ x, Opening (tokens (text ++ x))

theorem swallows_element {name : Bytes} {attrs : List Attr} {inner : Bytes} (h : IsElement name attrs)
    (hi : ∀ x, Opening (tokensFrom (contentMode name) (inner ++ x))) :
    Swallows (startText name attrs ++ inner) where
  starts := by
    intro x
    rw [List.append_assoc]
    exact startsMarkup_startText h.isName attrs _
  opening := by
    intro x
    obtain ⟨t, ht, hslash, hraw⟩ := openTag_written h.isName h.isKey
    have hmode : t.mode = contentMode name := by rw [ht.mode, if_neg (by simp [hslash])]
    have hscan : scan .markup (startText name attrs ++ inner ++ x) = .token t (inner ++ x) := by
      rw [List.append_assoc, startText, ← hraw]
      exact ht.scan (inner ++ x)
    rw [tokens, tokensFrom_of_token hscan, hmode]
    refine (hi x).cons fun type => ?_
    rw [nesting_openTag ht]
    split <;> decide

theorem render_stopped {name : Bytes} {attrs : List Attr} {children : List Node} {inner : Rendered}
    (hvoid : isVoid name = false) (h : renderChildren (isLiteral name) children = .ok inner)
    (hstop : inner.stopped = true ∨ name = plaintextName) :
    (Node.element name attrs children).render =
      .ok ⟨startText name attrs ++ (feedText name children ++ inner.text), true⟩ := by
  have hstop' : (inner.stopped || name == plaintextName) = true := by
    simpa using hstop
  rw [Node.render]
  simp only [hvoid, h, hstop', Bool.false_eq_true, if_false, if_true, startText, List.append_assoc]
  rfl

/-- A node that is sound, or whose written form swallows what stands behind it. -/
def SoundOrSwallows (node : Node) : Prop :=
  Sound node ∨ ∃ text, node.render = .ok ⟨text, true⟩ ∧ Swallows text

/-- Nodes are written up to the first one that swallows. -/
theorem sound_or_swallows_children {nodes : List Node} (h : ∀ node ∈ nodes, SoundOrSwallows node) :
    (∀ node ∈ nodes, Sound node) ∨
      ∃ text, renderChildren false nodes = .ok ⟨text, true⟩ ∧
        ∀ pending x, Opening (tokens (escape pending ++ (text ++ x))) := by
  induction nodes with
  | nil => exact .inl (by simp)
  | cons node nodes ih =>
    rw [List.forall_mem_cons] at h
    have behind (pending : Bytes) {s : Bytes} (hs : startsMarkup s = true) (ho : Opening (tokens s)) :
        Opening (tokens (escape pending ++ s)) := by
      obtain ⟨ts, hsteps, hn, _⟩ := run_flush pending (textRest_of_startsMarkup hs)
      rw [tokens, tokensFrom_of_steps hsteps]
      exact ho.behind hn
    rcases h.1 with hnode | ⟨text, htext, hswallows⟩
    · rcases ih h.2 with hall | ⟨more, hmore, ho⟩
      · exact .inl (List.forall_mem_cons.2 ⟨hnode, hall⟩)
      · right
        rcases writes_of_sound hnode with ⟨data, rfl, _⟩ | ⟨_, text, htext, hreads⟩
        · refine ⟨escape data ++ more, ?_, fun pending x => ?_⟩
          · rw [renderChildren_text_cons, hmore]
            rfl
          · rw [List.append_assoc, ← List.append_assoc, ← escape_append]
            exact ho (pending ++ data) x
        · refine ⟨text ++ more, ?_, fun pending x => ?_⟩
          · rw [renderChildren_cons, htext, hmore]
            rfl
          · rw [List.append_assoc]
            refine behind pending (hreads.starts (more ++ x)) ?_
            obtain ⟨ts, hsteps, hn, _⟩ := hreads.run (more ++ x)
            rw [tokens, tokensFrom_of_steps hsteps]
            exact (ho [] x).behind hn
    · refine .inr ⟨text, ?_, fun pending x => behind pending (hswallows.starts x) (hswallows.opening x)⟩
      rw [renderChildren_cons, htext]
      rfl

theorem sound_or_swallows {node : Node} (h : Shaped (fun _ => True) RawData node) :
    SoundOrSwallows node := by
  induction h with
  | text h => exact .inl (.text h)
  | comment h => exact .inl (.comment h)
  | doctype => exact .inl .doctype
  | @element name attrs children tag _ void raw all ih =>
    by_cases hp : name = plaintextName
    · subst hp
      obtain ⟨inner, hinner⟩ :=
        exists_renderChildren
          (fun child hc => exists_render_of_writable (writable_of_shaped (all child hc)))
          (isLiteral plaintextName)
      refine .inr ⟨_, render_stopped (by decide) hinner (.inr rfl), swallows_element tag fun x => ?_⟩
      rw [show contentMode plaintextName = .raw .plaintext by decide]
      exact opening_plaintext _
    cases hr : RawElement.ofName? name with
    | some element =>
      refine .inl (.element tag hp void raw fun child hc => ?_)
      rcases raw element hr with rfl | ⟨data, rfl, _⟩
      · cases hc
      · rw [List.mem_singleton.1 hc]
        cases all (.text data) (List.mem_singleton_self _) with
        | text h => exact .text h
    | none =>
      rcases sound_or_swallows_children ih with hall | ⟨inner, hinner, ho⟩
      · exact .inl (.element tag hp void raw hall)
      have hliteral : isLiteral name = false := by rw [isLiteral, hr]
      have hvoid : isVoid name = false := by
        by_contra hv
        rw [void (by simpa using hv), renderChildren_nil] at hinner
        cases hinner
      refine .inr ⟨_, render_stopped hvoid (hliteral ▸ hinner) (.inl rfl),
        swallows_element tag fun x => ?_⟩
      rw [contentMode, hr, List.append_assoc, ← escape_feedText]
      exact ho _ x

/-! ## Written forests -/

/-- A forest is written as children are, and goes on behind a node that swallows. -/
theorem exists_append_of_renderChildren {nodes : List Node} {text body : Bytes} {stopped : Bool}
    (h : renderChildren false nodes = .ok ⟨text, stopped⟩) (hr : render nodes = .ok body) :
    ∃ more, body = text ++ more := by
  induction nodes generalizing text body with
  | nil =>
    cases h
    exact ⟨body, rfl⟩
  | cons node nodes ih =>
    rw [renderChildren_cons] at h
    rw [render_cons] at hr
    split at h
    · cases h
    rename_i first hfirst
    rw [hfirst] at hr
    dsimp only at hr
    split at hr
    · cases hr
    rename_i rest hrest
    cases hr
    split at h
    · cases h
      exact ⟨rest, rfl⟩
    · split at h
      · cases h
      rename_i inner hinner
      cases h
      obtain ⟨more, rfl⟩ := ih hinner hrest
      exact ⟨more, by rw [List.append_assoc]⟩

theorem sound_or_opening {nodes : List Node} {body : Bytes}
    (h : ∀ node ∈ nodes, Shaped (fun _ => True) RawData node) (hr : render nodes = .ok body) :
    (∀ node ∈ nodes, Sound node) ∨ ∀ x, Opening (tokens (body ++ x)) := by
  rcases sound_or_swallows_children fun node hn => sound_or_swallows (h node hn) with
    hall | ⟨text, htext, ho⟩
  · exact .inl hall
  · obtain ⟨more, rfl⟩ := exists_append_of_renderChildren htext hr
    refine .inr fun x => ?_
    rw [List.append_assoc]
    exact ho [] (more ++ x)

end Graft.Markup
