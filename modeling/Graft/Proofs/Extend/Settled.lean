import Graft.Proofs.Extend.Substitution

/-!
# Graft.Proofs.Extend.Settled

What substitution keeps: sound, stable and filled forests stay so, and it does not matter whether
texts are joined before it or after it.

* `forall_substituteAll`, `forall_replacement?`: a property of nodes is kept, and handed down.
* `kept_sound`, `kept_stable`, `kept_writable`, `kept_filled`: such properties.
* `joinFrom_substituteAll`: joining texts before and after.
-/

namespace Graft.Extend

open Markup

variable {content : Bytes → Option (List Node)}

/-- A property of all nodes that points and other elements keep. -/
structure Kept (content : Bytes → Option (List Node)) (p : Node → Prop) : Prop where
  children : ∀ {name attrs children}, p (.element name attrs children) → ∀ child ∈ children, p child
  element : ∀ {name attrs children}, p (.element name attrs children) →
    (∀ child ∈ substituteAll content children, p child) →
      p (.element name attrs (substituteAll content children))
  point : ∀ {attrs children inner}, p (.element pointTag attrs children) → (∀ child ∈ inner, p child) →
    p (.element neutralTag (Attr.without nameKey attrs) inner)

theorem forall_substituteAll {p : Node → Prop} (hp : Kept content p)
    (hc : ∀ name nodes, content name = some nodes → ∀ node ∈ nodes, p node) (forest : List Node) :
    (∀ node ∈ forest, p node) → ∀ node ∈ substituteAll content forest, p node := by
  induction forest using forestInduction with
  | nil => intro _ node hn; rw [substituteAll] at hn; cases hn
  | leaf node rest hleaf ih =>
    intro h
    rw [List.forall_mem_cons] at h
    rw [substituteAll_cons, substitute_leaf hleaf, List.forall_mem_cons]
    exact ⟨h.1, ih h.2⟩
  | element name attrs children rest ihc ih =>
    intro h
    rw [List.forall_mem_cons] at h
    rw [substituteAll_cons, List.forall_mem_cons]
    have hchildren := ihc (hp.children h.1)
    refine ⟨?_, ih h.2⟩
    by_cases hname : name = pointTag
    · subst hname
      cases hr : (Attr.find? nameKey attrs).bind content with
      | none =>
        rw [substitute_kept hr]
        exact hp.point h.1 hchildren
      | some replacement =>
        rw [substitute_replaced hr]
        obtain ⟨name, _, hname⟩ := Option.bind_eq_some_iff.1 hr
        exact hp.point h.1 (hc name replacement hname)
    · rw [substitute_element hname]
      exact hp.element h.1 hchildren

theorem forall_replacement? {p : Node → Prop}
    (hp : ∀ {name attrs children}, p (.element name attrs children) → ∀ child ∈ children, p child)
    {forest : List Node} (h : ∀ node ∈ forest, p node) (point : Bytes) (nodes : List Node)
    (hr : replacement? forest point = some nodes) : ∀ node ∈ nodes, p node := by
  have below {node : Node} (hn : p node) : ∀ child ∈ node.children, p child := by
    cases node with
    | element name attrs children => exact hp hn
    | text | comment | doctype => simp [Node.children]
  unfold replacement? at hr
  split at hr
  · cases hr
  · rename_i container more hcontainer
    obtain ⟨node, hfind, rfl⟩ := Option.map_eq_some_iff.1 hr
    have hmem : container ∈ topLevel (.named containerTag) forest := by
      rw [hcontainer]
      exact List.mem_cons_self ..
    have hcontainer' := h container (List.mem_filter.1 hmem).1
    exact below (below hcontainer' node (List.mem_of_find?_eq_some hfind))

/-! ## Sound forests -/

theorem isElement_neutral {attrs : List Attr} {name : Bytes} (h : IsElement name attrs) :
    IsElement neutralTag (Attr.without nameKey attrs) where
  isName := ⟨forall_mem_of_all (by decide), by decide⟩
  isKey := fun a ha => h.isKey a (List.mem_filter.1 ha).1

theorem kept_shaped {named : Bytes → Prop} {held : RawElement → Bytes → Prop}
    (hn : named neutralTag) : Kept content (Shaped named held) where
  children := by
    intro name attrs children h
    cases h with
    | element _ _ _ _ hall => exact hall
  element := by
    intro name attrs children h hall
    cases h with
    | element tag hname void raw _ =>
      refine .element tag hname (fun hv => ?_) (fun element he => ?_) hall
      · rw [void hv, substituteAll]
      · rcases raw element he with rfl | ⟨data, rfl, hd⟩
        · exact .inl (by rw [substituteAll])
        · refine .inr ⟨data, ?_, hd⟩
          rw [substituteAll, substituteAll, substitute_leaf (by simp)]
  point := by
    intro attrs children inner h hall
    cases h with
    | element tag _ _ _ _ =>
      refine .element (isElement_neutral tag) hn (fun hv => ?_) (fun element he => ?_) hall
      · exact absurd hv (by decide)
      · rw [show RawElement.ofName? neutralTag = none by decide] at he
        cases he

theorem kept_sound : Kept content Sound := kept_shaped (by decide)

theorem startsWithLineFeed_substituteAll (children : List Node) :
    startsWithLineFeed (substituteAll content children) = startsWithLineFeed children := by
  cases children with
  | nil => rw [substituteAll]
  | cons node rest =>
    rw [substituteAll_cons]
    cases node with
    | element name attrs children =>
      rw [substitute]
      split <;> rfl
    | text data => rw [substitute_leaf (by simp)]; cases data <;> rfl
    | comment | doctype => rw [substitute_leaf (by simp)]; rfl

theorem kept_stable : Kept content Stable where
  children := by
    intro name attrs children h
    cases h with
    | element _ hall => exact hall
  element := by
    intro name attrs children h hall
    cases h with
    | element hfeed _ => exact .element (by rwa [startsWithLineFeed_substituteAll]) hall
  point := by
    intro attrs children inner _ hall
    refine .element ?_ hall
    rw [show swallowsLineFeed neutralTag = false by decide, Bool.false_and]

theorem kept_writable : Kept content Writable where
  children := Writable.children
  element := by
    intro name attrs children h hall
    cases h with
    | element void _ => exact .element (fun hv => by rw [void hv, substituteAll]) hall
  point := fun _ hall => .element (fun hv => absurd hv (by decide)) hall

theorem kept_filled : Kept content Filled where
  children := by
    intro name attrs children h
    cases h with
    | element hall => exact hall
  element := fun _ hall => .element hall
  point := fun _ hall => .element hall

/-! ## Joined texts -/

theorem substituteAll_append (front rest : List Node) :
    substituteAll content (front ++ rest) =
      substituteAll content front ++ substituteAll content rest := by
  induction front with
  | nil => rw [substituteAll]; rfl
  | cons node front ih => rw [List.cons_append, substituteAll_cons, substituteAll_cons, ih]; rfl

theorem substituteAll_flush (pending : Bytes) :
    substituteAll content (flush pending) = flush pending := by
  unfold flush
  split
  · rw [substituteAll]
  · rw [substituteAll, substituteAll, substitute_leaf (by simp)]

theorem joinFrom_flush (pending text : Bytes) (rest : List Node) :
    joinFrom pending (flush text ++ rest) = joinFrom (pending ++ text) rest := by
  unfold flush
  split
  · rename_i ht
    rw [List.isEmpty_iff.1 ht, List.append_nil]
    rfl
  · rw [List.singleton_append, joinFrom]

theorem substitute_ne_text {node : Node} (h : ∀ data, node ≠ .text data) :
    ∀ data, substitute content node ≠ .text data := by
  cases node with
  | text data => exact absurd rfl (h data)
  | comment | doctype => rw [substitute_leaf (by simp)]; simp
  | element name attrs children =>
    intro data
    rw [substitute]
    split <;> simp

theorem joinFrom_substituteAll (forest : List Node) :
    ∀ pending text, joinFrom pending (substituteAll content (joinFrom text forest)) =
      joinFrom (pending ++ text) (substituteAll content forest) := by
  have cons {node : Node} {rest : List Node} (hne : ∀ data, node ≠ .text data)
      (hnode : (substitute content node.joined).joined = (substitute content node).joined)
      (ih : joinFrom [] (substituteAll content (joinFrom [] rest)) =
        joinFrom [] (substituteAll content rest)) (pending text : Bytes) :
      joinFrom pending (substituteAll content (joinFrom text (node :: rest))) =
        joinFrom (pending ++ text) (substituteAll content (node :: rest)) := by
    rw [joinFrom_cons hne, substituteAll_append, substituteAll_flush, joinFrom_flush,
      substituteAll_cons, substituteAll_cons, joinFrom_cons (substitute_ne_text (joined_ne_text hne)),
      joinFrom_cons (substitute_ne_text hne), hnode, ih]
  induction forest using forestInduction with
  | nil =>
    intro pending text
    rw [joinFrom, substituteAll_flush, substituteAll]
    have h := joinFrom_flush pending text []
    rwa [List.append_nil] at h
  | leaf node rest hleaf ih =>
    intro pending text
    cases node with
    | text data =>
      rw [joinFrom, ih, substituteAll_cons, substitute_leaf (by simp), joinFrom, List.append_assoc]
    | comment data => exact cons (by simp) (by rw [joined_leaf hleaf]) (ih [] []) pending text
    | doctype data => exact cons (by simp) (by rw [joined_leaf hleaf]) (ih [] []) pending text
    | element name attrs children => exact absurd rfl (hleaf name attrs children)
  | element name attrs children rest ihc ih =>
    intro pending text
    refine cons (by simp) ?_ (ih [] []) pending text
    have hchildren := ihc [] []
    rw [List.append_nil] at hchildren
    rw [Node.joined]
    by_cases hname : name = pointTag
    · subst hname
      cases hr : (Attr.find? nameKey attrs).bind content with
      | none => rw [substitute_kept hr, substitute_kept hr, Node.joined, Node.joined, hchildren]
      | some replacement => rw [substitute_replaced hr, substitute_replaced hr]
    · rw [substitute_element hname, substitute_element hname, Node.joined, Node.joined, hchildren]

end Graft.Extend
