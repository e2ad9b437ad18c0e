import Graft.Extend.Transform
import Graft.Proofs.Markup.Joined

/-!
# Graft.Proofs.Extend.Substitution

Splicing as a substitution of trees. The points of a forest are settled one after the other at
their addresses; the outcome is that of one recursion over the forest.

* `substitute`, `substituteAll`: what the points of a node and of a forest become.
* `replacement?`: the content a child has for a point.
* `splice_eq`: splicing is substitution.
* `closePoints_eq`: so is closing the points that are left.
* `find?_overrides`: the overrides of a child are its replacements.
-/

namespace Graft.Extend

open Markup

mutual

/-- A node with its points settled. A point becomes a `template` without its name, with the content
for its name if there is one, and with its own content settled otherwise. -/
def substitute (content : Bytes → Option (List Node)) : Node → Node
  | .element name attrs children =>
    if name = pointTag then
      .element neutralTag (Attr.without nameKey attrs)
        (match (Attr.find? nameKey attrs).bind content with
        | some replacement => replacement
        | none => substituteAll content children)
    else .element name attrs (substituteAll content children)
  | node => node

/-- A forest with its points settled. -/
def substituteAll (content : Bytes → Option (List Node)) : List Node → List Node
  | [] => []
  | node :: rest => substitute content node :: substituteAll content rest

end

section

variable {content : Bytes → Option (List Node)} {name : Bytes} {attrs : List Attr}
  {children : List Node}

theorem substituteAll_cons (node : Node) (rest : List Node) :
    substituteAll content (node :: rest) = substitute content node :: substituteAll content rest := by
  rw [substituteAll]

theorem substitute_leaf {node : Node} (h : ∀ name attrs children, node ≠ .element name attrs children) :
    substitute content node = node := by
  cases node with
  | element name attrs children => exact absurd rfl (h name attrs children)
  | text | comment | doctype => rw [substitute]; simp

theorem substitute_element (h : name ≠ pointTag) :
    substitute content (.element name attrs children) =
      .element name attrs (substituteAll content children) := by
  rw [substitute, if_neg h]

theorem substitute_replaced {replacement : List Node}
    (h : (Attr.find? nameKey attrs).bind content = some replacement) :
    substitute content (.element pointTag attrs children) =
      .element neutralTag (Attr.without nameKey attrs) replacement := by
  rw [substitute, if_pos rfl, h]

theorem substitute_kept (h : (Attr.find? nameKey attrs).bind content = none) :
    substitute content (.element pointTag attrs children) =
      .element neutralTag (Attr.without nameKey attrs) (substituteAll content children) := by
  rw [substitute, if_pos rfl, h]

end

/-! ## Below one element -/

/-- Addresses of earlier siblings. -/
def Before (i : Nat) (addresses : List Address) : Prop :=
  ∀ address ∈ addresses, ∃ h t, address = h :: t ∧ h < i

theorem addressesFrom_ne_nil {name : Bytes} (forest : List Node) :
    ∀ i, ∀ address ∈ addressesFrom name i forest, address ≠ [] := by
  induction forest using forestInduction with
  | nil => intro i address h; rw [addressesFrom] at h; cases h
  | leaf node rest hleaf ih =>
    intro i address h
    rw [addressesFrom, addressesAt_leaf hleaf, List.nil_append] at h
    exact ih _ address h
  | element n attrs children rest _ ih =>
    intro i address h
    rw [addressesFrom, List.mem_append] at h
    rcases h with h | h
    · rw [addressesAt] at h
      rintro rfl
      split at h <;> simp at h
    · exact ih _ address h

section

variable {front rest ufront urest : List Node} {unode : Node} {name : Bytes} {attrs : List Attr}
  {children : List Node} {address : Address}

theorem modify_length (f : Node → Node) (node : Node) :
    (front ++ node :: rest).modify front.length f = front ++ f node :: rest := by
  induction front with
  | nil => rfl
  | cons first front ih => rw [List.cons_append, List.length_cons, List.modify_succ_cons, ih]; rfl

theorem modify_below (f : Node → Node) (h : address ≠ []) :
    modify f (front.length :: address) (front ++ .element name attrs children :: rest) =
      front ++ .element name attrs (modify f address children) :: rest := by
  obtain ⟨j, address, rfl⟩ := List.exists_cons_of_ne_nil h
  rw [Markup.modify, modify_length]
  rfl

theorem modify_at (f : Node → Node) (node : Node) :
    modify f [front.length] (front ++ node :: rest) = front ++ f node :: rest := by
  rw [Markup.modify, modify_length]

theorem get?_below (h : address ≠ []) :
    get? (ufront.length :: address) (ufront ++ unode :: urest) = get? address unode.children := by
  obtain ⟨j, address, rfl⟩ := List.exists_cons_of_ne_nil h
  rw [get?, List.getElem?_append_right (Nat.le_refl _), Nat.sub_self]
  rfl

theorem get?_at : get? [ufront.length] (ufront ++ unode :: urest) = some unode := by
  rw [get?, List.getElem?_append_right (Nat.le_refl _), Nat.sub_self]
  rfl

end

/-! ## Splicing -/

section

variable {unspliced : List Node} {all : List Override} {s s' : Splicing}

theorem settleAll_append (as bs : List Address) :
    s.settleAll unspliced all (as ++ bs) =
      match s.settleAll unspliced all as with
      | .error e => .error e
      | .ok s => s.settleAll unspliced all bs := by
  induction as generalizing s with
  | nil => rfl
  | cons a as ih =>
    rw [List.cons_append, Splicing.settleAll, Splicing.settleAll]
    cases s.settle unspliced all a with
    | error e => rfl
    | ok s => exact ih

theorem settle_cases {address : Address} (h : s.settle unspliced all address = .ok s') :
    ∃ name, (get? address unspliced).bind (Node.attr? nameKey) = some name ∧
      (s.isDetached address = true ∧ s' = s ∨
        s.isDetached address = false ∧
          ((∃ content, Override.find? name all = some content ∧
              s' = ⟨modify (fun point => neutralize (point.withChildren content)) address s.forest,
                address :: s.replaced⟩) ∨
            Override.find? name all = none ∧
              s' = ⟨modify neutralize address s.forest, s.replaced⟩)) := by
  unfold Splicing.settle at h
  split at h
  · cases h
  rename_i name hname
  refine ⟨name, (Option.filter_eq_some_iff.1 hname).1, ?_⟩
  split at h
  · rename_i hd
    cases h
    exact .inl ⟨hd, rfl⟩
  rename_i hd
  refine .inr ⟨by simpa using hd, ?_⟩
  split at h
  · rename_i content hc
    cases h
    exact .inl ⟨content, hc, rfl⟩
  · rename_i hc
    cases h
    exact .inr ⟨hc, rfl⟩

theorem settleAll_detached {addresses : List Address}
    (hd : ∀ address ∈ addresses, s.isDetached address = true)
    (h : s.settleAll unspliced all addresses = .ok s') : s' = s := by
  induction addresses with
  | nil => cases h; rfl
  | cons address addresses ih =>
    rw [List.forall_mem_cons] at hd
    rw [Splicing.settleAll] at h
    split at h
    · cases h
    rename_i s₁ hs
    obtain ⟨_, _, ⟨_, rfl⟩ | ⟨hn, _⟩⟩ := settle_cases hs
    · exact ih hd.2 h
    · rw [hd.1] at hn
      cases hn

end

section

variable {front rest ufront urest : List Node} {unode : Node} {name : Bytes} {attrs : List Attr}
  {children : List Node} {inner outer : List Address} {all : List Override}

theorem isDetached_below (ho : Before front.length outer) (forest forest' : List Node)
    (address : Address) :
    Splicing.isDetached ⟨forest, inner.map (front.length :: ·) ++ outer⟩ (front.length :: address) =
      Splicing.isDetached ⟨forest', inner⟩ address := by
  have houter : (outer.any fun point =>
      point.isPrefixOf (front.length :: address) && point != front.length :: address) = false := by
    rw [List.any_eq_false]
    intro point hp
    obtain ⟨h, t, rfl, hlt⟩ := ho point hp
    have hne : (h == front.length) = false := beq_eq_false_iff_ne.2 (Nat.ne_of_lt hlt)
    simp [List.isPrefixOf, hne]
  simp only [Splicing.isDetached, List.any_append, houter, Bool.or_false, List.any_map]
  congr 1
  funext point
  simp [List.isPrefixOf, bne]

/-- Settling a point below an element is settling it among the children. -/
theorem settle_below (hlen : ufront.length = front.length) (ho : Before front.length outer)
    {address : Address} (ha : address ≠ []) :
    Splicing.settle (ufront ++ unode :: urest) all
        ⟨front ++ .element name attrs children :: rest, inner.map (front.length :: ·) ++ outer⟩
        (front.length :: address) =
      match Splicing.settle unode.children all ⟨children, inner⟩ address with
      | .error e => .error e
      | .ok t =>
        .ok ⟨front ++ .element name attrs t.forest :: rest,
          t.replaced.map (front.length :: ·) ++ outer⟩ := by
  unfold Splicing.settle
  rw [isDetached_below ho _ children, ← hlen, get?_below ha, hlen]
  split
  · rfl
  split
  · rfl
  split
  · simp only [modify_below _ ha, List.map_cons, List.cons_append]
  · simp only [modify_below _ ha]

theorem settleAll_below (hlen : ufront.length = front.length) (ho : Before front.length outer)
    {addresses : List Address} (ha : ∀ address ∈ addresses, address ≠ []) :
    Splicing.settleAll (ufront ++ unode :: urest) all
        ⟨front ++ .element name attrs children :: rest, inner.map (front.length :: ·) ++ outer⟩
        (addresses.map (front.length :: ·)) =
      match Splicing.settleAll unode.children all ⟨children, inner⟩ addresses with
      | .error e => .error e
      | .ok t =>
        .ok ⟨front ++ .element name attrs t.forest :: rest,
          t.replaced.map (front.length :: ·) ++ outer⟩ := by
  induction addresses generalizing children inner with
  | nil => rfl
  | cons address addresses ih =>
    rw [List.forall_mem_cons] at ha
    rw [List.map_cons, Splicing.settleAll, Splicing.settleAll, settle_below hlen ho ha.1]
    cases Splicing.settle unode.children all ⟨children, inner⟩ address with
    | error e => rfl
    | ok t => exact ih ha.2

end

/-- The content that overrides have for a point. -/
abbrev Override.content? (all : List Override) (point : Bytes) : Option (List Node) :=
  Override.find? point all

theorem before_append {i : Nat} {outer : List Address} (inner : List Address) (ho : Before i outer) :
    Before (i + 1) (inner.map (i :: ·) ++ outer) := by
  intro address ha
  rcases List.mem_append.1 ha with ha | ha
  · obtain ⟨address, _, rfl⟩ := List.mem_map.1 ha
    exact ⟨i, address, rfl, Nat.lt_succ_self i⟩
  · obtain ⟨h, t, rfl, hlt⟩ := ho address ha
    exact ⟨h, t, rfl, Nat.lt_succ_of_lt hlt⟩

theorem not_isDetached_at {i : Nat} {forest : List Node} {outer : List Address}
    (ho : Before i outer) : Splicing.isDetached ⟨forest, outer⟩ [i] = false := by
  rw [Splicing.isDetached, List.any_eq_false]
  intro point hp
  obtain ⟨h, t, rfl, hlt⟩ := ho point hp
  have hne : (h == i) = false := beq_eq_false_iff_ne.2 (Nat.ne_of_lt hlt)
  simp [List.isPrefixOf, hne]

section

variable {front rest ufront : List Node} {attrs : List Attr} {children : List Node}
  {outer : List Address} {all : List Override} {s : Splicing}

/-- What the children become when their points are settled. -/
def SettlesTo (all : List Override) (children : List Node) : Prop :=
  ∀ t, Splicing.settleAll children all ⟨children, []⟩ (addressesFrom pointTag 0 children) = .ok t →
    t.forest = substituteAll (Override.content? all) children

theorem settleAll_children {name name' : Bytes} {attrs' : List Attr}
    (hlen : ufront.length = front.length) (ho : Before front.length outer)
    (hc : SettlesTo all children)
    (h : Splicing.settleAll (ufront ++ .element name attrs children :: rest) all
      ⟨front ++ .element name' attrs' children :: rest, outer⟩
      ((addressesFrom pointTag 0 children).map (front.length :: ·)) = .ok s) :
    s.forest = front ++
        .element name' attrs' (substituteAll (Override.content? all) children) :: rest ∧
      Before (front.length + 1) s.replaced := by
  rw [show outer = ([] : List Address).map (front.length :: ·) ++ outer from rfl,
    settleAll_below hlen ho (addressesFrom_ne_nil children 0)] at h
  split at h
  · cases h
  · rename_i t ht
    cases h
    exact ⟨by rw [hc t ht], before_append _ ho⟩

/-- The points of one element, the first of which may be the element itself. -/
theorem settleAll_element {name : Bytes} (hlen : ufront.length = front.length)
    (ho : Before front.length outer) (hc : SettlesTo all children)
    (h : Splicing.settleAll (ufront ++ .element name attrs children :: rest) all
      ⟨front ++ .element name attrs children :: rest, outer⟩
      (addressesAt pointTag front.length (.element name attrs children)) = .ok s) :
    s.forest = front ++
        substitute (Override.content? all) (.element name attrs children) :: rest ∧
      Before (front.length + 1) s.replaced := by
  rw [addressesAt] at h
  split at h
  · rename_i hname
    subst hname
    rw [Splicing.settleAll] at h
    split at h
    · cases h
    rename_i s₁ hs
    obtain ⟨point, hpoint, ⟨hd, _⟩ | ⟨_, ⟨content, hcontent, rfl⟩ | ⟨hcontent, rfl⟩⟩⟩ :=
      settle_cases hs
    · rw [not_isDetached_at ho] at hd
      cases hd
    all_goals
      rw [← hlen, get?_at] at hpoint
      have hbind : (Attr.find? nameKey attrs).bind (Override.content? all) =
          Override.find? point all := by
        rw [show Attr.find? nameKey attrs = some point from hpoint]
        rfl
    · -- the points below the replaced one are gone
      have hdetached : ∀ address ∈ (addressesFrom pointTag 0 children).map (front.length :: ·),
          Splicing.isDetached ⟨modify (fun point => neutralize (point.withChildren content))
            [front.length] (front ++ .element pointTag attrs children :: rest),
            [front.length] :: outer⟩ address = true := by
        intro address ha
        obtain ⟨address, hmem, rfl⟩ := List.mem_map.1 ha
        have hne := addressesFrom_ne_nil children 0 address hmem
        simp [Splicing.isDetached, List.isPrefixOf, bne, hne]
      rw [settleAll_detached hdetached h, substitute_replaced (hbind.trans hcontent)]
      refine ⟨modify_at _ _, ?_⟩
      exact before_append [[]] ho
    · rw [substitute_kept (hbind.trans hcontent)]
      dsimp only at h
      rw [modify_at] at h
      exact settleAll_children hlen ho hc h
  · rename_i hname
    rw [substitute_element hname]
    exact settleAll_children hlen ho hc h

end

/-- What siblings behind others become when their points are settled. -/
def SettlesBehind (all : List Override) (siblings : List Node) : Prop :=
  ∀ {front ufront : List Node} {outer : List Address} {s : Splicing},
    ufront.length = front.length → Before front.length outer →
    Splicing.settleAll (ufront ++ siblings) all ⟨front ++ siblings, outer⟩
      (addressesFrom pointTag front.length siblings) = .ok s →
    s.forest = front ++ substituteAll (Override.content? all) siblings

theorem SettlesBehind.next {all : List Override} {rest front ufront : List Node} {node node' : Node}
    {outer : List Address} {s : Splicing} (h : SettlesBehind all rest)
    (hlen : ufront.length = front.length) (ho : Before (front.length + 1) outer)
    (hs : Splicing.settleAll (ufront ++ node :: rest) all ⟨front ++ node' :: rest, outer⟩
      (addressesFrom pointTag (front.length + 1) rest) = .ok s) :
    s.forest = front ++ node' :: substituteAll (Override.content? all) rest := by
  have hlast {l : List Node} {a : Node} : (l ++ [a]).length = l.length + 1 := List.length_append
  rw [List.append_cons ufront, List.append_cons front, ← hlast (a := node')] at hs
  rw [h (by rw [hlast, hlast, hlen]) (by rwa [hlast]) hs, List.append_assoc]
  rfl

theorem settlesBehind (all : List Override) (siblings : List Node) : SettlesBehind all siblings := by
  induction siblings using forestInduction with
  | nil =>
    intro front ufront outer s _ _ h
    rw [addressesFrom] at h
    cases h
    rw [substituteAll]
  | leaf node rest hleaf ih =>
    intro front ufront outer s hlen ho h
    rw [addressesFrom, addressesAt_leaf hleaf, List.nil_append] at h
    rw [substituteAll_cons, substitute_leaf hleaf]
    exact ih.next hlen (before_append [] ho) h
  | element name attrs children rest ihc ih =>
    intro front ufront outer s hlen ho h
    have hc : SettlesTo all children := fun t ht =>
      @ihc [] [] [] t rfl (by simp [Before]) ht
    rw [addressesFrom, settleAll_append] at h
    split at h
    · cases h
    rename_i s₁ hs
    obtain ⟨hforest, hbefore⟩ := settleAll_element hlen ho hc hs
    obtain ⟨forest, replaced⟩ := s₁
    dsimp only at hforest
    subst hforest
    rw [substituteAll_cons]
    exact ih.next hlen hbefore h

theorem splice_eq {all : List Override} {forest spliced : List Node}
    (h : splice all forest = .ok spliced) :
    spliced = substituteAll (Override.content? all) forest := by
  unfold splice at h
  split at h
  · rename_i s hs
    cases h
    exact @settlesBehind all forest [] [] [] s rfl (by simp [Before]) hs
  · cases h

/-! ## Closing -/

theorem foldl_below {front rest : List Node} {name : Bytes} {attrs : List Attr}
    {addresses : List Address} (ha : ∀ address ∈ addresses, address ≠ []) (children : List Node) :
    (addresses.map (front.length :: ·)).foldl (fun current address => modify neutralize address current)
        (front ++ .element name attrs children :: rest) =
      front ++ .element name attrs
        (addresses.foldl (fun current address => modify neutralize address current) children) ::
          rest := by
  induction addresses generalizing children with
  | nil => rfl
  | cons address addresses ih =>
    rw [List.forall_mem_cons] at ha
    rw [List.map_cons, List.foldl_cons, List.foldl_cons, modify_below _ ha.1]
    exact ih ha.2 _

theorem foldl_siblings (siblings : List Node) :
    ∀ front : List Node, (addressesFrom pointTag front.length siblings).foldl
        (fun current address => modify neutralize address current) (front ++ siblings) =
      front ++ substituteAll (fun _ => none) siblings := by
  have next {rest : List Node}
      (ih : ∀ front : List Node, (addressesFrom pointTag front.length rest).foldl
          (fun current address => modify neutralize address current) (front ++ rest) =
        front ++ substituteAll (fun _ => none) rest) (front : List Node) (node : Node) :
      (addressesFrom pointTag (front.length + 1) rest).foldl
          (fun current address => modify neutralize address current) (front ++ node :: rest) =
        front ++ node :: substituteAll (fun _ => none) rest := by
    have h := ih (front ++ [node])
    simpa using h
  induction siblings using forestInduction with
  | nil =>
    intro front
    rw [addressesFrom, substituteAll]
    rfl
  | leaf node rest hleaf ih =>
    intro front
    rw [addressesFrom, addressesAt_leaf hleaf, List.nil_append, next ih, substituteAll_cons,
      substitute_leaf hleaf]
  | element name attrs children rest ihc ih =>
    intro front
    have hne : ∀ address ∈ addressesFrom pointTag 0 children, address ≠ [] :=
      addressesFrom_ne_nil children 0
    have hchildren := ihc []
    rw [List.nil_append, List.nil_append, List.length_nil] at hchildren
    rw [addressesFrom, List.foldl_append, addressesAt, substituteAll_cons]
    split
    · rename_i hname
      subst hname
      rw [List.foldl_cons, modify_at,
        substitute_kept (by cases Attr.find? nameKey attrs <;> rfl)]
      rw [show neutralize (.element pointTag attrs children) =
        .element neutralTag (Attr.without nameKey attrs) children from rfl, foldl_below hne,
      hchildren, next ih]
    · rename_i hname
      rw [foldl_below hne, hchildren, next ih, substitute_element hname]

/-- Closing the points is substitution without replacements. -/
theorem closePoints_eq (forest : List Node) :
    closePoints forest = substituteAll (fun _ => none) forest := foldl_siblings forest []

/-! ## Overrides -/

/-- Whether a node is an override of a point. -/
def isOverrideOf (point : Bytes) (node : Node) : Bool :=
  node.isElement overrideTag && node.attr? pointKey == some point

/-- The content a child has for a point: that of the first override of the point in its first
container. -/
def replacement? (forest : List Node) (point : Bytes) : Option (List Node) :=
  match topLevel (.named containerTag) forest with
  | [] => none
  | container :: _ => (container.children.find? (isOverrideOf point)).map Node.children

theorem find?_concat (point : Bytes) (found : List Override) (o : Override) :
    Override.find? point (found ++ [o]) =
      (Override.find? point found).or (if o.point = point then some o.content else none) := by
  simp only [Override.find?, List.find?_append, List.find?_singleton, beq_iff_eq]
  cases found.find? (fun o => o.point == point) with
  | some found => rfl
  | none => simp only [Option.none_or]; split <;> rfl

theorem find?_collect {found all : List Override} {nodes : List Node}
    (h : collect found nodes = .ok all) (point : Bytes) :
    Override.find? point all =
      (Override.find? point found).or ((nodes.find? (isOverrideOf point)).map Node.children) := by
  induction nodes generalizing found with
  | nil =>
    cases h
    simp
  | cons node nodes ih =>
    rw [collect] at h
    split at h
    · rename_i helement
      split at h
      · cases h
      rename_i name hname
      have hname := (Option.filter_eq_some_iff.1 hname).1
      have his : isOverrideOf point node = (name == point) := by
        simp [isOverrideOf, helement, hname]
      split at h
      · rename_i hany
        rw [ih h, List.find?_cons, his]
        by_cases hp : name = point
        · obtain ⟨o, ho, hpoint⟩ := List.any_eq_true.1 hany
          obtain ⟨content, hcontent⟩ : ∃ content, Override.find? point found = some content := by
            cases hf : found.find? (fun o => o.point == point) with
            | some o => exact ⟨o.content, by rw [Override.find?, hf]; rfl⟩
            | none =>
              have := List.find?_eq_none.1 hf o ho
              rw [hp] at hpoint
              exact absurd hpoint this
          rw [hcontent, Option.some_or, Option.some_or]
        · rw [beq_eq_false_iff_ne.2 hp]
      · rw [ih h, find?_concat, List.find?_cons, his, Option.or_assoc]
        by_cases hp : name = point
        · simp [hp]
        · simp [hp, beq_eq_false_iff_ne.2 hp]
    · rename_i helement
      have his : isOverrideOf point node = false := by simp [isOverrideOf, helement]
      rw [ih h, List.find?_cons, his]

theorem find?_overrides {forest : List Node} {all : List Override} (h : overrides forest = .ok all) :
    Override.content? all = replacement? forest := by
  funext point
  unfold overrides at h
  unfold replacement?
  cases hcontainer : topLevel (.named containerTag) forest with
  | nil =>
    rw [hcontainer] at h
    cases h
    rfl
  | cons container more =>
    rw [hcontainer] at h
    rw [Override.content?, find?_collect h]
    rfl

end Graft.Extend
