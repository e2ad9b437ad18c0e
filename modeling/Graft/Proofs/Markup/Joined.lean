import Graft.Markup.Edit
import Graft.Proofs.Markup.Written

/-!
# Graft.Proofs.Markup.Joined

How texts are split between neighbouring nodes makes no difference to what is written.

* `forestInduction`: induction over a forest and the children of its elements.
* `Filled`: nodes without empty texts.
* `renderChildren_joinFrom`, `render_joinFrom`: a forest with its texts joined is written alike.
* `Writable`, `exists_render`: a forest can be written if no void element in it has children.
-/

namespace Graft.Markup

/-- Over a forest: its first node has children of its own or none. -/
@[elab_as_elim]
theorem forestInduction {motive : List Node → Prop} (nil : motive [])
    (leaf : ∀ node rest, (∀ name attrs children, node ≠ .element name attrs children) →
      motive rest → motive (node :: rest))
    (element : ∀ name attrs children rest, motive children → motive rest →
      motive (.element name attrs children :: rest)) (forest : List Node) : motive forest :=
  Node.rec_1 (motive_1 := fun node => motive node.children) (motive_2 := motive)
    (fun _ => nil) (fun _ => nil) (fun _ => nil) (fun _ _ _ h => h) nil
    (fun node rest hnode hrest => by
      cases node with
      | element name attrs children => exact element name attrs children rest hnode hrest
      | text | comment | doctype => exact leaf _ rest (by simp) hrest) forest

theorem joined_leaf {node : Node} (h : ∀ name attrs children, node ≠ .element name attrs children) :
    node.joined = node := by
  cases node with
  | element name attrs children => exact absurd rfl (h name attrs children)
  | text | comment | doctype => rw [Node.joined]; simp

theorem addressesAt_leaf {node : Node} {name : Bytes} {i : Nat}
    (h : ∀ name attrs children, node ≠ .element name attrs children) :
    addressesAt name i node = [] := by
  cases node with
  | element name attrs children => exact absurd rfl (h name attrs children)
  | text | comment | doctype => rw [addressesAt]; simp

/-- Nodes without empty texts. -/
inductive Filled : Node → Prop where
  | text {data : Bytes} (h : data ≠ []) : Filled (.text data)
  | comment {data : Bytes} : Filled (.comment data)
  | doctype {data : Bytes} : Filled (.doctype data)
  | element {name : Bytes} {attrs : List Attr} {children : List Node}
      (all : ∀ child ∈ children, Filled child) : Filled (.element name attrs children)

theorem filled_of_sound {named : Bytes → Prop} {held : RawElement → Bytes → Prop} {node : Node}
    (h : Shaped named held node) : Filled node := by
  induction h with
  | text h => exact .text h
  | comment => exact .comment
  | doctype => exact .doctype
  | element _ _ _ _ _ ih => exact .element ih

theorem filled_flush (pending : Bytes) : ∀ node ∈ flush pending, Filled node := by
  intro node hn
  unfold flush at hn
  split at hn
  · cases hn
  · rename_i hp
    rw [List.mem_singleton.1 hn]
    exact .text (by simpa using hp)

theorem filled_joinFrom (forest : List Node) :
    ∀ pending, ∀ node ∈ joinFrom pending forest, Filled node := by
  have cons {node : Node} {rest : List Node} (hne : ∀ data, node ≠ .text data)
      (hnode : Filled node.joined) (ih : ∀ pending, ∀ n ∈ joinFrom pending rest, Filled n)
      (pending : Bytes) : ∀ n ∈ joinFrom pending (node :: rest), Filled n := by
    rw [joinFrom_cons hne]
    intro n hn
    rcases List.mem_append.1 hn with hn | hn
    · exact filled_flush pending n hn
    · rcases List.mem_cons.1 hn with rfl | hn
      · exact hnode
      · exact ih [] n hn
  induction forest using forestInduction with
  | nil => exact filled_flush
  | leaf node rest hleaf ih =>
    cases node with
    | text data => exact fun pending => ih (pending ++ data)
    | comment data => exact cons (by simp) .comment ih
    | doctype data => exact cons (by simp) .doctype ih
    | element name attrs children => exact absurd rfl (hleaf name attrs children)
  | element name attrs children rest ihc ih => exact cons (by simp) (.element (ihc [])) ih

/-! ## Writing -/

/-- Text as it is written among the children of an element. -/
def writtenText (literal : Bool) (data : Bytes) : Bytes := if literal then data else escape data

theorem writtenText_nil (literal : Bool) : writtenText literal [] = [] := by cases literal <;> rfl

theorem writtenText_append (literal : Bool) (s t : Bytes) :
    writtenText literal (s ++ t) = writtenText literal s ++ writtenText literal t := by
  cases literal with
  | false => exact escape_append s t
  | true => rfl

/-- Something written behind a text. -/
def behind (text : Bytes) (written : Except RenderError Rendered) : Except RenderError Rendered :=
  match written with
  | .error e => .error e
  | .ok more => .ok ⟨text ++ more.text, more.stopped⟩

theorem behind_nil (written : Except RenderError Rendered) : behind [] written = written := by
  cases written <;> rfl

theorem behind_behind (s t : Bytes) (written : Except RenderError Rendered) :
    behind s (behind t written) = behind (s ++ t) written := by
  cases written with
  | error e => rfl
  | ok more => simp [behind]

theorem renderChildren_text_cons (literal : Bool) (data : Bytes) (rest : List Node) :
    renderChildren literal (.text data :: rest) =
      behind (writtenText literal data) (renderChildren literal rest) := by
  cases literal <;> rfl

theorem renderChildren_node {node : Node} (hne : ∀ data, node ≠ .text data) (literal : Bool)
    (rest : List Node) :
    renderChildren literal (node :: rest) =
      match node.render with
      | .error e => .error e
      | .ok first =>
        if first.stopped then .ok first
        else
          match renderChildren literal rest with
          | .error e => .error e
          | .ok more => .ok ⟨first.text ++ more.text, more.stopped⟩ := by
  cases literal with
  | false => rfl
  | true =>
    cases node with
    | text data => exact absurd rfl (hne data)
    | comment | doctype | element => rfl

theorem renderChildren_node_cons {node node' : Node} {literal : Bool} {rest rest' : List Node}
    (hne : ∀ data, node ≠ .text data) (hne' : ∀ data, node' ≠ .text data)
    (h : node'.render = node.render)
    (hrest : renderChildren literal rest' = renderChildren literal rest) :
    renderChildren literal (node' :: rest') = renderChildren literal (node :: rest) := by
  rw [renderChildren_node hne, renderChildren_node hne', h, hrest]

theorem renderChildren_flush (literal : Bool) (pending : Bytes) (rest : List Node) :
    renderChildren literal (flush pending ++ rest) =
      behind (writtenText literal pending) (renderChildren literal rest) := by
  unfold flush
  split
  · rename_i hp
    rw [List.isEmpty_iff.1 hp, writtenText_nil, behind_nil]
    rfl
  · exact renderChildren_text_cons literal pending rest

theorem exists_joinFrom {pending : Bytes} (hp : pending ≠ []) (forest : List Node) :
    ∃ more rest, joinFrom pending forest = .text (pending ++ more) :: rest := by
  have hflush {pending : Bytes} (hp : pending ≠ []) : flush pending = [.text pending] := by
    rw [flush, if_neg (by simpa using hp)]
  induction forest generalizing pending with
  | nil =>
    rw [joinFrom, hflush hp]
    exact ⟨[], [], by rw [List.append_nil]⟩
  | cons node forest ih =>
    cases node with
    | text data =>
      rw [joinFrom]
      have hne : pending ++ data ≠ [] := fun hnil => hp (List.append_eq_nil_iff.1 hnil).1
      obtain ⟨more, rest, h⟩ := ih hne
      exact ⟨data ++ more, rest, by rw [h, List.append_assoc]⟩
    | comment | doctype | element =>
      rw [joinFrom_cons (by simp), hflush hp]
      exact ⟨[], _, by rw [List.append_nil]; rfl⟩

theorem isEmpty_joinFrom {forest : List Node} (h : ∀ node ∈ forest, Filled node) :
    (joinFrom [] forest).isEmpty = forest.isEmpty := by
  cases forest with
  | nil => rfl
  | cons node rest =>
    cases h node (List.mem_cons_self ..) with
    | @text data hd =>
      obtain ⟨more, rest', hjoin⟩ := exists_joinFrom hd rest
      rw [joinFrom, List.nil_append, hjoin]
      rfl
    | comment | doctype | element => rw [joinFrom_cons (by simp)]; rfl

theorem startsWithLineFeed_joinFrom {forest : List Node} (h : ∀ node ∈ forest, Filled node) :
    startsWithLineFeed (joinFrom [] forest) = startsWithLineFeed forest := by
  cases forest with
  | nil => rfl
  | cons node rest =>
    cases h node (List.mem_cons_self ..) with
    | @text data hd =>
      obtain ⟨more, rest', hjoin⟩ := exists_joinFrom hd rest
      obtain ⟨c, data, rfl⟩ := List.exists_cons_of_ne_nil hd
      rw [joinFrom, List.nil_append, hjoin]
      rfl
    | comment | doctype | element => rw [joinFrom_cons (by simp)]; rfl

theorem render_element_congr {name : Bytes} {attrs : List Attr} {children children' : List Node}
    (hempty : children'.isEmpty = children.isEmpty)
    (hfeed : startsWithLineFeed children' = startsWithLineFeed children)
    (h : ∀ literal, renderChildren literal children' = renderChildren literal children) :
    (Node.element name attrs children').render = (Node.element name attrs children).render := by
  rw [Node.render, Node.render, hempty, hfeed, h]

theorem joined_ne_text {node : Node} (h : ∀ data, node ≠ .text data) :
    ∀ data, node.joined ≠ .text data := by
  cases node with
  | text data => exact absurd rfl (h data)
  | comment | doctype | element => simp [Node.joined]

theorem renderChildren_joinFrom (forest : List Node) :
    (∀ node ∈ forest, Filled node) → ∀ literal pending,
      renderChildren literal (joinFrom pending forest) =
        behind (writtenText literal pending) (renderChildren literal forest) := by
  have cons {node : Node} {rest : List Node} (hne : ∀ data, node ≠ .text data)
      (hnode : node.joined.render = node.render) (literal : Bool) (pending : Bytes)
      (ih : renderChildren literal (joinFrom [] rest) =
        behind (writtenText literal []) (renderChildren literal rest)) :
      renderChildren literal (joinFrom pending (node :: rest)) =
        behind (writtenText literal pending) (renderChildren literal (node :: rest)) := by
    rw [writtenText_nil, behind_nil] at ih
    rw [joinFrom_cons hne, renderChildren_flush,
      renderChildren_node_cons hne (joined_ne_text hne) hnode ih]
  induction forest using forestInduction with
  | nil =>
    intro _ literal pending
    have h := renderChildren_flush literal pending []
    rwa [List.append_nil] at h
  | leaf node rest hleaf ih =>
    intro h literal pending
    rw [List.forall_mem_cons] at h
    cases node with
    | text data =>
      rw [joinFrom, ih h.2, renderChildren_text_cons, behind_behind, writtenText_append]
    | comment data =>
      exact cons (by simp) (by rw [joined_leaf hleaf]) literal pending (ih h.2 literal [])
    | doctype data =>
      exact cons (by simp) (by rw [joined_leaf hleaf]) literal pending (ih h.2 literal [])
    | element name attrs children => exact absurd rfl (hleaf name attrs children)
  | element name attrs children rest ihc ih =>
    intro h literal pending
    rw [List.forall_mem_cons] at h
    refine cons (by simp) ?_ literal pending (ih h.2 literal [])
    cases h.1 with
    | element hall =>
      rw [Node.joined]
      refine render_element_congr (isEmpty_joinFrom hall) (startsWithLineFeed_joinFrom hall) ?_
      intro literal
      rw [ihc hall, writtenText_nil, behind_nil]

theorem render_joined {node : Node} (h : Filled node) : node.joined.render = node.render := by
  cases h with
  | text | comment | doctype => rw [joined_leaf (by simp)]
  | element hall =>
    rw [Node.joined]
    refine render_element_congr (isEmpty_joinFrom hall) (startsWithLineFeed_joinFrom hall) ?_
    intro literal
    rw [renderChildren_joinFrom _ hall, writtenText_nil, behind_nil]

theorem render_cons (node : Node) (rest : List Node) :
    render (node :: rest) =
      match node.render with
      | .error e => .error e
      | .ok first =>
        match render rest with
        | .error e => .error e
        | .ok more => .ok (first.text ++ more) := rfl

theorem render_flush (pending : Bytes) (rest : List Node) :
    render (flush pending ++ rest) = (render rest).map (escape pending ++ ·) := by
  unfold flush
  split
  · rename_i hp
    rw [List.isEmpty_iff.1 hp]
    cases hr : render rest <;> simp [hr, escape, Except.map]
  · rw [List.singleton_append, render_cons, render_text]
    cases render rest <;> rfl

theorem render_joinFrom_pending {forest : List Node} (h : ∀ node ∈ forest, Filled node)
    (pending : Bytes) :
    render (joinFrom pending forest) = (render forest).map (escape pending ++ ·) := by
  induction forest generalizing pending with
  | nil =>
    have hflush := render_flush pending []
    rwa [List.append_nil] at hflush
  | cons node rest ih =>
    rw [List.forall_mem_cons] at h
    have hjoined := render_joined h.1
    cases node with
    | text data =>
      rw [joinFrom, ih h.2, render_cons, render_text, escape_append]
      cases render rest <;> simp [Except.map]
    | comment | doctype | element =>
      rw [joinFrom_cons (by simp), render_flush, render_cons, render_cons, hjoined, ih h.2]
      cases render rest <;> simp [Except.map, escape]

theorem render_joinFrom {forest : List Node} (h : ∀ node ∈ forest, Filled node) :
    render (joinFrom [] forest) = render forest := by
  rw [render_joinFrom_pending h]
  cases render forest <;> simp [Except.map, escape]

/-! ## Forests that can be written -/

theorem exists_renderChildren {nodes : List Node} (h : ∀ node ∈ nodes, ∃ r, node.render = .ok r)
    (literal : Bool) : ∃ r, renderChildren literal nodes = .ok r := by
  induction nodes with
  | nil => exact ⟨_, rfl⟩
  | cons node nodes ih =>
    rw [List.forall_mem_cons] at h
    obtain ⟨more, hmore⟩ := ih h.2
    cases node with
    | text data =>
      rw [renderChildren_text_cons, hmore]
      exact ⟨_, rfl⟩
    | comment | doctype | element =>
      obtain ⟨first, hfirst⟩ := h.1
      rw [renderChildren_node (by simp), hfirst, hmore]
      dsimp only
      split <;> exact ⟨_, rfl⟩

/-- Nodes in which no void element has children. -/
inductive Writable : Node → Prop where
  | text {data : Bytes} : Writable (.text data)
  | comment {data : Bytes} : Writable (.comment data)
  | doctype {data : Bytes} : Writable (.doctype data)
  | element {name : Bytes} {attrs : List Attr} {children : List Node}
      (void : isVoid name = true → children = []) (all : ∀ child ∈ children, Writable child) :
      Writable (.element name attrs children)

theorem Writable.children {name : Bytes} {attrs : List Attr} {children : List Node}
    (h : Writable (.element name attrs children)) : ∀ child ∈ children, Writable child := by
  cases h with
  | element _ all => exact all

theorem writable_of_shaped {named : Bytes → Prop} {held : RawElement → Bytes → Prop} {node : Node}
    (h : Shaped named held node) : Writable node := by
  induction h with
  | text => exact .text
  | comment => exact .comment
  | doctype => exact .doctype
  | element _ _ void _ _ ih => exact .element void ih

theorem exists_render_of_writable {node : Node} (h : Writable node) : ∃ r, node.render = .ok r := by
  induction h with
  | text | comment | doctype => exact ⟨_, rfl⟩
  | @element name attrs children void _ ih =>
    obtain ⟨inner, hinner⟩ := exists_renderChildren ih (isLiteral name)
    rw [Node.render]
    dsimp only
    split
    · rename_i hv
      rw [void hv]
      exact ⟨_, rfl⟩
    · rw [hinner]
      dsimp only
      split <;> exact ⟨_, rfl⟩

theorem exists_render {nodes : List Node} (h : ∀ node ∈ nodes, Writable node) :
    ∃ text, render nodes = .ok text := by
  induction nodes with
  | nil => exact ⟨_, rfl⟩
  | cons node nodes ih =>
    rw [List.forall_mem_cons] at h
    obtain ⟨first, hfirst⟩ := exists_render_of_writable h.1
    obtain ⟨more, hmore⟩ := ih h.2
    rw [render_cons, hfirst, hmore]
    exact ⟨_, rfl⟩

end Graft.Markup
