import Graft.Proofs.Markup.Joined

/-!
# Graft.Proofs.Markup.DocumentOrder

The forest of a source, node by node. In document order its nodes are the tokens of the source but for
the end tags, and each node stands below the innermost element that is open at its token.

* `Entry`, `entries`: the nodes of a forest in document order, with the positions of their parents.
* `label?`: what a token says as a node.
* `openBehind`: the elements that are open behind tokens.
* `Builder.listing`, `Builder.spots`: the same for a forest under construction.
* `listing_take`, `listing_foldl_take`: one token, and a whole run.
* `FollowsTokens`: nodes in document order that follow tokens.
* `entries_injective`: a forest is known by its nodes in document order.
* `parse_iff_followsTokens`: the forest of a source.
-/

namespace Graft.Markup

/-! ## Document order -/

/-- What a node says, apart from its children. -/
inductive Label where
  | text (data : Bytes)
  | comment (data : Bytes)
  | doctype (data : Bytes)
  | element (name : Bytes) (attrs : List Attr)
deriving DecidableEq

/-- A node in document order. A node of the outermost level has no parent. -/
structure Entry where
  label : Label
  /-- The position of the parent in document order. -/
  parent : Option Nat
deriving DecidableEq

mutual

/-- A node at position `i` and the nodes below it. -/
def entriesAt (parent : Option Nat) (i : Nat) : Node → List Entry
  | .text data => [⟨.text data, parent⟩]
  | .comment data => [⟨.comment data, parent⟩]
  | .doctype data => [⟨.doctype data, parent⟩]
  | .element name attrs children =>
    ⟨.element name attrs, parent⟩ :: entriesFrom (some i) (i + 1) children

/-- The same for siblings, the first of which stands at position `i`. -/
def entriesFrom (parent : Option Nat) (i : Nat) : List Node → List Entry
  | [] => []
  | node :: rest =>
    entriesAt parent i node ++ entriesFrom parent (i + (entriesAt parent i node).length) rest

end

/-- The nodes of a forest in document order. -/
def entries (forest : List Node) : List Entry := entriesFrom none 0 forest

theorem entriesFrom_concat (parent : Option Nat) (i : Nat) (forest : List Node) (node : Node) :
    entriesFrom parent i (forest ++ [node]) =
      entriesFrom parent i forest ++
        entriesAt parent (i + (entriesFrom parent i forest).length) node := by
  induction forest generalizing i with
  | nil => simp [entriesFrom]
  | cons first rest ih =>
    rw [List.cons_append, entriesFrom, ih, entriesFrom, List.append_assoc, List.length_append,
      Nat.add_assoc]

/-! ## Tokens as nodes -/

/-- What a token says as a node. Names and keys are those of the slice; an end tag is no node. -/
def label? (t : Token) : Option Label :=
  match t.kind with
  | .text data => some (.text data)
  | .comment data => some (.comment data)
  | .doctype data => some (.doctype data)
  | .endTag _ => none
  | _ =>
    (readTag? (t.raw.drop 1)).map fun (name, attrs, _) =>
      .element name (attrs.map fun a => ⟨a.1, decodeValue a.2⟩)

/-- How many nodes tokens are. -/
def nodeCount (ts : List Token) : Nat := (ts.filterMap label?).length

/-- An element that is open: the position of its node, and its name. -/
structure OpenElement where
  node : Nat
  name : Bytes
deriving DecidableEq

/-- A start tag that opens an element; a void element is never open. -/
def opens? (t : Token) : Option Bytes :=
  match t.kind, label? t with
  | .startTag _ _, some (.element name _) => if isVoid name then none else some name
  | _, _ => none

/-- What an end tag leaves open: the innermost element of its name is closed with all that was opened
inside it. Without such an element nothing is closed. -/
def closeInnermost (name : Bytes) (opened : List OpenElement) : List OpenElement :=
  if opened.any fun e => Fold.alike e.name name then
    (opened.dropWhile fun e => !Fold.alike e.name name).tail
  else opened

/-- The elements open behind a token, innermost first, if `n` nodes stand before it. -/
def openAfter (n : Nat) (opened : List OpenElement) (t : Token) : List OpenElement :=
  match t.kind with
  | .endTag name => closeInnermost name opened
  | _ => (opens? t).toList.map (⟨n, ·⟩) ++ opened

/-- The elements open behind tokens that `n` nodes stand before. -/
def openFrom : Nat → List OpenElement → List Token → List OpenElement
  | _, opened, [] => opened
  | n, opened, t :: ts => openFrom (n + nodeCount [t]) (openAfter n opened t) ts

/-- The elements open behind the first tokens of a source, innermost first. -/
def openBehind (ts : List Token) : List OpenElement := openFrom 0 [] ts

/-- The innermost of the open elements, by the position of its node. -/
def innermost (opened : List OpenElement) : Option Nat := opened.head?.map OpenElement.node

/-- Tokens as nodes in document order, each below the innermost element open at its place. -/
def entriesOf : Nat → List OpenElement → List Token → List Entry
  | _, _, [] => []
  | n, opened, t :: ts =>
    (label? t).toList.map (⟨·, innermost opened⟩) ++
      entriesOf (n + nodeCount [t]) (openAfter n opened t) ts

/-! ## The builder -/

namespace Builder

mutual

/-- The nodes of a forest under construction, in document order. -/
def listing (done : List Node) : List Frame → List Entry
  | [] => entries done.reverse
  | frame :: outer =>
    listing done outer ++
      ⟨.element frame.name frame.attrs, innermost (spots done outer)⟩ ::
        entriesFrom (some (listing done outer).length) ((listing done outer).length + 1)
          frame.children.reverse

/-- The elements still open, with the positions of their nodes. -/
def spots (done : List Node) : List Frame → List OpenElement
  | [] => []
  | frame :: outer => ⟨(listing done outer).length, frame.name⟩ :: spots done outer

end

variable {b : Builder}

theorem listing_append (b : Builder) (node : Node) :
    listing (b.append node).done (b.append node).frames =
      listing b.done b.frames ++
        entriesAt (innermost (spots b.done b.frames)) (listing b.done b.frames).length node := by
  obtain ⟨done, frames⟩ := b
  cases frames with
  | nil =>
    simp only [append, listing, spots, entries, List.reverse_cons, entriesFrom_concat, Nat.zero_add]
    rfl
  | cons frame outer =>
    rw [append]
    dsimp only
    rw [listing, List.reverse_cons, entriesFrom_concat, listing, spots, List.append_assoc,
      List.cons_append, List.length_append, List.length_cons, Nat.add_right_comm _ 1]
    rfl

theorem spots_append (b : Builder) (node : Node) :
    spots (b.append node).done (b.append node).frames = spots b.done b.frames := by
  obtain ⟨done, frames⟩ := b
  cases frames <;> simp only [append, spots]

theorem listing_enter (b : Builder) (name : Bytes) (attrs : List Attr) :
    listing (b.enter name attrs).done (b.enter name attrs).frames =
      listing b.done b.frames ++ [⟨.element name attrs, innermost (spots b.done b.frames)⟩] := by
  simp only [enter, listing, List.reverse_nil, entriesFrom]

theorem spots_enter (b : Builder) (name : Bytes) (attrs : List Attr) :
    spots (b.enter name attrs).done (b.enter name attrs).frames =
      ⟨(listing b.done b.frames).length, name⟩ :: spots b.done b.frames := by
  simp only [enter, spots]

theorem listing_leave (b : Builder) :
    listing b.leave.done b.leave.frames = listing b.done b.frames := by
  obtain ⟨done, frames⟩ := b
  cases frames with
  | nil => rfl
  | cons frame outer => simp only [leave, listing_append, entriesAt, listing]

theorem spots_leave (b : Builder) :
    spots b.leave.done b.leave.frames = (spots b.done b.frames).tail := by
  obtain ⟨done, frames⟩ := b
  cases frames with
  | nil => rfl
  | cons frame outer => simp only [leave, spots_append, spots, List.tail_cons]

theorem listing_leaveMany (n : Nat) (b : Builder) :
    listing (b.leaveMany n).done (b.leaveMany n).frames = listing b.done b.frames := by
  induction n generalizing b with
  | zero => rfl
  | succ n ih => rw [leaveMany, ih, listing_leave]

theorem spots_leaveMany (n : Nat) (b : Builder) :
    spots (b.leaveMany n).done (b.leaveMany n).frames = (spots b.done b.frames).drop n := by
  induction n generalizing b with
  | zero => rfl
  | succ n ih => rw [leaveMany, ih, spots_leave, List.drop_tail]

theorem length_spots (done : List Node) (frames : List Frame) :
    (spots done frames).length = frames.length := by
  induction frames with
  | nil => rfl
  | cons frame outer ih => rw [spots, List.length_cons, ih, List.length_cons]

theorem entries_finish (b : Builder) : entries b.finish = listing b.done b.frames := by
  have hlisting := listing_leaveMany b.frames.length b
  have hspots := spots_leaveMany b.frames.length b
  have hclosed : (b.leaveMany b.frames.length).frames = [] := by
    rw [← List.length_eq_zero_iff, ← length_spots (b.leaveMany b.frames.length).done, hspots,
      List.length_drop, length_spots, Nat.sub_self]
  rw [hclosed, listing] at hlisting
  exact hlisting

theorem any_spots (p : Bytes → Bool) (done : List Node) (frames : List Frame) :
    ((spots done frames).any fun e => p e.name) = frames.any fun frame => p frame.name := by
  induction frames with
  | nil => rfl
  | cons frame outer ih => rw [spots, List.any_cons, ih, List.any_cons]

theorem drop_closedBy (name : Bytes) (done : List Node) (frames : List Frame) :
    (spots done frames).drop (closedBy name frames) = closeInnermost name (spots done frames) := by
  induction frames with
  | nil => rfl
  | cons frame outer ih =>
    have hany := any_spots (Fold.alike · name) done outer
    rw [closedBy, closeInnermost, hany] at ih
    rw [spots, closedBy, closeInnermost, List.findIdx?_cons, List.any_cons, List.dropWhile_cons, hany]
    by_cases h : Fold.alike frame.name name = true
    · simp only [h, if_true, Bool.true_or, Bool.not_true, Bool.false_eq_true, if_false, List.tail_cons,
        List.drop_succ_cons, List.drop_zero]
    cases hfound : outer.findIdx? fun f => Fold.alike f.name name with
    | none =>
      have hnone : (outer.any fun f => Fold.alike f.name name) = false :=
        List.any_eq_false.2 fun f hf => by simpa using List.findIdx?_eq_none_iff.1 hfound f hf
      simp only [h, hnone, Bool.false_or, Bool.false_eq_true, if_false, Option.map_none,
        List.drop_zero]
    | some i =>
      have hsome : (outer.any fun f => Fold.alike f.name name) = true := by
        rw [List.findIdx?_eq_some_iff_getElem] at hfound
        obtain ⟨hi, halike, _⟩ := hfound
        exact List.any_eq_true.2 ⟨_, List.getElem_mem hi, halike⟩
      rw [hfound, hsome, if_pos rfl] at ih
      simp only [h, hsome, Bool.false_or, Bool.not_false, if_true, Bool.false_eq_true, if_false,
        Option.map_some, List.drop_succ_cons]
      exact ih

end Builder

/-! ## Tokens of a source -/

/-- What the tokens of a source are. -/
inductive IsRead (t : Token) : Prop where
  | text {data : Bytes} (h : t.kind = .text data)
  | comment {data : Bytes} (h : t.kind = .comment data)
  | doctype {data : Bytes} (h : t.kind = .doctype data)
  | openTag {name : Bytes} {attrs : List (Bytes × Bytes)} (h : OpenTag t name attrs)
  | closeTag {name : Bytes} (h : CloseTag t name)

theorem isRead_of_scan {mode : Mode} {t : Token} {u : Bytes}
    (h : scan mode (t.raw ++ u) = .token t u) : IsRead t := by
  cases mode with
  | markup =>
    cases scanned_of_scanMarkup h with
    | text _ _ hk | cut _ hk => exact .text hk
    | openTag ht => exact .openTag ht
    | closeTag ht => exact .closeTag ht
    | comment _ _ hk => exact .comment hk
    | doctype _ _ hk => exact .doctype hk
  | raw element =>
    rcases scan_raw_cases h with ⟨_, hk⟩ | ⟨_, name, ht, _⟩
    · exact .text hk
    · exact .closeTag ht

theorem isRead_of_steps {mode mode' : Mode} {s s' : Bytes} {ts : List Token}
    (h : Steps mode s ts mode' s') : ∀ t ∈ ts, IsRead t := by
  induction ts generalizing mode s with
  | nil => simp
  | cons t ts ih =>
    obtain ⟨hscan, hrest⟩ := h.cases_cons
    exact List.forall_mem_cons.2 ⟨isRead_of_scan hscan, ih hrest⟩

theorem OpenTag.label? {t : Token} {name : Bytes} {attrs : List (Bytes × Bytes)}
    (h : OpenTag t name attrs) :
    label? t = some (.element name (attrs.map fun a => ⟨a.1, decodeValue a.2⟩)) := by
  obtain ⟨body, hraw, hr⟩ := h.raw
  have hk := h.kind
  unfold Markup.label?
  split at hk <;> rw [hk, hraw, List.drop_succ_cons, List.drop_zero, hr] <;> rfl

theorem OpenTag.opens? {t : Token} {name : Bytes} {attrs : List (Bytes × Bytes)}
    (h : OpenTag t name attrs) :
    opens? t = if endsWithSlash t.raw || isVoid name then none else some name := by
  have hk := h.kind
  unfold Markup.opens?
  rw [h.label?]
  split at hk
  all_goals
    rename_i hslash
    rw [hk]
    simp [hslash]

theorem CloseTag.label? {t : Token} {name : Bytes} (h : CloseTag t name) : label? t = none := by
  rw [Markup.label?, h.kind]

theorem IsRead.endTag_of_label? {t : Token} (h : IsRead t) (hlabel : label? t = none) :
    ∃ name, t.kind = .endTag name := by
  cases h with
  | text hk | comment hk | doctype hk =>
    rw [label?, hk] at hlabel
    cases hlabel
  | openTag ht =>
    rw [ht.label?] at hlabel
    cases hlabel
  | closeTag ht => exact ⟨_, ht.kind⟩

theorem nodeCount_cons (t : Token) (ts : List Token) :
    nodeCount (t :: ts) = nodeCount [t] + nodeCount ts := by
  rw [nodeCount, nodeCount, nodeCount, ← List.length_append, ← List.filterMap_append,
    List.singleton_append]

theorem nodeCount_singleton (t : Token) : nodeCount [t] = (label? t).toList.length := by
  rw [nodeCount, List.filterMap_cons]
  cases label? t <;> rfl

/-! ## The builder on tokens -/

namespace Builder

/-- One token adds its node below the innermost open element, and opens and closes what it says. -/
theorem listing_take {t : Token} (h : IsRead t) (b : Builder) :
    listing (b.take t).done (b.take t).frames =
        listing b.done b.frames ++
          (label? t).toList.map (⟨·, innermost (spots b.done b.frames)⟩) ∧
      spots (b.take t).done (b.take t).frames =
        openAfter (listing b.done b.frames).length (spots b.done b.frames) t := by
  have leaf {node : Node} {label : Label} (htake : b.take t = b.append node)
      (hlabel : label? t = some label)
      (hentries : ∀ parent i, entriesAt parent i node = [⟨label, parent⟩])
      (hopen : ∀ n opened, openAfter n opened t = opened) :
      listing (b.take t).done (b.take t).frames =
          listing b.done b.frames ++
            (label? t).toList.map (⟨·, innermost (spots b.done b.frames)⟩) ∧
        spots (b.take t).done (b.take t).frames =
          openAfter (listing b.done b.frames).length (spots b.done b.frames) t := by
    rw [htake, listing_append, hentries, spots_append, hlabel, hopen]
    exact ⟨rfl, rfl⟩
  cases h with
  | text hk | comment hk | doctype hk =>
    refine leaf (by rw [take, hk]) (by rw [label?, hk]) (fun _ _ => by rw [entriesAt]) fun _ _ => ?_
    simp [openAfter, opens?, hk]
  | openTag ht =>
    have hkind := ht.kind
    have hafter (n : Nat) (opened : List OpenElement) :
        openAfter n opened t = (opens? t).toList.map (⟨n, ·⟩) ++ opened := by
      unfold openAfter
      split at hkind <;> rw [hkind]
    have htake := take_openTag ht b
    have hopens := ht.opens?
    split at htake
    · rename_i hleaf
      rw [if_pos hleaf] at hopens
      refine leaf htake ht.label? (fun _ _ => by rw [entriesAt, entriesFrom]) fun n opened => ?_
      rw [hafter, hopens]
      rfl
    · rename_i hopen
      rw [if_neg hopen] at hopens
      rw [htake, listing_enter, spots_enter, ht.label?, hafter, hopens]
      exact ⟨rfl, rfl⟩
  | closeTag ht =>
    rw [take_closeTag ht, listing_leaveMany, spots_leaveMany, drop_closedBy, ht.label?, openAfter,
      ht.kind]
    exact ⟨(List.append_nil _).symm, rfl⟩

theorem listing_foldl_take {ts : List Token} (h : ∀ t ∈ ts, IsRead t) (b : Builder) :
    listing (ts.foldl take b).done (ts.foldl take b).frames =
      listing b.done b.frames ++
        entriesOf (listing b.done b.frames).length (spots b.done b.frames) ts := by
  induction ts generalizing b with
  | nil => rw [List.foldl_nil, entriesOf, List.append_nil]
  | cons t ts ih =>
    rw [List.forall_mem_cons] at h
    obtain ⟨hlisting, hspots⟩ := listing_take h.1 b
    rw [List.foldl_cons, ih h.2, hlisting, hspots, List.length_append, List.length_map, entriesOf,
      nodeCount_singleton, List.append_assoc]

end Builder

theorem isRead_of_mem_tokens {s : Bytes} : ∀ t ∈ tokens s, IsRead t := by
  obtain ⟨mode, hsteps⟩ := steps_tokensFrom .markup s
  exact isRead_of_steps hsteps

theorem entries_parse (s : Bytes) : entries (parse s) = entriesOf 0 [] (tokens s) := by
  rw [parse, Builder.entries_finish]
  exact Builder.listing_foldl_take isRead_of_mem_tokens .empty

/-! ## Nodes that follow tokens -/

/-- Nodes in document order that follow tokens. -/
structure FollowsTokens (ts : List Token) (es : List Entry) : Prop where
  /-- Every token but an end tag says something as a node. -/
  complete : ∀ t ∈ ts, label? t = none → ∃ name, t.kind = .endTag name
  /-- One node for each token that is one, in the order of the tokens. -/
  labels : es.map Entry.label = ts.filterMap label?
  /-- The parent is the innermost element that is open at the token. -/
  parents : ∀ front t back label, ts = front ++ t :: back → label? t = some label →
    es[nodeCount front]? = some ⟨label, innermost (openBehind front)⟩
  /-- Only a start tag that is not void has nodes below it. -/
  leaves : ∀ e ∈ es, ∀ p, e.parent = some p → ∃ front t back, ts = front ++ t :: back ∧
    nodeCount front = p ∧ (opens? t).isSome = true

section

variable {n : Nat} {opened : List OpenElement} {ts us : List Token}

theorem map_label_entriesOf : (entriesOf n opened ts).map Entry.label = ts.filterMap label? := by
  induction ts generalizing n opened with
  | nil => rfl
  | cons t ts ih =>
    rw [entriesOf, List.map_append, ih, List.filterMap_cons]
    cases label? t <;> rfl

theorem length_entriesOf : (entriesOf n opened ts).length = nodeCount ts := by
  rw [nodeCount, ← @map_label_entriesOf n opened ts, List.length_map]

theorem entriesOf_append :
    entriesOf n opened (ts ++ us) =
      entriesOf n opened ts ++ entriesOf (n + nodeCount ts) (openFrom n opened ts) us := by
  induction ts generalizing n opened with
  | nil => rfl
  | cons t ts ih =>
    rw [List.cons_append, entriesOf, ih, entriesOf, openFrom, nodeCount_cons t ts, List.append_assoc,
      Nat.add_assoc]

theorem mem_openAfter {t : Token} {o : OpenElement} (h : o ∈ openAfter n opened t) :
    o ∈ opened ∨ o.node = n ∧ (opens? t).isSome = true := by
  unfold openAfter at h
  split at h
  · unfold closeInnermost at h
    split at h
    · exact .inl ((List.dropWhile_sublist _).mem (List.mem_of_mem_tail h))
    · exact .inl h
  · rcases List.mem_append.1 h with h | h
    · obtain ⟨name, hname, rfl⟩ := List.mem_map.1 h
      exact .inr ⟨rfl, by rw [Option.mem_toList.1 hname]; rfl⟩
    · exact .inl h

/-- A parent was open from the beginning, or one of the tokens opened it. -/
theorem exists_opens_of_mem {e : Entry} {p : Nat} (h : e ∈ entriesOf n opened ts)
    (hp : e.parent = some p) :
    (∃ o ∈ opened, o.node = p) ∨
      ∃ front t back, ts = front ++ t :: back ∧ n + nodeCount front = p ∧
        (opens? t).isSome = true := by
  induction ts generalizing n opened with
  | nil => cases h
  | cons t ts ih =>
    rw [entriesOf, List.mem_append] at h
    rcases h with h | h
    · obtain ⟨label, _, rfl⟩ := List.mem_map.1 h
      obtain ⟨o, ho, rfl⟩ := Option.map_eq_some_iff.1 hp
      exact .inl ⟨o, List.mem_of_head? ho, rfl⟩
    · rcases ih h with ⟨o, ho, rfl⟩ | ⟨front, t', back, rfl, hcount, hopens⟩
      · rcases mem_openAfter ho with ho | ⟨hnode, hopens⟩
        · exact .inl ⟨o, ho, rfl⟩
        · exact .inr ⟨[], t, ts, rfl, hnode.symm, hopens⟩
      · refine .inr ⟨t :: front, t', back, rfl, ?_, hopens⟩
        rw [nodeCount_cons, ← Nat.add_assoc, hcount]

theorem exists_token {k : Nat} (h : k < nodeCount ts) :
    ∃ front t back label, ts = front ++ t :: back ∧ nodeCount front = k ∧ label? t = some label := by
  induction ts generalizing k with
  | nil => exact absurd h (Nat.not_lt_zero _)
  | cons t ts ih =>
    rw [nodeCount_cons] at h
    have step {j : Nat} (hj : j < nodeCount ts) (hk : nodeCount [t] + j = k) :
        ∃ front t' back label, t :: ts = front ++ t' :: back ∧ nodeCount front = k ∧
          label? t' = some label := by
      obtain ⟨front, t', back, label, rfl, hcount, hlabel⟩ := ih hj
      exact ⟨t :: front, t', back, label, rfl, by rw [nodeCount_cons, hcount, hk], hlabel⟩
    cases hlabel : label? t with
    | none =>
      have hzero : nodeCount [t] = 0 := by rw [nodeCount_singleton, hlabel]; rfl
      exact step (j := k) (by omega) (by omega)
    | some label =>
      have hone : nodeCount [t] = 1 := by rw [nodeCount_singleton, hlabel]; rfl
      by_cases hk : k = 0
      · exact ⟨[], t, ts, label, rfl, hk.symm, hlabel⟩
      · exact step (j := k - 1) (by omega) (by omega)

end

theorem followsTokens_entriesOf {ts : List Token} (h : ∀ t ∈ ts, IsRead t) :
    FollowsTokens ts (entriesOf 0 [] ts) where
  complete t ht hlabel := (h t ht).endTag_of_label? hlabel
  labels := map_label_entriesOf
  parents := by
    rintro front t back label rfl hlabel
    rw [entriesOf_append, List.getElem?_append_right (Nat.le_of_eq length_entriesOf), length_entriesOf,
      Nat.sub_self, entriesOf, hlabel]
    rfl
  leaves := by
    intro e he p hp
    rcases exists_opens_of_mem he hp with ⟨o, ho, _⟩ | ⟨front, t, back, hts, hcount, hopens⟩
    · cases ho
    · exact ⟨front, t, back, hts, by rw [← hcount, Nat.zero_add], hopens⟩

theorem FollowsTokens.unique {ts : List Token} {es es' : List Entry} (h : FollowsTokens ts es)
    (h' : FollowsTokens ts es') : es = es' := by
  have hlength {es : List Entry} (h : FollowsTokens ts es) : es.length = nodeCount ts := by
    rw [nodeCount, ← h.labels, List.length_map]
  refine List.ext_getElem? fun k => ?_
  by_cases hk : k < nodeCount ts
  · obtain ⟨front, t, back, label, hts, rfl, hlabel⟩ := exists_token hk
    rw [h.parents front t back label hts hlabel, h'.parents front t back label hts hlabel]
  · rw [List.getElem?_eq_none (by rw [hlength h]; omega),
      List.getElem?_eq_none (by rw [hlength h']; omega)]

/-! ## Forests by their nodes -/

/-- What a node says. -/
def Node.label : Node → Label
  | text data => .text data
  | comment data => .comment data
  | doctype data => .doctype data
  | element name attrs _ => .element name attrs

theorem Node.eq_of_label {a b : Node} (hl : a.label = b.label) (hc : a.children = b.children) :
    a = b := by
  cases a <;> cases b <;> simp_all [label, children]

theorem entriesAt_eq (parent : Option Nat) (i : Nat) (node : Node) :
    entriesAt parent i node = ⟨node.label, parent⟩ :: entriesFrom (some i) (i + 1) node.children := by
  cases node <;> simp [entriesAt, entriesFrom, Node.label, Node.children]

theorem entriesFrom_cons (parent : Option Nat) (i : Nat) (node : Node) (rest : List Node) :
    entriesFrom parent i (node :: rest) =
      ⟨node.label, parent⟩ :: (entriesFrom (some i) (i + 1) node.children ++
        entriesFrom parent (i + ((entriesFrom (some i) (i + 1) node.children).length + 1)) rest) := by
  rw [entriesFrom, entriesAt_eq, List.cons_append, List.length_cons]

/-- Whether the parent of a node stands at position `i` or behind it. -/
def Entry.isBelow (i : Nat) (e : Entry) : Bool := e.parent.any (i ≤ ·)

theorem isBelow_of_mem {parent : Option Nat} {i j : Nat} {forest : List Node} (hij : i ≤ j)
    (hp : parent.any (i ≤ ·) = true) : ∀ e ∈ entriesFrom parent j forest, e.isBelow i = true := by
  induction forest using forestInduction generalizing parent j with
  | nil => simp [entriesFrom]
  | leaf node rest hleaf ih =>
    have hchildren : node.children = [] := by
      cases node with
      | element name attrs children => exact absurd rfl (hleaf name attrs children)
      | text | comment | doctype => rfl
    rw [entriesFrom_cons, hchildren, entriesFrom, List.nil_append]
    exact List.forall_mem_cons.2 ⟨hp, ih (by omega) hp⟩
  | element name attrs children rest ihc ih =>
    rw [entriesFrom_cons]
    refine List.forall_mem_cons.2
      ⟨hp, List.forall_mem_append.2 ⟨ihc (by omega) ?_, ih (by omega) hp⟩⟩
    simpa using hij

theorem takeWhile_isBelow {parent : Option Nat} {i j : Nat} (hp : ∀ p, parent = some p → p < i)
    (children rest : List Node) :
    (entriesFrom (some i) (i + 1) children ++ entriesFrom parent j rest).takeWhile (Entry.isBelow i) =
      entriesFrom (some i) (i + 1) children := by
  rw [List.takeWhile_append_of_pos (isBelow_of_mem (by omega) (by simp))]
  cases rest with
  | nil => simp [entriesFrom]
  | cons node rest =>
    have hhead : parent.any (i ≤ ·) = false := by
      cases parent with
      | none => rfl
      | some p => simpa using hp p rfl
    rw [entriesFrom_cons, List.takeWhile_cons_of_neg (by simp [Entry.isBelow, hhead]),
      List.append_nil]

/-- The positions of the parents tell where a node ends, so the nodes in document order are the
whole forest. -/
theorem entriesFrom_injective {n : Nat} {parent : Option Nat} {i : Nat} {forest forest' : List Node}
    (hn : (entriesFrom parent i forest).length = n) (hp : ∀ p, parent = some p → p < i)
    (h : entriesFrom parent i forest = entriesFrom parent i forest') : forest = forest' := by
  induction n using Nat.strong_induction_on generalizing parent i forest forest' with
  | _ n ih =>
    cases forest with
    | nil =>
      cases forest' with
      | nil => rfl
      | cons node' rest' =>
        rw [entriesFrom_cons, entriesFrom] at h
        cases h
    | cons node rest =>
      cases forest' with
      | nil =>
        rw [entriesFrom_cons, entriesFrom] at h
        cases h
      | cons node' rest' =>
        rw [entriesFrom_cons, entriesFrom_cons, List.cons.injEq] at h
        obtain ⟨hlabel, htail⟩ := h
        have hbelow := congrArg (List.takeWhile (Entry.isBelow i)) htail
        rw [takeWhile_isBelow hp, takeWhile_isBelow hp] at hbelow
        rw [hbelow] at htail
        rw [entriesFrom_cons, List.length_cons, List.length_append] at hn
        have hchildren : node.children = node'.children :=
          ih _ (by omega) rfl (fun p hself => by cases hself; exact Nat.lt_succ_self i) hbelow
        have hrest : rest = rest' := by
          rw [hbelow] at hn
          exact ih _ (by omega) rfl (fun p hparent => Nat.lt_add_right _ (hp p hparent))
            (List.append_cancel_left htail)
        rw [Node.eq_of_label (Entry.mk.inj hlabel).1 hchildren, hrest]

theorem entries_injective {forest forest' : List Node} (h : entries forest = entries forest') :
    forest = forest' :=
  entriesFrom_injective rfl (fun _ hp => by cases hp) h

/-- Building loses and invents nothing: the forest of a source is the one whose nodes, in document
order, are the tokens of the source but for the end tags, each below the innermost element that is
open at its token. -/
theorem parse_iff_followsTokens (s : Bytes) (forest : List Node) :
    FollowsTokens (tokens s) (entries forest) ↔ forest = parse s := by
  have hparse : FollowsTokens (tokens s) (entries (parse s)) := by
    rw [entries_parse]
    exact followsTokens_entriesOf isRead_of_mem_tokens
  constructor
  · intro h
    exact entries_injective (h.unique hparse)
  · rintro rfl
    exact hparse

end Graft.Markup
