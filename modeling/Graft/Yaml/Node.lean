import Graft.Yaml.Phrase

/-!
# Graft.Yaml.Node

The values that phrases describe. In a block, what belongs to a key or a dash stands further to the
right; between brackets and braces only the marks count.

* `Yaml.Node`: a value in which names may stand for other values.
* `Yaml.value?`: the value at the head of some phrases, and the phrases behind it.
* `Yaml.Node.ofBody?`: the value of a document.
-/

namespace Graft.Yaml

inductive Node where
  | scalar (s : Scalar)
  | merge
  | list (items : List Node)
  | table (entries : List (Node × Node))
  | tagged (tag : Bytes) (node : Node)
  | named (name : Bytes) (node : Node)
  | reference (name : Bytes)

namespace Node

def null : Node := .scalar .null

def isNamed : Node → Bool
  | named _ _ => true
  | _ => false

def isSingle : Node → Bool
  | list _ => false
  | table _ => false
  | _ => true

end Node

/-- An entry of a table. Keys with the same text may not stand in one table; one without value
between braces has no text in this sense. -/
structure Entry where
  text : Option Bytes
  key : Node
  value : Node

def tableOf? (entries : List Entry) : Option Node :=
  if (entries.filterMap Entry.text).Nodup then
    some (.table (entries.map fun e => (e.key, e.value)))
  else none

/-! ## Words -/

def wordNode? (t : Token) : Option Node :=
  match t.kind with
  | .merge => some .merge
  | .plain | .quoted => some (.scalar t.value)
  | _ => none

def blockNode? : Option Token → Option Node
  | none => some (.scalar (.text []))
  | some t => if t.isText then some (.scalar (.text t.text)) else none

def nameOf? : Phrase → Option Bytes
  | .word t => (wordNode? t).map fun _ => t.text
  | _ => none

def defaultNode? (tag : Bytes) : Option Node :=
  if tag = Bytes.ofString "!!int" then some (.scalar (.integer 0))
  else if tag = Bytes.ofString "!!float" then some (.scalar (.decimal 0.0))
  else if tag = Bytes.ofString "!!bool" then some (.scalar (.flag false))
  else if tag = Bytes.ofString "!!null" then some .null
  else if scalarTags.contains tag then some (.scalar (.text []))
  else none

def defaultText (tag : Bytes) : Bytes :=
  match defaultNode? tag with
  | some (.scalar (.integer _)) => "0"
  | some (.scalar (.decimal _)) => "0"
  | some (.scalar (.flag _)) => "false"
  | some (.scalar .null) => "null"
  | _ => []

def keyText : Phrase → Bytes
  | .word t => if t.kind = .tag then defaultText t.text else t.text
  | .named _ _ value => keyText value
  | .tagged _ value => keyText value
  | .question _ key => keyText key
  | .key key _ => keyText key
  | _ => []

/-- Whether a key may begin with a token and end with one on a line: between brackets and braces its
line ends have to account for the lines between the two, elsewhere its text has to stand on one. -/
def isKeyPlace (isFlow : Bool) (t : Token) (line : Nat) : Bool :=
  if isFlow then t.line + t.innerBreaks == line
  else t.breaks == 0 || !(t.isText || t.kind == .quoted)

def tableTags : List Bytes := ["!!map", "!!set"]

def listTags : List Bytes := ["!!seq", "!!omap"]

/-- Whether a name is followed by a tag on another line, not to the right of a column. -/
def hasStrayTag (column : Nat) : List Phrase → Bool
  | .name mark _ :: p :: _ => p.isTag && mark.line != p.line && p.column ≤ column
  | _ => false

def nextIs (test : Phrase → Bool) (phrases : List Phrase) : Bool := phrases.head?.any test

def endsEntry (p : Phrase) : Bool := p.kind == .comma || p.kind == .closeBrace

/-- What the place of a value says about it, seen from a key or dash. -/
inductive Place where
  | absent
  | nameOnly
  | wrong
  | present
deriving DecidableEq, Repr

/-- The place of a value behind a key or dash. `isNext` tells phrases that begin the next entry. -/
def placeOf (first : Token) (isNext : Phrase → Bool) (phrases : List Phrase) : Place :=
  match phrases with
  | [] => .absent
  | p :: rest =>
    if p.column = first.column ∧ isNext p then .absent
    else if p.line = first.line ∧ p.isName ∧
        nextIs (fun q => q.column == first.column && isNext q) rest then .nameOnly
    else if p.column ≤ first.column ∧ (p.isName ∨ p.kind = .tag) then .wrong
    else if p.column < first.column then .absent
    else if hasStrayTag first.column phrases then .wrong
    else .present

/-! ## Values -/

mutual

def value? (isFlow : Bool) : (fuel : Nat) → List Phrase → Option (Node × List Phrase)
  | 0, _ => none
  | _, [] => none
  | fuel + 1, p :: rest =>
    match p with
    | .question .. | .key .. | .pair .. =>
      match entries? isFlow fuel (p :: rest) with
      | none => none
      | some (entries, rest) => (tableOf? entries).map fun node => (node, rest)
    | .directive .. => none
    | .named _ name value => do
      let name ← nameOf? name
      let (node, _) ← value? isFlow fuel [value]
      if node.isNamed then none else some (.named name node, rest)
    | .name _ name => do
      let name ← nameOf? name
      let (node, rest) ← value? isFlow fuel rest
      if node.isNamed then none else some (.named name node, rest)
    | .reference _ name => (nameOf? name).map fun name => (.reference name, rest)
    | .block _ body => (blockNode? body).map fun node => (node, rest)
    | .tagged tag value => (tagged? isFlow fuel tag [value]).map fun (node, _) => (node, rest)
    | .word t =>
      match t.kind with
      | .tag => tagged? isFlow fuel t rest
      | .openBrace =>
        match flowEntries? fuel true rest with
        | none => none
        | some (entries, rest) => (tableOf? entries).map fun node => (node, rest)
      | .openBracket => (flowItems? fuel true rest).map fun (items, rest) => (.list items, rest)
      | .dash => (items? isFlow fuel t (p :: rest)).map fun (items, rest) => (.list items, rest)
      | _ => (wordNode? t).map fun node => (node, rest)

/-- The value of the first phrase, which is no list and no table, and the phrases from it on. Where
the value is made of further phrases, these are behind it. -/
def single? (isFlow : Bool) : (fuel : Nat) → List Phrase → Option (Node × List Phrase)
  | 0, _ => none
  | _, [] => none
  | fuel + 1, p :: rest =>
    match p with
    | .question .. | .key .. | .pair .. | .directive .. => none
    | .name .. => value? isFlow fuel (p :: rest)
    | .word t =>
      if t.kind = .tag then
        match tagged? isFlow fuel t rest with
        | some (.tagged tag node, rest) =>
          if node.isSingle then some (.tagged tag node, rest) else none
        | _ => none
      else (wordNode? t).map fun node => (node, p :: rest)
    | _ => (value? isFlow fuel [p]).map fun (node, _) => (node, p :: rest)

def tagged? (isFlow : Bool) : (fuel : Nat) → (tag : Token) → List Phrase →
    Option (Node × List Phrase)
  | 0, _, _ => none
  | _, tag, [] => some (.tagged tag.text .null, [])
  | fuel + 1, tag, p :: rest =>
    let found : Option (Node × List Phrase) :=
      if tableTags.contains tag.text then
        if p.isTable then value? isFlow fuel (p :: rest) else none
      else if listTags.contains tag.text then
        if p.kind = .openBracket ∨ p.kind = .dash then value? isFlow fuel (p :: rest)
        else some (.list [], p :: rest)
      else if scalarTags.contains tag.text then
        match p with
        | .block _ body => (blockNode? body).map fun node => (node, p :: rest)
        | _ =>
          if p.kind = .comma ∨ p.kind = .colon then
            (defaultNode? tag.text).map fun node => (node, p :: rest)
          else (single? isFlow fuel (p :: rest)).map fun (node, rest) => (node, rest.drop 1)
      else value? isFlow fuel (p :: rest)
    found.map fun (node, rest) => (.tagged tag.text node, rest)

def key? (isFlow : Bool) : (fuel : Nat) → Phrase → Option (Bytes × Node)
  | 0, _ => none
  | fuel + 1, p =>
    let found : Option (Node × Bool) := match p with
      | .key (.question mark key) colon =>
        (single? isFlow fuel [key]).map fun (node, _) => (node, isKeyPlace isFlow mark colon.line)
      | .question mark key =>
        (single? isFlow fuel [key]).map fun (node, _) => (node, isKeyPlace isFlow mark key.line)
      | .key key colon =>
        (single? isFlow fuel [key, .word colon]).map fun (node, _) =>
          (node, isKeyPlace isFlow key.first colon.line)
      | _ => none
    match found with
    | none => none
    | some (node, isPlace) => if isPlace then some (keyText p, node) else none

def pair? (isFlow : Bool) : (fuel : Nat) → (key value : Phrase) → Option Entry
  | 0, _, _ => none
  | fuel + 1, key, value => do
    let (text, key) ← key? isFlow fuel key
    let (value, _) ← value? isFlow fuel [value]
    some ⟨some text, key, value⟩

def entries? (isFlow : Bool) : (fuel : Nat) → List Phrase → Option (List Entry × List Phrase)
  | 0, _ => none
  | _, [] => none
  | fuel + 1, p :: rest =>
    let found : Option (Entry × List Phrase) := match p with
      | .pair key value =>
        let mayFollow (q : Phrase) :=
          q.column ≤ p.column || (isFlow && (q.kind == .comma || q.kind == .closeBracket))
        if nextIs (fun q => !mayFollow q) rest then none
        else (pair? isFlow fuel key value).map fun entry => (entry, rest)
      | _ =>
        let isStray (q : Phrase) :=
          q.line == p.line && (q.kind == .dash || (q.isEntry && q.column != p.column))
        if nextIs isStray rest then none
        else do
          let (text, key) ← key? isFlow fuel p
          let (value, rest) ← placed? isFlow fuel p.first Phrase.isTable rest
          some (⟨some text, key, value⟩, rest)
    match found with
    | none => none
    | some (entry, rest) =>
      (moreEntries? isFlow fuel p.column rest).map fun (entries, rest) => (entry :: entries, rest)

def moreEntries? (isFlow : Bool) : (fuel : Nat) → (column : Nat) → List Phrase →
    Option (List Entry × List Phrase)
  | 0, _, _ => none
  | _, _, [] => some ([], [])
  | fuel + 1, column, p :: rest =>
    if p.column ≠ column ∨ (isFlow ∧ p.kind = .closeBracket) then some ([], p :: rest)
    else if !p.isTable then none
    else if p.kind = .closeBrace then some ([], rest)
    else do
      let (entries, rest) ← entries? isFlow fuel (p :: rest)
      let (more, rest) ← moreEntries? isFlow fuel column rest
      some (entries ++ more, rest)

/-- The value behind a key or dash; where there is none it is empty. -/
def placed? (isFlow : Bool) : (fuel : Nat) → (first : Token) → (isNext : Phrase → Bool) →
    List Phrase → Option (Node × List Phrase)
  | 0, _, _, _ => none
  | fuel + 1, first, isNext, phrases =>
    match placeOf first isNext phrases, phrases with
    | .absent, phrases => some (.null, phrases)
    | .nameOnly, .name _ name :: rest =>
      (nameOf? name).map fun name => (.named name .null, rest)
    | .present, phrases => value? isFlow fuel phrases
    | _, _ => none

def items? (isFlow : Bool) : (fuel : Nat) → (first : Token) → List Phrase →
    Option (List Node × List Phrase)
  | 0, _, _ => none
  | _, _, [] => some ([], [])
  | fuel + 1, first, p :: rest =>
    if p.kind = .dash ∧ p.column = first.column then do
      let (item, rest) ← placed? isFlow fuel first (fun q => q.kind == .dash) rest
      let (items, rest) ← items? isFlow fuel first rest
      some (item :: items, rest)
    else some ([], p :: rest)

/-- The entries of a table up to its closing brace. A comma may stand before the first and behind
the last, and a key alone has no value. -/
def flowEntries? : (fuel : Nat) → (isFirst : Bool) → List Phrase → Option (List Entry × List Phrase)
  | 0, _, _ => none
  | _, _, [] => none
  | fuel + 1, isFirst, p :: rest =>
    if p.kind = .closeBrace then some ([], rest)
    else if p.kind ≠ .comma ∧ !isFirst then none
    else
      match (if p.kind = .comma then rest else p :: rest) with
      | [] => none
      | q :: rest =>
        if q.kind = .closeBrace then some ([], rest)
        else
          let found : Option (Entry × List Phrase) := match q with
            | .pair key value => (pair? true fuel key value).map fun entry => (entry, rest)
            | .key .. | .question .. => do
              let (text, key) ← key? true fuel q
              if nextIs endsEntry rest then some (⟨some text, key, .null⟩, rest)
              else
                let (value, rest) ← value? true fuel rest
                some (⟨some text, key, value⟩, rest)
            | _ =>
              if nextIs endsEntry rest then
                (single? true fuel (q :: rest)).map fun (key, rest) =>
                  (⟨none, key, .null⟩, rest.drop 1)
              else none
          match found with
          | none => none
          | some (entry, rest) =>
            (flowEntries? fuel false rest).map fun (entries, rest) => (entry :: entries, rest)

def flowItems? : (fuel : Nat) → (isFirst : Bool) → List Phrase → Option (List Node × List Phrase)
  | 0, _, _ => none
  | _, _, [] => none
  | fuel + 1, isFirst, p :: rest =>
    if p.kind = .closeBracket then some ([], rest)
    else if (p.kind == .comma) == isFirst then none
    else
      match (if isFirst then p :: rest else rest) with
      | [] => none
      | q :: rest =>
        if q.kind = .closeBracket then some ([], rest)
        else do
          let (item, rest) ← value? true fuel (q :: rest)
          let (items, rest) ← flowItems? fuel false rest
          some (item :: items, rest)

end

def Node.ofBody? (size : Nat) (body : List Phrase) : Option Node :=
  match value? false (8 * size + 8) body with
  | some (node, []) => some node
  | _ => none

end Graft.Yaml
