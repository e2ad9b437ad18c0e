import Graft.Yaml.Tokens

/-!
# Graft.Yaml.Phrase

Tokens that belong together: a name and what it names, a tag and its value, a key with its colon, a
key and a value on one line. Each kind of phrase is found in a pass of its own, so that an outer
phrase is made of inner ones.

* `Yaml.Phrase`: tokens that belong together.
* `Yaml.phrases?`: the phrases of a text.
* `Yaml.documents?`: the phrases of each document.
-/

namespace Graft.Yaml

inductive Phrase where
  | word (t : Token)
  | block (head : Token) (body : Option Token)
  | name (mark : Token) (name : Phrase)
  | named (mark : Token) (name value : Phrase)
  | reference (mark : Token) (name : Phrase)
  | tagged (tag : Token) (value : Phrase)
  | question (mark : Token) (key : Phrase)
  | key (key : Phrase) (colon : Token)
  | pair (key value : Phrase)
  | directive (mark : Token) (name : Phrase) (values : List Phrase)

namespace Phrase

def first : Phrase → Token
  | word t => t
  | block head _ => head
  | name mark _ => mark
  | named mark _ _ => mark
  | reference mark _ => mark
  | tagged tag _ => tag
  | question mark _ => mark
  | key k _ => k.first
  | pair k _ => k.first
  | directive mark _ _ => mark

def kind (p : Phrase) : Kind := p.first.kind

def line (p : Phrase) : Nat := p.first.line

def column (p : Phrase) : Nat := p.first.column

def isKey : Phrase → Bool
  | question _ _ => true
  | key _ _ => true
  | _ => false

def isEntry : Phrase → Bool
  | pair _ _ => true
  | p => p.isKey

def isName : Phrase → Bool
  | name _ _ => true
  | _ => false

def isBareTag : Phrase → Bool
  | word t => t.kind == .tag
  | _ => false

def isTag : Phrase → Bool
  | tagged _ _ => true
  | p => p.isBareTag

/-- Whether a phrase stands for a value that is no list and no table. -/
def isScalar (p : Phrase) : Bool := !p.isEntry && p.first.isScalar

def isTable : Phrase → Bool
  | word t => t.kind == .openBrace || t.kind == .closeBrace
  | p => p.isEntry

def isBracket (p : Phrase) : Bool :=
  match p.kind with
  | .openBrace | .closeBrace | .openBracket | .closeBracket => true
  | _ => false

def isNoKey (p : Phrase) : Bool :=
  match p.kind with
  | .directive | .start | .finish | .comma | .colon | .dash => true
  | _ => p.isBracket

end Phrase

/-! ## Passes -/

def joinBlocks : List Token → List Phrase
  | [] => []
  | [t] => if t.kind = .block then [.block t none] else [.word t]
  | t :: u :: rest =>
    if t.kind = .block then .block t (some u) :: joinBlocks rest
    else .word t :: joinBlocks (u :: rest)

/-- Joins names with their marks, and with values on the same line. A name has to have a value. -/
def joinNames? : List Phrase → Option (List Phrase)
  | [] => some []
  | [p] => if p.kind = .anchor ∨ p.kind = .reference then none else some [p]
  | [p, q] =>
    if p.kind = .anchor then none
    else if p.kind = .reference then some [.reference p.first q]
    else (joinNames? [q]).map (p :: ·)
  | p :: q :: v :: rest =>
    if p.kind = .anchor then
      if p.line = v.line ∧ v.kind = .dash then none
      else if p.line = v.line ∧ v.isScalar then (joinNames? rest).map (.named p.first q v :: ·)
      else (joinNames? (v :: rest)).map (.name p.first q :: ·)
    else if p.kind = .reference then (joinNames? (v :: rest)).map (.reference p.first q :: ·)
    else (joinNames? (q :: v :: rest)).map (p :: ·)

def scalarTags : List Bytes :=
  ["!!int", "!!float", "!!str", "!!binary", "!!timestamp", "!!bool", "!!null"]

def mergeTag : Bytes := "!!merge"

/-- Whether a tag takes the phrase behind it on its line as its value; none if it may not stand
before it. -/
def takes? (tag : Token) (p : Phrase) : Option Bool :=
  if tag.line ≠ p.line ∨ p.isName then some false
  else if Bytes.after? "!!" tag.text |>.isNone then some !p.isBracket
  else if scalarTags.contains tag.text then some p.isScalar
  else if tag.text = mergeTag then if p.kind = .merge then some true else none
  else some false

def joinTags? : List Phrase → Option (List Phrase)
  | [] => some []
  | [p] => some [p]
  | p :: q :: rest =>
    if p.kind = .tag then
      match takes? p.first q with
      | none => none
      | some true => (joinTags? rest).map (.tagged p.first q :: ·)
      | some false => (joinTags? (q :: rest)).map (p :: ·)
    else (joinTags? (q :: rest)).map (p :: ·)

def joinTaggedNames? : List Phrase → Option (List Phrase)
  | [] => some []
  | [p] => if p.isName then none else some [p]
  | .name mark name :: .tagged tag v :: rest =>
    if mark.line = tag.line then
      (joinTaggedNames? rest).map (.named mark name (.tagged tag v) :: ·)
    else (joinTaggedNames? (.tagged tag v :: rest)).map (.name mark name :: ·)
  | p :: q :: rest => (joinTaggedNames? (q :: rest)).map (p :: ·)

def joinQuestions? : List Phrase → Option (List Phrase)
  | [] => some []
  | [p] => if p.kind = .question then none else some [p]
  | p :: q :: rest =>
    if p.kind = .question then (joinQuestions? rest).map (.question p.first q :: ·)
    else (joinQuestions? (q :: rest)).map (p :: ·)

def joinColons? : List Phrase → Option (List Phrase)
  | [] => some []
  | [p] => if p.kind = .colon then none else some [p]
  | p :: q :: rest =>
    if p.kind = .colon then none
    else if q.kind = .colon then
      if p.isNoKey then none else (joinColons? rest).map (.key p q.first :: ·)
    else (joinColons? (q :: rest)).map (p :: ·)

def joinPairs : List Phrase → List Phrase
  | [] => []
  | [p] => [p]
  | p :: q :: rest =>
    if p.isKey && p.line == q.line && !q.isName && (q.isScalar || (q.isTag && !q.isBareTag)) then
      .pair p q :: joinPairs rest
    else p :: joinPairs (q :: rest)

/-- Joins directives with what stands on their lines. A document has to follow. -/
def joinDirectives? : (fuel : Nat) → List Phrase → Option (List Phrase)
  | 0, _ => none
  | _, [] => some []
  | fuel + 1, p :: rest =>
    if p.kind = .directive then
      match rest with
      | [] => none
      | name :: rest =>
        let onLine (q : Phrase) := q.line == p.line
        match rest.dropWhile onLine with
        | [] => none
        | q :: behind =>
          if q.kind = .start then
            (joinDirectives? fuel (q :: behind)).map
              (.directive p.first name (rest.takeWhile onLine) :: ·)
          else none
    else (joinDirectives? fuel rest).map (p :: ·)

def phrases? (tokens : List Token) : Option (List Phrase) := do
  let named ← joinNames? (joinBlocks tokens)
  let tagged ← (joinTags? named).bind joinTaggedNames?
  let keyed ← (joinQuestions? tagged).bind joinColons?
  joinDirectives? (tokens.length + 1) (joinPairs keyed)

/-! ## Documents -/

/-- The phrases of a document. -/
structure Page where
  body : List Phrase
  isOpened : Bool := false
  isClosed : Bool := false

/-- What has been read, if it is anything, as a document. -/
def Page.ofBefore (before : List Phrase) (isClosed : Bool) : List Page :=
  if before.isEmpty then [] else [{ body := before.reverse, isClosed }]

/-- Marks the first of some documents as opened; two marks cannot stand before one. -/
def openFirst? : List Page → Option (List Page)
  | [] => some [{ body := [], isOpened := true }]
  | page :: rest => if page.isOpened then none else some ({ page with isOpened := true } :: rest)

/-- The documents among some phrases; `before` has been read, last first. No table and no list may
begin on the line of the mark before a document, and no value right behind the mark at its end. -/
def documents? : (before : List Phrase) → List Phrase → Option (List Page)
  | before, [] => some [{ body := before.reverse }]
  | before, p :: rest =>
    if p.kind = .start then
      let done := Page.ofBefore before false
      match rest with
      | [] => some (done ++ [{ body := [], isOpened := true }])
      | q :: behind =>
        if q.kind = .start then some (done ++ [{ body := [], isOpened := true }])
        else if p.line = q.line ∧ (q.isEntry ∨ q.kind = .dash) then none
        else ((documents? [] (q :: behind)).bind openFirst?).map (done ++ ·)
    else if p.kind = .finish then
      let done := Page.ofBefore before true
      match rest with
      | [] => some done
      | q :: behind =>
        if q.isScalar then none else (documents? [] (q :: behind)).map (done ++ ·)
    else documents? (p :: before) rest

end Graft.Yaml
