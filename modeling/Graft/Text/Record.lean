import Graft.Text.Bytes

/-!
# Graft.Text.Record

The first record of a comma-separated text. Fields may stand between double quotes, where commas
and line ends are plain and a quote is written twice; empty lines before the record are skipped.

* `Record.fields`: the fields from a position on.
* `Record.read`: the fields of a text.
* `Record.Fault`: why a text has none.
-/

namespace Graft.Record

inductive Spot where
  | atStart
  | plain
  | quoted
  | behindQuote
deriving DecidableEq, Repr

inductive Fault where
  | noRecord
  | bareQuote (first line column : Nat)
  | brokenQuote (first line column : Nat)
deriving DecidableEq, Repr

/-- A position in a record; the first line is told if it is another one. -/
def positionText (first line column : Nat) : Bytes :=
  let start : Bytes := if first = line then [] else "record on line " ++ Bytes.ofNat first ++ "; "
  start ++ "parse error on line " ++ Bytes.ofNat line ++ ", column " ++ Bytes.ofNat column ++ ": "

def Fault.text : Fault → Bytes
  | noRecord => "EOF"
  | bareQuote first line column =>
    positionText first line column ++ "bare \" in non-quoted-field"
  | brokenQuote first line column =>
    positionText first line column ++ "extraneous or missing \" in quoted-field"

/-- The fields from a position on; `piece` is what the current field has so far, last byte first.
A line end inside quotes leads to the next line only if there is one. -/
def fields (first : Nat) :
    Spot → (line column : Nat) → (piece : Bytes) → Bytes → Except Fault (List Bytes)
  | .quoted, line, column, _, [] => .error (.brokenQuote first line column)
  | _, _, _, piece, [] => .ok [piece.reverse]
  | .quoted, line, column, piece, c :: rest =>
    if c = Byte.quote then fields first .behindQuote line (column + 1) piece rest
    else if c = Byte.lf ∧ rest ≠ [] then fields first .quoted (line + 1) 1 (c :: piece) rest
    else fields first .quoted line (column + 1) (c :: piece) rest
  | .behindQuote, line, column, piece, c :: rest =>
    if c = Byte.quote then fields first .quoted line (column + 1) (c :: piece) rest
    else if c = Byte.comma then
      (fields first .atStart line (column + 1) [] rest).map (piece.reverse :: ·)
    else if c = Byte.lf then .ok [piece.reverse]
    else .error (.brokenQuote first line (column - 1))
  | spot, line, column, piece, c :: rest =>
    if c = Byte.lf then .ok [piece.reverse]
    else if c = Byte.comma then
      (fields first .atStart line (column + 1) [] rest).map (piece.reverse :: ·)
    else if c = Byte.quote then
      if spot = .atStart then fields first .quoted line (column + 1) [] rest
      else .error (.bareQuote first line column)
    else fields first .plain line (column + 1) (c :: piece) rest

def unixLines : Bytes → Bytes
  | [] => []
  | [c] => if c = Byte.cr then [] else [c]
  | c :: d :: rest =>
    if c = Byte.cr ∧ d = Byte.lf then Byte.lf :: unixLines rest else c :: unixLines (d :: rest)

def read (s : Bytes) : Except Fault (List Bytes) :=
  if s.isEmpty then .ok []
  else
    let text := unixLines s
    let line := 1 + (text.takeWhile (· == Byte.lf)).length
    match text.dropWhile (· == Byte.lf) with
    | [] => .error .noRecord
    | record => fields line .atStart line 1 [] record

end Graft.Record
