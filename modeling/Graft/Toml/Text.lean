import Graft.Text.Utf8

/-!
# Graft.Toml.Text

The small parts of a document: space, comments, strings and keys. Every reader takes the head of a
text and gives the rest.

* `Toml.skipAll`: leaves out blanks, comments and line ends.
* `Toml.string?`: a string of any kind.
* `Toml.key?`: a key of one part or more.
-/

namespace Graft.Toml

/-! ## Space and comments -/

def isBlank (c : UInt8) : Bool := c == Byte.space || c == Byte.tab

def skipBlanks (s : Bytes) : Bytes := s.dropWhile isBlank

def isPlain (c : UInt8) : Bool := c == Byte.tab || (0x20 ≤ c && c != 0x7F)

/-- What follows the end of a line; the end of the text is the end of a line too. -/
def afterLine? : Bytes → Option Bytes
  | [] => some []
  | 0x0A :: rest => some rest
  | 0x0D :: 0x0A :: rest => some rest
  | _ => none

def skipComment (s : Bytes) : Bytes :=
  match s with
  | 0x23 :: rest => rest.dropWhile isPlain
  | _ => s

def endLine? (s : Bytes) : Option Bytes := afterLine? (skipComment (skipBlanks s))

def skipLines : (fuel : Nat) → Bytes → Bytes
  | 0, s => s
  | fuel + 1, s =>
    let s := skipBlanks s
    match s with
    | [] => []
    | _ =>
      match endLine? s with
      | some rest => skipLines fuel rest
      | none => s

def skipAll (s : Bytes) : Bytes := skipLines (s.length + 1) s

/-! ## Strings -/

def codePoint? (n : Nat) : Option Char :=
  if n < 0xD800 ∨ (0xDFFF < n ∧ n < 0x110000) then some (Char.ofNat n) else none

def hexNumber? (hs : Bytes) : Option Nat :=
  hs.foldl (fun n h => n.bind fun n => (Byte.hexValue? h).map fun d => n * 16 + d.toNat) (some 0)

def escape? (s : Bytes) : Option (Bytes × Nat) :=
  match s with
  | [] => none
  | c :: rest =>
    let unicode (width : Nat) : Option (Bytes × Nat) :=
      if rest.length < width then none
      else
        match (hexNumber? (rest.take width)).bind codePoint? with
        | some char => some (Utf8.encode char, width + 1)
        | none => none
    if c = 0x62 then some ([0x08], 1)
    else if c = 0x74 then some ([0x09], 1)
    else if c = 0x6E then some ([0x0A], 1)
    else if c = 0x66 then some ([0x0C], 1)
    else if c = 0x72 then some ([0x0D], 1)
    else if c = 0x65 then some ([0x1B], 1)
    else if c = Byte.quote ∨ c = Byte.backslash then some ([c], 1)
    else if c = 0x75 then unicode 4
    else if c = 0x55 then unicode 8
    else none

/-- A string of one line with escapes, behind its opening quote; `skip` bytes belong to an escape
already read. -/
def basicFrom : (skip : Nat) → Bytes → Option (Bytes × Bytes)
  | _, [] => none
  | skip + 1, _ :: rest => basicFrom skip rest
  | 0, c :: rest =>
    if c = Byte.quote then some ([], rest)
    else if c = Byte.backslash then
      match escape? rest with
      | none => none
      | some (bytes, n) => (basicFrom n rest).map fun (s, behind) => (bytes ++ s, behind)
    else if isPlain c then (basicFrom 0 rest).map fun (s, behind) => (c :: s, behind)
    else none

def literalFrom : Bytes → Option (Bytes × Bytes)
  | [] => none
  | c :: rest =>
    if c = Byte.apostrophe then some ([], rest)
    else if isPlain c then (literalFrom rest).map fun (s, behind) => (c :: s, behind)
    else none

/-- The quotes that end a string of several lines: three, with at most two more before them that
belong to it. -/
def closing? (quote : UInt8) (s : Bytes) : Option (Nat × Bytes) :=
  let n := (s.takeWhile (· == quote)).length
  if n < 3 then none else some (min n 5 - 3, s.drop (min n 5))

/-- The inside of a string of several lines as it is written, and what follows the string. With
escapes, what stands behind a backslash does not end the string; a carriage return is only there
before a line feed. -/
def multilineBody (quote : UInt8) (escapes : Bool) : Bytes → Option (Bytes × Bytes)
  | [] => none
  | c :: rest =>
    match closing? quote (c :: rest) with
    | some (extra, behind) => some (List.replicate extra quote, behind)
    | none =>
      if c = Byte.backslash ∧ escapes then
        match rest with
        | [] => none
        | d :: rest =>
          (multilineBody quote escapes rest).map fun (body, behind) => (c :: d :: body, behind)
      else if c = Byte.cr ∧ rest.head? ≠ some Byte.lf then none
      else (multilineBody quote escapes rest).map fun (body, behind) => (c :: body, behind)

/-- What a backslash leaves out if nothing but blanks stands between it and the end of its line: all
white space behind it. -/
def afterFold? (s : Bytes) : Option Bytes :=
  match skipBlanks s with
  | [] => none
  | s => (afterLine? s).map fun rest =>
    rest.dropWhile fun c => isBlank c || c == Byte.lf || c == Byte.cr

def unfolded? (escapes : Bool) : (fuel : Nat) → Bytes → Option Bytes
  | 0, _ => none
  | _, [] => some []
  | fuel + 1, c :: rest =>
    if c = Byte.backslash ∧ escapes then
      match afterFold? rest with
      | some rest => unfolded? escapes fuel rest
      | none =>
        match escape? rest with
        | none => none
        | some (bytes, n) => (unfolded? escapes fuel (rest.drop n)).map (bytes ++ ·)
    else if isPlain c ∨ c = Byte.lf ∨ c = Byte.cr then (unfolded? escapes fuel rest).map (c :: ·)
    else none

/-- A string of several lines behind its opening quotes. The first line end does not belong to
it. -/
def multiline? (quote : UInt8) (escapes : Bool) (s : Bytes) : Option (Bytes × Bytes) := do
  let (body, behind) ← multilineBody quote escapes s
  let body := if body.isEmpty then body else (afterLine? body).getD body
  let text ← unfolded? escapes (body.length + 1) body
  pure (text, behind)

def string? (s : Bytes) : Option (Bytes × Bytes) :=
  match s with
  | 0x22 :: 0x22 :: 0x22 :: rest => multiline? Byte.quote true rest
  | 0x27 :: 0x27 :: 0x27 :: rest => multiline? Byte.apostrophe false rest
  | 0x22 :: rest => basicFrom 0 rest
  | 0x27 :: rest => literalFrom rest
  | _ => none

/-! ## Keys -/

def isBare (c : UInt8) : Bool := Byte.isAlphanumeric c || c == Byte.underscore || c == Byte.dash

def keyPart? (s : Bytes) : Option (Bytes × Bytes) :=
  match s with
  | 0x22 :: rest => basicFrom 0 rest
  | 0x27 :: rest => literalFrom rest
  | _ =>
    let part := s.takeWhile isBare
    if part.isEmpty then none else some (part, s.dropWhile isBare)

def keyFrom? : (fuel : Nat) → Bytes → Option (List Bytes × Bytes)
  | 0, _ => none
  | fuel + 1, s =>
    match keyPart? (skipBlanks s) with
    | none => none
    | some (part, rest) =>
      match skipBlanks rest with
      | 0x2E :: rest => (keyFrom? fuel rest).map fun (parts, behind) => (part :: parts, behind)
      | rest => some ([part], rest)

def key? (s : Bytes) : Option (List Bytes × Bytes) := keyFrom? (s.length + 1) s

end Graft.Toml
