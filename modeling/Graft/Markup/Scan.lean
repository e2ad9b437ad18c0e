import Graft.Markup.Token

/-!
# Graft.Markup.Scan

Reading one token. Each reader takes the source that follows what has been recognised and returns
the source behind the token; the slice of the token is what lies between the two.

* `textRest`: the source behind a text.
* `readAttrs?`: the attributes of a tag; there are none to read when the source ends inside.
* `commentSplit`, `declaration`: comments, doctypes and what counts as a comment.
* `rawRest`, `scriptRest`: the source behind the content of a raw element.
* `scan`: the next token.
-/

namespace Graft.Markup

def startsMarkup : Bytes → Bool
  | c :: d :: _ =>
    c == Byte.lt && (Byte.isLetter d || d == Byte.slash || d == Byte.bang || d == Byte.question)
  | _ => false

def textRest : Bytes → Bytes
  | [] => []
  | c :: rest => if startsMarkup (c :: rest) then c :: rest else textRest rest

def isNameByte (c : UInt8) : Bool := !(Byte.isSpace c || c == Byte.slash || c == Byte.gt)

/-- Whether a byte other than the first belongs to an attribute key. -/
def isKeyByte (c : UInt8) : Bool := isNameByte c && c != Byte.eq

/-- Whether a byte belongs to a value without quotes. -/
def isBareByte (c : UInt8) : Bool := !(Byte.isSpace c || c == Byte.gt)

/-- The value behind a key, and the source behind it. A slash behind the key is passed over. -/
def readValue? (s : Bytes) : Option (Bytes × Bytes) :=
  match s.dropWhile Byte.isSpace with
  | [] => none
  | c :: rest =>
    if c = Byte.slash then some ([], rest)
    else if c = Byte.eq then
      match rest.dropWhile Byte.isSpace with
      | [] => none
      | q :: rest =>
        if q = Byte.gt then some ([], q :: rest)
        else if q = Byte.quote ∨ q = Byte.apostrophe then
          match rest.dropWhile (· != q) with
          | [] => none
          | _ :: behind => some (rest.takeWhile (· != q), behind)
        else
          match rest.dropWhile isBareByte with
          | [] => none
          | behind => some (q :: rest.takeWhile isBareByte, behind)
    else some ([], c :: rest)

theorem readValue?_suffix {s val rest : Bytes} (h : readValue? s = some (val, rest)) :
    rest <:+ s := by
  have hs := List.dropWhile_suffix (l := s) Byte.isSpace
  unfold readValue? at h
  split at h
  · cases h
  rename_i c t ht
  rw [ht] at hs
  have hct : t <:+ s := (List.suffix_cons c t).trans hs
  split at h
  · cases h; exact hct
  split at h
  · have htt := List.dropWhile_suffix (l := t) Byte.isSpace
    split at h
    · cases h
    rename_i q u hu
    rw [hu] at htt
    have hqu : u <:+ s := ((List.suffix_cons q u).trans htt).trans hct
    split at h
    · cases h; exact htt.trans hct
    split at h
    · have huu := List.dropWhile_suffix (l := u) (· != q)
      split at h
      · cases h
      rename_i hw
      rw [hw] at huu
      cases h
      exact ((List.suffix_cons _ _).trans huu).trans hqu
    · split at h
      · cases h
      cases h
      exact (List.dropWhile_suffix _).trans hqu
  · cases h; exact hs

def readAttrs? (s : Bytes) : Option (List (Bytes × Bytes) × Bytes) :=
  match _hs : s.dropWhile Byte.isSpace with
  | [] => none
  | c :: rest =>
    if c = Byte.gt then some ([], rest)
    else if c = Byte.slash then readAttrs? rest
    else
      match _hv : readValue? (rest.dropWhile isKeyByte) with
      | none => none
      | some (val, behind) =>
        (readAttrs? behind).map fun (attrs, last) =>
          ((c :: rest.takeWhile isKeyByte, val) :: attrs, last)
termination_by s.length
decreasing_by
  all_goals
    have h := (List.dropWhile_suffix (l := s) Byte.isSpace).length_le
    rw [_hs, List.length_cons] at h
  · omega
  · have h2 := (readValue?_suffix _hv).length_le
    have h3 := (List.dropWhile_suffix (l := rest) isKeyByte).length_le
    omega

/-- A tag name and the attributes as written, with the source behind the tag. -/
def readTag? (s : Bytes) : Option (Bytes × List (Bytes × Bytes) × Bytes) :=
  (readAttrs? (s.dropWhile isNameByte)).map fun (attrs, rest) =>
    (s.takeWhile isNameByte, attrs, rest)

def untilClose (s : Bytes) : Bytes × Bytes :=
  (s.takeWhile (· != Byte.gt), (s.dropWhile (· != Byte.gt)).drop 1)

/-- The data of a comment up to its first `-->` or `--!>`, and the source behind it. A beginning of
such an end is dropped where the source stops. -/
def commentSplit : Bytes → Bytes × Bytes
  | [] => ([], [])
  | c :: rest =>
    let s := c :: rest
    if s = [Byte.dash] ∨ s = [Byte.dash, Byte.dash] ∨ s = [Byte.dash, Byte.dash, Byte.bang] then
      ([], [])
    else if [Byte.dash, Byte.dash, Byte.gt].isPrefixOf s then ([], s.drop 3)
    else if [Byte.dash, Byte.dash, Byte.bang, Byte.gt].isPrefixOf s then ([], s.drop 4)
    else
      let (data, behind) := commentSplit rest
      (c :: data, behind)

/-- A comment from what follows `<!--`: a `>` or `->` right there ends it. -/
def readComment (s : Bytes) : Bytes × Bytes :=
  if [Byte.gt].isPrefixOf s then ([], s.drop 1)
  else if [Byte.dash, Byte.gt].isPrefixOf s then ([], s.drop 2)
  else commentSplit s

def doctypeWord : Bytes := "doctype"

def declaration (s : Bytes) : Token.Kind × Bytes :=
  -- fewer than two bytes are no keyword: what is left is a comment, a `>` included
  if s.length ≤ 1 then (.comment (decodeComment s), [])
  else if [Byte.dash, Byte.dash].isPrefixOf s then
    let (data, rest) := readComment (s.drop 2)
    (.comment (decodeComment data), rest)
  else if doctypeWord.isPrefixOf s.lower then
    let (data, rest) := untilClose ((s.drop doctypeWord.length).dropWhile Byte.isSpace)
    (.doctype (decodeText data), rest)
  else if s.lower.isPrefixOf doctypeWord then (.comment [], [])
  else
    let (data, rest) := untilClose s
    (.comment (decodeComment data), rest)

/-- Whether a byte may follow the name in the end tag of a raw element. -/
def endsRawName (c : UInt8) : Bool := Byte.isSpace c || c == Byte.slash || c == Byte.gt

/-- Whether the source continues with `name`, in any case, and a byte that ends a name. -/
def namesTag (name s : Bytes) : Bool :=
  name.isPrefixOf s.lower && (s.drop name.length).head?.any endsRawName

def startsRawEnd (name s : Bytes) : Bool :=
  [Byte.lt, Byte.slash].isPrefixOf s && namesTag name (s.drop 2)

def rawRest (name : Bytes) : Bytes → Bytes
  | [] => []
  | c :: rest => if startsRawEnd name (c :: rest) then c :: rest else rawRest name rest

/-- Where a script stands: in plain code, in a `<!--` section or in a `<script` inside one. The
sections count the dashes just read. -/
inductive ScriptState where
  | plain
  | escaped (dashes : Nat)
  | doubleEscaped (dashes : Nat)
deriving DecidableEq, Repr

def scriptName : Bytes := "script"

/-- How a script goes on: the next state and how many bytes behind the first one belong to the
same step. Where its end tag starts it does not go on. -/
def scriptStep (state : ScriptState) (c : UInt8) (rest : Bytes) : Option (ScriptState × Nat) :=
  let ends := startsRawEnd scriptName (c :: rest)
  match state with
  | .plain =>
    if ends then none
    else if [Byte.lt, Byte.bang, Byte.dash, Byte.dash].isPrefixOf (c :: rest) then
      some (.escaped 2, 3)
    else some (.plain, 0)
  | .escaped dashes =>
    if ends then none
    else if c = Byte.lt then
      if rest.head? = some Byte.slash then some (.escaped 0, 1)
      else if namesTag scriptName rest then some (.doubleEscaped 0, scriptName.length + 1)
      else if rest.head?.any Byte.isLetter then some (.escaped 0, 0)
      else some (.plain, 0)
    else if c = Byte.dash then some (.escaped (dashes + 1), 0)
    else if c = Byte.gt ∧ 2 ≤ dashes then some (.plain, 0)
    else some (.escaped 0, 0)
  | .doubleEscaped dashes =>
    -- this end tag closes the inner `<script`, not the element
    if ends then some (.escaped 0, scriptName.length + 2)
    else if c = Byte.dash then some (.doubleEscaped (dashes + 1), 0)
    else if c = Byte.gt ∧ 2 ≤ dashes then some (.plain, 0)
    else some (.doubleEscaped 0, 0)

/-- The source behind the content of a script: its end tag, or nothing. The first `skip` bytes have
been recognised already. -/
def scriptRest : ScriptState → Nat → Bytes → Bytes
  | _, _, [] => []
  | state, skip + 1, _ :: rest => scriptRest state skip rest
  | state, 0, c :: rest =>
    match scriptStep state c rest with
    | none => c :: rest
    | some (next, skip) => scriptRest next skip rest

def contentRest : RawElement → Bytes → Bytes
  | .plaintext, _ => []
  | .script, s => scriptRest .plain 0 s
  | element, s => rawRest element.name s

def slice (s rest : Bytes) : Bytes := s.take (s.length - rest.length)

def endsWithSlash (raw : Bytes) : Bool := raw.dropLast.getLast? == some Byte.slash

/-- The attributes of a tag with keys in lower case and decoded values. -/
def decodeAttrs (attrs : List (Bytes × Bytes)) : List Attr :=
  attrs.map fun (key, val) => { key := key.lower, val := decodeValue val }

/-- What `<` and a letter start; `name` begins with the letter. -/
def openTag? (s : Bytes) : Option (Token.Kind × Bytes) :=
  (readTag? (s.drop 1)).map fun (name, attrs, rest) =>
    if endsWithSlash (slice s rest) then (.selfClosing name.lower (decodeAttrs attrs), rest)
    else (.startTag name.lower (decodeAttrs attrs), rest)

def closeTag? : Bytes → Option (Token.Kind × Bytes)
  | [] => some (.text (decodeText [Byte.lt, Byte.slash]), [])
  | c :: rest =>
    if c = Byte.gt then some (.comment [], rest)
    else if Byte.isLetter c then
      (readTag? (c :: rest)).map fun (name, _, behind) => (.endTag name.lower, behind)
    else
      let (data, behind) := untilClose (c :: rest)
      some (.comment (decodeComment data), behind)

/-- What a markup start begins: the kind of the token and the source behind it. A tag cut by the
end of the source is none. -/
def markup? (s : Bytes) : Option (Token.Kind × Bytes) :=
  match s with
  | _ :: d :: rest =>
    if d = Byte.slash then closeTag? rest
    else if d = Byte.bang then some (declaration rest)
    else if d = Byte.question then
      let (data, behind) := untilClose (d :: rest)
      some (.comment (decodeComment data), behind)
    else openTag? s
  | _ => none

/-- The outcome of reading at one place of the source. -/
inductive Step where
  | token (t : Token) (rest : Bytes)
  | finished (tail : Bytes)

def scanMarkup (s : Bytes) : Step :=
  match s with
  | [] => .finished []
  | _ :: _ =>
    if startsMarkup s then
      match markup? s with
      | some (kind, rest) => .token { raw := slice s rest, kind := kind } rest
      | none => .finished s
    else
      let raw := slice s (textRest s)
      .token { raw := raw, kind := .text (decodeText raw) } (textRest s)

/-- The next token. The content of a raw element is one text, if it is not empty. -/
def scan (mode : Mode) (s : Bytes) : Step :=
  match mode with
  | .markup => scanMarkup s
  | .raw element =>
    let raw := slice s (contentRest element s)
    if raw.isEmpty then scanMarkup s
    else .token { raw := raw, kind := .text (decodeRaw element raw) } (contentRest element s)

end Graft.Markup
