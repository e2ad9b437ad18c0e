import Graft.Text.Utf8

/-!
# Graft.Text.Escaped

Strings of JSON as logs and reports write them: quotes, backslashes and controls are escaped, and
everything else stands as it is.

* `Escaped.control`: the escape of a control byte.
* `Escaped.plain`: a string in which ill-formed bytes stay.
* `Escaped.scrubbed`: a string in which an ill-formed byte becomes the escape of U+FFFD.
-/

namespace Graft.Escaped

/-- The escape of a byte that may not stand in a string. -/
def control? (c : UInt8) : Option Bytes :=
  if c = Byte.quote then some "\\\""
  else if c = Byte.backslash then some "\\\\"
  else if c = Byte.lf then some "\\n"
  else if c = Byte.cr then some "\\r"
  else if c = Byte.tab then some "\\t"
  else if c < 0x20 then some ("\\u00" ++ Byte.hex c)
  else none

def byte (c : UInt8) : Bytes := (control? c).getD [c]

def plainBody (s : Bytes) : Bytes := s.flatMap byte

def plain (s : Bytes) : Bytes := "\"" ++ plainBody s ++ "\""

/-- The inside of a string, with the escape of U+FFFD for each ill-formed byte. -/
def scrubbedBody (s : Bytes) : Bytes :=
  (Utf8.pieces s).flatMap fun
    | .char c => (Utf8.encode c).flatMap byte
    | .illFormed _ => "\\ufffd"

def scrubbed (s : Bytes) : Bytes := "\"" ++ scrubbedBody s ++ "\""

end Graft.Escaped
