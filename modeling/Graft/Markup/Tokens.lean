import Graft.Markup.Progress
import Graft.Markup.Spelling

/-!
# Graft.Markup.Tokens

The token sequence of a source. Only a start tag written in lower case turns to raw text: a
component called `Textarea` and a self-closed `textarea` have markup behind them.

* `Token.mode`: how the token behind this one is read.
* `tokens`: the tokens of a source.
* `tail`: what is left behind the last of them.
-/

namespace Graft.Markup

def Token.mode (t : Token) : Mode :=
  match t.kind with
  | .startTag name _ =>
    if spelledName t.raw name = name then
      match RawElement.ofName? name with
      | some element => .raw element
      | none => .markup
    else .markup
  | _ => .markup

/-- The tokens of a source that begins in a mode. -/
def tokensFrom (mode : Mode) (s : Bytes) : List Token :=
  match _h : scan mode s with
  | .finished _ => []
  | .token t rest => t :: tokensFrom t.mode rest
termination_by s.length
decreasing_by exact scan_length _h

/-- What is left of the source when no token follows. -/
def tailFrom (mode : Mode) (s : Bytes) : Bytes :=
  match _h : scan mode s with
  | .finished tail => tail
  | .token t rest => tailFrom t.mode rest
termination_by s.length
decreasing_by exact scan_length _h

def tokens (s : Bytes) : List Token := tokensFrom .markup s

def tail (s : Bytes) : Bytes := tailFrom .markup s

end Graft.Markup
