import Graft.Markup.Token
import Graft.Markup.Scan
import Graft.Text.Fold

/-!
# Graft.Markup.Spelling

Tokens carry names and keys in lower case. Component names and bound attributes are told apart by
their case, so the spelling of the source is recovered from the slice of the token.

* `spelledName`: the name of a tag as written.
* `spelledKeys`: the attribute keys of a tag as written, read from its slice alone.
* `spelledAttrs`: the attributes of a tag with their keys as written.
-/

namespace Graft.Markup

/-- What follows `<` or `</` in the slice of a tag. -/
def tagBody (raw : Bytes) : Bytes :=
  let body := raw.drop 1
  if body.head? = some Byte.slash then body.drop 1 else body

def spelledName (raw lowered : Bytes) : Bytes :=
  let written := (tagBody raw).take lowered.length
  if written.length = lowered.length ∧ Fold.alike written lowered then written else lowered

def skipValue (s : Bytes) : Bytes :=
  match s.dropWhile Byte.isSpace with
  | [] => []
  | c :: rest =>
    if c = Byte.eq then
      match rest.dropWhile Byte.isSpace with
      | [] => []
      | q :: rest =>
        if q = Byte.quote ∨ q = Byte.apostrophe then (rest.dropWhile (· != q)).drop 1
        else (q :: rest).dropWhile isBareByte
    else c :: rest

theorem skipValue_suffix (s : Bytes) : skipValue s <:+ s := by
  have hs := List.dropWhile_suffix (l := s) Byte.isSpace
  unfold skipValue
  split
  · exact List.nil_suffix
  rename_i c t ht
  rw [ht] at hs
  split
  · have htt := List.dropWhile_suffix (l := t) Byte.isSpace
    have hct : t <:+ s := (List.suffix_cons c t).trans hs
    split
    · exact List.nil_suffix
    rename_i q u hu
    rw [hu] at htt
    split
    · exact ((List.drop_suffix _ _).trans (List.dropWhile_suffix _)).trans
        (((List.suffix_cons q u).trans htt).trans hct)
    · exact (List.dropWhile_suffix _).trans (htt.trans hct)
  · exact hs

def keysFrom (s : Bytes) : List Bytes :=
  match _hs : s.dropWhile (fun c => Byte.isSpace c || c == Byte.slash) with
  | [] => []
  | c :: rest =>
    if c = Byte.gt then []
    else (c :: rest.takeWhile isKeyByte) :: keysFrom (skipValue (rest.dropWhile isKeyByte))
termination_by s.length
decreasing_by
  have h := (List.dropWhile_suffix (l := s) (fun c => Byte.isSpace c || c == Byte.slash)).length_le
  rw [_hs, List.length_cons] at h
  have h2 := (skipValue_suffix (rest.dropWhile isKeyByte)).length_le
  have h3 := (List.dropWhile_suffix (l := rest) isKeyByte).length_le
  omega

def spelledKeys (raw : Bytes) : List Bytes := keysFrom ((raw.drop 1).dropWhile isNameByte)

/-- A key as written, if it is the given key up to case. -/
def respell (written : Bytes) (attr : Attr) : Attr :=
  if Fold.alike written attr.key then { attr with key := written } else attr

def spelledAttrs (raw : Bytes) (attrs : List Attr) : List Attr :=
  let keys := spelledKeys raw
  if keys.length = attrs.length then List.zipWith respell keys attrs else attrs

end Graft.Markup
