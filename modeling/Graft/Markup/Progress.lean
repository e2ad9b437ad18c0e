import Graft.Markup.Scan

/-!
# Graft.Markup.Progress

Every reader leaves a tail of its source, so a token's slice and the source behind it are the
source it was read from, and each token takes at least one byte.

* `slice_append`: a slice and the tail it was cut at.
* `readAttrs?_suffix`, `declaration_suffix`, `markup?_suffix`: one lemma per reader.
* `scan_append`, `scan_raw_ne_nil`, `scan_length`: what reading a token leaves.
-/

namespace Graft.Markup

theorem slice_append {s rest : Bytes} (h : rest <:+ s) : slice s rest ++ rest = s := by
  obtain ⟨front, rfl⟩ := h
  simp [slice]

theorem textRest_suffix (s : Bytes) : textRest s <:+ s := by
  induction s with
  | nil => exact List.suffix_refl _
  | cons c rest ih =>
    unfold textRest
    split
    · exact List.suffix_refl _
    · exact ih.trans (List.suffix_cons c rest)

theorem readAttrs?_suffix (s : Bytes) :
    ∀ {attrs : List (Bytes × Bytes)} {rest : Bytes},
      readAttrs? s = some (attrs, rest) → rest <:+ s := by
  fun_induction readAttrs? s with
  | case1 => intro attrs rest h; cases h
  | case2 s t hs =>
    intro attrs rest h
    cases h
    exact (List.suffix_cons _ _).trans (hs ▸ List.dropWhile_suffix Byte.isSpace)
  | case3 s t hs _ ih =>
    intro attrs rest h
    exact (ih h).trans ((List.suffix_cons _ _).trans (hs ▸ List.dropWhile_suffix Byte.isSpace))
  | case4 => intro attrs rest h; cases h
  | case5 s c t hs _ _ val behind hv ih =>
    intro attrs rest h
    obtain ⟨⟨more, last⟩, hm, he⟩ := Option.map_eq_some_iff.1 h
    cases he
    exact (ih hm).trans ((readValue?_suffix hv).trans ((List.dropWhile_suffix isKeyByte).trans
      ((List.suffix_cons _ _).trans (hs ▸ List.dropWhile_suffix Byte.isSpace))))

theorem readTag?_suffix {s name rest : Bytes} {attrs : List (Bytes × Bytes)}
    (h : readTag? s = some (name, attrs, rest)) : rest <:+ s := by
  obtain ⟨⟨attrs', rest'⟩, hr, he⟩ := Option.map_eq_some_iff.1 h
  cases he
  exact (readAttrs?_suffix _ hr).trans (List.dropWhile_suffix isNameByte)

theorem untilClose_suffix (s : Bytes) : (untilClose s).2 <:+ s :=
  (List.drop_suffix _ _).trans (List.dropWhile_suffix _)

theorem commentSplit_suffix (s : Bytes) : (commentSplit s).2 <:+ s := by
  induction s with
  | nil => exact List.suffix_refl _
  | cons c rest ih =>
    unfold commentSplit
    dsimp only
    split
    · exact List.nil_suffix
    split
    · exact List.drop_suffix _ _
    split
    · exact List.drop_suffix _ _
    · exact ih.trans (List.suffix_cons c rest)

theorem readComment_suffix (s : Bytes) : (readComment s).2 <:+ s := by
  unfold readComment
  split
  · exact List.drop_suffix _ _
  split
  · exact List.drop_suffix _ _
  · exact commentSplit_suffix s

theorem declaration_suffix (s : Bytes) : (declaration s).2 <:+ s := by
  unfold declaration
  split
  · exact List.nil_suffix
  split
  · exact (readComment_suffix _).trans (List.drop_suffix _ _)
  split
  · exact (untilClose_suffix _).trans ((List.dropWhile_suffix _).trans (List.drop_suffix _ _))
  split
  · exact List.nil_suffix
  · exact untilClose_suffix s

theorem rawRest_suffix (name s : Bytes) : rawRest name s <:+ s := by
  induction s with
  | nil => exact List.suffix_refl _
  | cons c rest ih =>
    unfold rawRest
    split
    · exact List.suffix_refl _
    · exact ih.trans (List.suffix_cons c rest)

theorem scriptRest_suffix (state : ScriptState) (skip : Nat) (s : Bytes) :
    scriptRest state skip s <:+ s := by
  fun_induction scriptRest state skip s with
  | case1 => exact List.suffix_refl _
  | case2 _ _ c rest ih => exact ih.trans (List.suffix_cons c rest)
  | case3 => exact List.suffix_refl _
  | case4 _ c rest _ _ _ ih => exact ih.trans (List.suffix_cons c rest)

theorem contentRest_suffix (element : RawElement) (s : Bytes) : contentRest element s <:+ s := by
  cases element <;>
    first
      | exact List.nil_suffix
      | exact scriptRest_suffix _ _ _
      | exact rawRest_suffix _ _

theorem closeTag?_suffix {s rest : Bytes} {kind : Token.Kind}
    (h : closeTag? s = some (kind, rest)) : rest <:+ s := by
  unfold closeTag? at h
  split at h
  · cases h; exact List.suffix_refl _
  rename_i c t
  split at h
  · cases h; exact List.suffix_cons _ _
  split at h
  · obtain ⟨⟨name, attrs, behind⟩, hr, he⟩ := Option.map_eq_some_iff.1 h
    cases he
    exact readTag?_suffix hr
  · cases h; exact untilClose_suffix _

theorem openTag?_suffix {s rest : Bytes} {kind : Token.Kind}
    (h : openTag? s = some (kind, rest)) : rest <:+ s.drop 1 := by
  obtain ⟨⟨name, attrs, behind⟩, hr, he⟩ := Option.map_eq_some_iff.1 h
  dsimp only at he
  split at he <;> cases he <;> exact readTag?_suffix hr

theorem markup?_suffix {s rest : Bytes} {kind : Token.Kind}
    (h : markup? s = some (kind, rest)) : rest <:+ s.drop 1 := by
  unfold markup? at h
  split at h
  · rename_i c d t
    have hd : t <:+ (c :: d :: t).drop 1 := List.suffix_cons d t
    split at h
    · exact (closeTag?_suffix h).trans hd
    split at h
    · have he := Option.some.inj h
      exact (congrArg Prod.snd he ▸ declaration_suffix t).trans hd
    split at h
    · cases h; exact untilClose_suffix _
    · exact openTag?_suffix h
  · cases h

/-- The slice of a token and the source behind it are the source it was read from. -/
theorem scanMarkup_append {s rest : Bytes} {t : Token} (h : scanMarkup s = .token t rest) :
    t.raw ++ rest = s := by
  unfold scanMarkup at h
  split at h
  · cases h
  split at h
  · split at h
    · rename_i hm
      cases h
      exact slice_append ((markup?_suffix hm).trans (List.drop_suffix _ _))
    · cases h
  · cases h; exact slice_append (textRest_suffix _)

theorem scanMarkup_length {s rest : Bytes} {t : Token} (h : scanMarkup s = .token t rest) :
    rest.length < s.length := by
  unfold scanMarkup at h
  split at h
  · cases h
  rename_i c cs
  split at h
  · split at h
    · rename_i hm
      cases h
      have := (markup?_suffix hm).length_le
      simp only [List.drop_succ_cons, List.drop_zero] at this
      simp only [List.length_cons]
      omega
    · cases h
  · rename_i hn
    cases h
    rw [textRest, if_neg hn]
    have := (textRest_suffix cs).length_le
    simp only [List.length_cons]
    omega

/-- The slice of a token and the source behind it are the source it was read from. -/
theorem scan_append {mode : Mode} {s rest : Bytes} {t : Token} (h : scan mode s = .token t rest) :
    t.raw ++ rest = s := by
  unfold scan at h
  split at h
  · exact scanMarkup_append h
  dsimp only at h
  split at h
  · exact scanMarkup_append h
  · cases h; exact slice_append (contentRest_suffix _ _)

/-- The source behind a token is shorter. -/
theorem scan_length {mode : Mode} {s rest : Bytes} {t : Token} (h : scan mode s = .token t rest) :
    rest.length < s.length := by
  unfold scan at h
  split at h
  · exact scanMarkup_length h
  rename_i element
  dsimp only at h
  split at h
  · exact scanMarkup_length h
  · rename_i hne
    cases h
    have happ := congrArg List.length (slice_append (contentRest_suffix element s))
    rw [List.length_append] at happ
    cases hr : slice s (contentRest element s) with
    | nil => rw [hr] at hne; exact absurd rfl hne
    | cons _ _ => rw [hr, List.length_cons] at happ; omega

theorem scan_raw_ne_nil {mode : Mode} {s rest : Bytes} {t : Token}
    (h : scan mode s = .token t rest) : t.raw ≠ [] := by
  intro hnil
  have happ := scan_append h
  have hlen := scan_length h
  rw [hnil, List.nil_append] at happ
  rw [happ] at hlen
  exact Nat.lt_irrefl _ hlen

end Graft.Markup
