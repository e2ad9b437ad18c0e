import Graft.Proofs.Component.Template
import Graft.Proofs.Markup.Ended

/-!
# Graft.Proofs.Component.TemplateTokens

The content of a template is read twice: as a part of its source, and alone. Both times the same
tokens are found.

* `TokenType`, `SameToken`: what two tokens have in common.
* `ReadAlone`: a content and the tokens it is read as in its source.
* `PairRun.readAlone`: a template.
* `template_readAlone`: the theorem.
-/

namespace Graft

open Markup

namespace Markup

inductive TokenType where
  | text
  | comment
  | doctype
  | startTag
  | selfClosing
  | endTag
deriving DecidableEq

def Token.Kind.type : Token.Kind → TokenType
  | .text _ => .text
  | .comment _ => .comment
  | .doctype _ => .doctype
  | .startTag _ _ => .startTag
  | .selfClosing _ _ => .selfClosing
  | .endTag _ => .endTag

/-- The same slice, the same type, and the same way to read on. -/
structure SameToken (t t' : Token) : Prop where
  raw : t'.raw = t.raw
  type : t'.kind.type = t.kind.type
  mode : t'.mode = t.mode

/-- A text read alone, where `inner` is what it is read as in front of an end tag. -/
structure ReadAlone (s : Bytes) (inner : List Token) : Prop where
  spelled : s = slices inner
  same : List.Forall₂ SameToken inner (tokens s)
  tail : tail s = []
  /-- Even the data is the same, but for a `<!>` at the very end. -/
  reread : RereadAll [] inner (tokens s)
  raws : ∀ front t behind element, tokens s = front ++ t :: behind → t.mode = .raw element →
    EndedRaw element behind
  comments : ∀ t ∈ tokens s, ∀ data, t.kind = .comment data → EndedComment t.raw

theorem sameTokens_refl (ts : List Token) : List.Forall₂ SameToken ts ts := by
  induction ts with
  | nil => exact .nil
  | cons t ts ih => exact .cons ⟨rfl, rfl, rfl⟩ ih

theorem RereadAll.sameTokens {y : Bytes} {ts ts' : List Token} (h : RereadAll y ts ts') :
    List.Forall₂ SameToken ts ts' := by
  rcases h with rfl | ⟨_, front, rfl, rfl⟩
  · exact sameTokens_refl ts'
  · induction front with
    | nil => exact .cons ⟨rfl, rfl, rfl⟩ .nil
    | cons t front ih => exact .cons ⟨rfl, rfl, rfl⟩ ih

end Markup

theorem PairRun.readAlone {start stop : Token} {inner : List Token}
    (h : PairRun start inner stop BlockType.template) : ReadAlone (slices inner) inner := by
  obtain ⟨hsteps, hall⟩ := h.reread
  refine ⟨rfl, hall.sameTokens, ?_, hall, ?_, ?_⟩
  · have hslices := slices_tokens (slices inner)
    have happ := hsteps.append
    rw [List.append_nil] at happ
    rw [happ] at hslices
    exact List.append_right_eq_self.1 hslices
  · intro front t behind element hsplit hmode
    exact hsteps.endedRaw h.not_endsInRaw_alone hsplit hmode
  · intro t ht data hk
    have hne := h.closeTag.append_ne_nil h.behind
    rcases hall with hsame | ⟨_, front, hinner, hread⟩
    · rw [hsame] at ht
      exact h.steps.endedComment hne ht hk
    · rw [hread] at ht
      rcases List.mem_append.1 ht with ht | ht
      · have hmem : t ∈ inner := by rw [hinner]; exact List.mem_append_left _ ht
        exact h.steps.endedComment hne hmem hk
      · rw [List.mem_singleton.1 ht]
        exact @EndedComment.other [Byte.lt, Byte.bang] (by decide) (by decide)

/-- An accepted source has one part that is its template. Where an end tag closes it, the tokens of
its content read alone are those that stand between its tags in the source: they have the same
slices, the same types and the same modes behind them, nothing is left behind the last one, and even
the data is the same, but for a `<!>` at the very end. Every raw element and every comment that the
content opens it also ends. -/
theorem template_readAlone {pad : Padding} {source : Bytes} {c : Component}
    (h : Component.parse pad source = .ok c) :
    ∃ parts, Factors parts (tokens source) ∧ ∃ part ∈ parts, part.block? = some c.template ∧
      ∀ start inner stop, part = .pair start inner stop → ReadAlone c.template.content inner := by
  obtain ⟨parts, hparts, part, hpart, hblock⟩ := exists_part_of_template h
  refine ⟨parts, hparts, part, hpart, hblock, ?_⟩
  rintro start inner stop rfl
  obtain ⟨_, _, hdist, _⟩ := parse_ok_iff.1 h
  have htype : c.template.type = BlockType.template := hdist.placed.1
  obtain ⟨s, s', hsteps⟩ := hparts.exists_steps hpart
  obtain ⟨name, ⟨run⟩⟩ := exists_pairRun (hparts.wellFormed _ hpart) hsteps
  have hname : name = BlockType.template := by
    rw [← htype, ← Option.some.inj hblock, ← run.openTag.tagName]
  subst hname
  rw [← Option.some.inj hblock]
  exact run.readAlone

/-- A title with a tag in its text, a comment with a `>`, and the comment that reads differently at
the end. -/
def cutContent : Bytes := "<title>a<b></title><!-- > --><p>x</p><!>"

def cutTokens : List Token :=
  [⟨"<title>", .startTag "title" []⟩, ⟨"a<b>", .text "a<b>"⟩, ⟨"</title>", .endTag "title"⟩,
    ⟨"<!-- > -->", .comment " > "⟩, ⟨"<p>", .startTag "p" []⟩, ⟨"x", .text "x"⟩,
    ⟨"</p>", .endTag "p"⟩, ⟨"<!>", .comment []⟩]

theorem template_readAlone_cut :
    Component.parse .none ("<template>" ++ cutContent ++ "</template>") =
        .ok ⟨⟨"template", [], cutContent⟩, ⟨none, [], []⟩⟩ ∧
      ReadAlone cutContent cutTokens ∧ tokens cutContent ≠ cutTokens := by
  have hparse : Component.parse .none ("<template>" ++ cutContent ++ "</template>") =
      .ok ⟨⟨"template", [], cutContent⟩, ⟨none, [], []⟩⟩ := by
    decide +kernel
  have hconcrete : Factors
      [.pair ⟨"<template>", .startTag "template" []⟩ cutTokens ⟨"</template>", .endTag "template"⟩]
      (tokens ("<template>" ++ cutContent ++ "</template>")) := by
    refine ⟨by decide +kernel, ?_⟩
    rw [List.forall_mem_singleton]
    refine ⟨⟨_, _, rfl⟩, ?_, by decide +kernel⟩
    simp only [Nested, cutTokens, nestedFrom_cons, nestedFrom_nil]
    decide +kernel
  obtain ⟨parts, hparts, part, hpart, _, hread⟩ := template_readAlone hparse
  rw [hparts.unique hconcrete, List.mem_singleton] at hpart
  exact ⟨hparse, hread _ _ _ hpart, by decide +kernel⟩

end Graft
