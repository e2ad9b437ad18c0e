import Graft.Proofs.Extend.Finished

/-!
# Graft.Proofs.Extend.Interchanged

Two resolutions side by side, whose sources may differ beside their templates or may be padded
differently. They ask for the same paths, and they fail in the same way or not at all.

* `Alike`: two results that are both failures or both not.
* `Interchangeable`: two components that a descendant cannot tell apart.
* `ResolvedAlike`: what two levels resolve to.
* `mergeInto_alike`: merging one level.
* `Follows.alike`, `resolve_alike`: all levels.
* `code_alike`: two transforms.
-/

namespace Graft.Extend

open Markup

variable {σ ε : Type}

/-- Two results that are both failures or both not. -/
inductive Alike {α α' β β' : Type} (failed : α → α' → Prop) (done : β → β' → Prop) :
    Except α β → Except α' β' → Prop where
  | error {e : α} {e' : α'} (h : failed e e') : Alike failed done (.error e) (.error e')
  | ok {x : β} {x' : β'} (h : done x x') : Alike failed done (.ok x) (.ok x')

section

variable {α α' β β' : Type} {failed : α → α' → Prop} {done : β → β' → Prop} {x : Except α β}
  {x' : Except α' β'}

theorem Alike.exists_error (h : Alike failed done x x') {e : α} (hx : x = .error e) :
    ∃ e', x' = .error e' ∧ failed e e' := by
  cases h with
  | error h => cases hx; exact ⟨_, rfl, h⟩
  | ok => cases hx

theorem Alike.exists_ok (h : Alike failed done x x') {y : β} (hx : x = .ok y) :
    ∃ y', x' = .ok y' ∧ done y y' := by
  cases h with
  | error => cases hx
  | ok h => cases hx; exact ⟨_, rfl, h⟩

theorem Alike.imp {failed' : α → α' → Prop} {done' : β → β' → Prop} (h : Alike failed done x x')
    (he : ∀ e e', failed e e' → failed' e e') (hd : ∀ y y', done y y' → done' y y') :
    Alike failed' done' x x' := by
  cases h with
  | error h => exact .error (he _ _ h)
  | ok h => exact .ok (hd _ _ h)

end

/-- Failures that need not have anything in common. -/
abbrev Anyhow {α α' : Type} (_ : α) (_ : α') : Prop := True

def SameKind (e e' : ChainError ε) : Prop := e.kind = e'.kind

/-! ## Components -/

/-- A merged level can be read with the blocks of one component exactly if it can be read with those
of the other. -/
def RereadAlike (a a' : Auxiliary) : Prop :=
  ∀ ⦃forest : List Node⦄ ⦃body : Bytes⦄,
    (∀ node ∈ forest, Shaped (fun _ => True) RawData node) → render forest = .ok body →
      ((∃ c, Component.parse .none (assemble marker body a) = .ok c) ↔
        ∃ c', Component.parse .none (assemble marker body a') = .ok c')

/-- Two components that a descendant cannot tell apart. -/
structure Interchangeable (c c' : Component) : Prop where
  base : c.template.extends? = c'.template.extends?
  content : c.template.content = c'.template.content
  reread : RereadAlike c.auxiliary c'.auxiliary

theorem Interchangeable.refl (c : Component) : Interchangeable c c :=
  ⟨rfl, rfl, fun _ _ _ _ => Iff.rfl⟩

/-- Two sources that are read as interchangeable components, or not at all. -/
def SourceAlike (pad pad' : Padding) (source source' : Bytes) : Prop :=
  Alike Anyhow Interchangeable (Component.parse pad source) (Component.parse pad' source')

/-- Files that answer alike, in the same states. -/
def FilesAlike (pad pad' : Padding) (files files' : Files σ ε) : Prop :=
  ∀ path state, (files.ask path state).2 = (files'.ask path state).2 ∧
    Alike Anyhow (SourceAlike pad pad') (files.ask path state).1 (files'.ask path state).1

theorem SourceAlike.refl (pad : Padding) (source : Bytes) : SourceAlike pad pad source source := by
  unfold SourceAlike
  cases Component.parse pad source with
  | error e => exact .error trivial
  | ok c => exact .ok (.refl c)

/-! ## One level -/

/-- What two levels resolve to: to themselves, or to one tree with the blocks of each. -/
inductive ResolvedAlike (pad pad' : Padding) (source source' : Bytes) : Bytes → Bytes → Prop where
  | last {c c' : Component} (hc : Component.parse pad source = .ok c)
      (hc' : Component.parse pad' source' = .ok c') (ht : c.template.extends? = none) :
      ResolvedAlike pad pad' source source' source source'
  | merged {c c' : Component} {forest : List Node} {body : Bytes}
      (hc : Component.parse pad source = .ok c) (hc' : Component.parse pad' source' = .ok c')
      (ht : c.template.extends? ≠ none)
      (hs : ∀ node ∈ forest, Shaped (fun _ => True) RawData node) (hr : render forest = .ok body) :
      ResolvedAlike pad pad' source source'
        (assemble marker body c.auxiliary) (assemble marker body c'.auxiliary)

/-- Texts that the next level reads with the same template, or not at all. -/
def TemplateAlike (text text' : Bytes) : Prop :=
  Alike Anyhow (fun c c' : Component => c.template.content = c'.template.content)
    (Component.parse .none text) (Component.parse .none text')

section

variable {pad pad' : Padding} {source source' : Bytes}

theorem ResolvedAlike.templateAlike {text text' : Bytes}
    (h : ResolvedAlike pad pad' source source' text text')
    (hsame : SourceAlike pad pad' source source') : TemplateAlike text text' := by
  unfold TemplateAlike
  cases h with
  | @last c c' hc hc' =>
    obtain ⟨other, hother, hinter⟩ := hsame.exists_ok hc
    obtain rfl : other = c' := Except.ok.inj (hother.symm.trans hc')
    obtain ⟨r, hr⟩ := exists_parse hc .none
    obtain ⟨r', hr'⟩ := exists_parse hc' .none
    rw [hr, hr']
    exact .ok (by rw [template_eq hr hc, template_eq hr' hc', hinter.content])
  | @merged c c' forest body hc hc' _ hs hr =>
    obtain ⟨other, hother, hinter⟩ := hsame.exists_ok hc
    obtain rfl : other = c' := Except.ok.inj (hother.symm.trans hc')
    have hiff := hinter.reread hs hr
    cases h : Component.parse .none (assemble marker body c.auxiliary) with
    | ok r =>
      obtain ⟨r', h'⟩ := hiff.1 ⟨r, h⟩
      rw [h']
      exact .ok (by
        rw [(template_of_parse_merged hs hr h).2, (template_of_parse_merged hs hr h').2])
    | error e =>
      cases h' : Component.parse .none (assemble marker body other.auxiliary) with
      | ok r' =>
        obtain ⟨r, hread⟩ := hiff.2 ⟨r', h'⟩
        rw [h] at hread
        cases hread
      | error e' => exact .error trivial

theorem merge_alike {child child' base base' : Component}
    (hchild : child.template.content = child'.template.content)
    (hbase : base.template.content = base'.template.content) :
    Alike Eq (fun text text' => ∃ all forest body,
        overrides (Markup.parse child.template.content) = .ok all ∧
        splice all (Markup.parse base.template.content) = .ok forest ∧ render forest = .ok body ∧
        text = assemble marker body child.auxiliary ∧ text' = assemble marker body child'.auxiliary)
      (merge child base) (merge child' base') := by
  unfold merge
  rw [← hchild, ← hbase]
  split
  · exact .error rfl
  rename_i all hall
  split
  · exact .error rfl
  rename_i forest hforest
  split
  · exact .error rfl
  rename_i body hbody
  exact .ok ⟨all, forest, body, hall, hforest, hbody, rfl, rfl⟩

theorem mergeInto_alike {c c' : Component} {out out' : Except (ChainError ε) Bytes} {target : Bytes}
    (hc : Component.parse pad source = .ok c) (hc' : Component.parse pad' source' = .ok c')
    (hinter : Interchangeable c c') (ht : c.template.extends? = some target)
    (h : Alike SameKind TemplateAlike out out') (isEntry : Bool) (path base : Bytes) :
    Alike SameKind (ResolvedAlike pad pad' source source')
      (mergeInto isEntry path base c out) (mergeInto isEntry path base c' out') := by
  cases h with
  | error hk => exact .error hk
  | @ok text text' h =>
    rw [mergeInto, mergeInto]
    cases hnext : Component.parse .none text with
    | error e =>
      obtain ⟨e', hnext', _⟩ := h.exists_error hnext
      rw [hnext']
      exact .error rfl
    | ok next =>
      obtain ⟨next', hnext', hcontent⟩ := h.exists_ok hnext
      have hmerge := merge_alike hinter.content hcontent
      rw [hnext']
      dsimp only
      cases hm : merge c next with
      | error e =>
        obtain ⟨_, hm', rfl⟩ := hmerge.exists_error hm
        rw [hm']
        exact .error rfl
      | ok merged =>
        obtain ⟨_, hm', all, forest, body, hall, hforest, hrender, rfl, rfl⟩ := hmerge.exists_ok hm
        have htree : TemplateTree forest := .spliced (.parsed hnext) (.parsed hc) hall hforest
        rw [hm']
        exact .ok (.merged hc hc' (by simp [ht]) htree.shaped hrender)

end

/-! ## All levels -/

section

variable {pad pad' : Padding} {depth : Nat} {files files' : Files σ ε}

theorem FilesAlike.missing (h : FilesAlike pad pad' files files') {path : Bytes} {state next : σ}
    {e : ε} (hask : files.ask path state = (.error e, next)) :
    ∃ e', files'.ask path state = (.error e', next) := by
  obtain ⟨hstate, halike⟩ := h path state
  rw [hask] at hstate halike
  obtain ⟨e', he', _⟩ := halike.exists_error rfl
  exact ⟨e', Prod.ext he' hstate.symm⟩

theorem FilesAlike.found (h : FilesAlike pad pad' files files') {path data : Bytes} {state next : σ}
    (hask : files.ask path state = (.ok data, next)) :
    ∃ data', files'.ask path state = (.ok data', next) ∧ SourceAlike pad pad' data data' := by
  obtain ⟨hstate, halike⟩ := h path state
  rw [hask] at hstate halike
  obtain ⟨data', hdata', hsource⟩ := halike.exists_ok rfl
  exact ⟨data', Prod.ext hdata' hstate.symm, hsource⟩

theorem Follows.alike (hfiles : FilesAlike pad pad' files files') {levels : Nat} {isEntry : Bool}
    {path source : Bytes} {walk walk' : Walk σ} {out : Except (ChainError ε) Bytes}
    (h : Follows files ⟨depth, pad⟩ levels isEntry path source walk out walk') :
    ∀ {source'}, SourceAlike pad pad' source source' → ∃ out',
      Follows files' ⟨depth, pad'⟩ levels isEntry path source' walk out' walk' ∧
        Alike SameKind (ResolvedAlike pad pad' source source') out out' := by
  -- the second resolution takes the constructor of the first one, level by level
  induction h with
  | malformed hp =>
    intro source' hsame
    obtain ⟨e', hp', _⟩ := hsame.exists_error hp
    exact ⟨_, .malformed hp', .error (by rw [SameKind, kind_source, kind_source])⟩
  | last hp ht =>
    intro source' hsame
    obtain ⟨c', hp', hinter⟩ := hsame.exists_ok hp
    exact ⟨_, .last hp' (hinter.base ▸ ht), .ok (.last hp hp' ht)⟩
  | tooDeep hp ht =>
    intro source' hsame
    obtain ⟨c', hp', hinter⟩ := hsame.exists_ok hp
    exact ⟨_, .tooDeep hp' (hinter.base ▸ ht), .error rfl⟩
  | circular hp ht hs =>
    intro source' hsame
    obtain ⟨c', hp', hinter⟩ := hsame.exists_ok hp
    exact ⟨_, .circular hp' (hinter.base ▸ ht) hs, .error rfl⟩
  | missing hp ht hs hr =>
    intro source' hsame
    obtain ⟨c', hp', hinter⟩ := hsame.exists_ok hp
    obtain ⟨e', hr'⟩ := hfiles.missing hr
    exact ⟨_, .missing hp' (hinter.base ▸ ht) hs hr', .error rfl⟩
  | followed hp ht hs hr _ ih =>
    intro source' hsame
    obtain ⟨c', hp', hinter⟩ := hsame.exists_ok hp
    obtain ⟨data', hr', hdata⟩ := hfiles.found hr
    obtain ⟨out', hfollows, halike⟩ := ih hdata
    refine ⟨_, .followed hp' (hinter.base ▸ ht) hs hr' hfollows, ?_⟩
    have hbelow := halike.imp (fun _ _ => id) fun _ _ hresolved => hresolved.templateAlike hdata
    exact mergeInto_alike hp hp' hinter ht hbelow _ _ _

/-- Two resolutions ask for the same paths and come to the same, up to the blocks of the entry. -/
theorem resolve_alike (hfiles : FilesAlike pad pad' files files') {source source' : Bytes}
    (hsame : SourceAlike pad pad' source source') (depth : Nat) (path : Bytes) (state : σ) :
    (resolve files ⟨depth, pad⟩ path source state).2 =
        (resolve files' ⟨depth, pad'⟩ path source' state).2 ∧
      Alike SameKind (ResolvedAlike pad pad' source source')
        (resolve files ⟨depth, pad⟩ path source state).1
        (resolve files' ⟨depth, pad'⟩ path source' state).1 := by
  obtain ⟨out', hfollows, halike⟩ :=
    (follows_resolve files ⟨depth, pad⟩ path source state).alike hfiles hsame
  have heq : resolve files' ⟨depth, pad'⟩ path source' state = (out', _) := hfollows.eq
  rw [heq]
  exact ⟨rfl, halike⟩

/-- Two transforms come to the same if what they resolve to is finished alike. -/
theorem code_alike {opts opts' : Options} {path source source' : Bytes} {state state' : σ}
    {resolved done : Bytes → Bytes → Prop}
    (h : Alike SameKind resolved (resolve files opts path source state).1
      (resolve files' opts' path source' state').1)
    (hf : ∀ text text', resolved text text' →
      Alike SameKind done (finalize (ε := ε) text) (finalize (ε := ε) text')) :
    Alike SameKind done (transform files opts path source state).code
      (transform files' opts' path source' state').code := by
  rw [transform_code, transform_code]
  cases hresolve : (resolve files opts path source state).1 with
  | error e =>
    obtain ⟨e', hresolve', hkind⟩ := h.exists_error hresolve
    rw [hresolve']
    exact .error hkind
  | ok text =>
    obtain ⟨text', hresolve', hresolved⟩ := h.exists_ok hresolve
    rw [hresolve']
    exact hf text text' hresolved

end

end Graft.Extend
