import Graft.Extend.Kind
import Graft.Extend.Merge
import Graft.Path

/-!
# Graft.Extend.Chain

Following a component to its base, the base to its own base, and so on, and merging each level
into the one below it. Ancestors are read one at a time.

* `Files`: where sources are read from; reading and registering may change its state.
* `ChainError`: why a chain cannot be resolved.
* `Walk`: the paths met so far.
* `resolve`: the source a component resolves to, with the ancestors read.
-/

namespace Graft.Extend

structure Files (σ ε : Type) where
  read : Bytes → σ → Except ε Bytes × σ
  register : Bytes → σ → σ := fun _ state => state

inductive ChainError (ε : Type) where
  | merge (e : MergeError)
  | source (e : SourceError)
  | ancestor (path : Bytes) (e : ChainError ε)
  | missingBase (path child : Bytes) (e : ε)
  | circular (path base : Bytes)
  | tooDeep (path : Bytes) (levels : Nat)
  | reparse (e : SourceError)
  | render (e : Markup.RenderError)

namespace ChainError

variable {ε : Type}

/-- The causes of a failure, outermost first. -/
def causes : ChainError ε → List Cause
  | merge (.override _) => [.malformedSource]
  | merge .pointWithoutName => [.malformedAncestor]
  | merge (.render _) => []
  | source _ => [.malformedSource]
  | ancestor _ e => .malformedAncestor :: e.causes
  | missingBase _ _ _ => [.missingBase]
  | circular _ _ => [.circularExtends]
  | tooDeep _ _ => [.maxDepth]
  | reparse _ => [.malformedAncestor, .malformedSource]
  | render _ => []

def readError? : ChainError ε → Option ε
  | ancestor _ e => e.readError?
  | missingBase _ _ e => some e
  | _ => none

def kind (e : ChainError ε) : Kind := Kind.ofCauses e.causes

def message (describe : ε → Bytes) : ChainError ε → Bytes
  | merge (.override e) => e.message
  | merge .pointWithoutName =>
    Cause.malformedAncestor.text ++ ": <extension-point> without \"name\" attribute"
  | merge (.render e) => e.message
  | source e => e.message
  | ancestor path e =>
    Cause.malformedAncestor.text ++ ": " ++ path ++ ": " ++ e.message describe
  | missingBase path child e =>
    Cause.missingBase.text ++ ": " ++ path ++ " (extended by " ++ child ++ "): " ++ describe e
  | circular path base => Cause.circularExtends.text ++ ": " ++ path ++ " extends " ++ base ++ " again"
  | tooDeep path levels =>
    Cause.maxDepth.text ++ ": " ++ path ++ " exceeds " ++ Bytes.ofNat levels ++ " levels"
  | reparse e =>
    Cause.malformedAncestor.text ++ ": reparse resolved component: " ++ e.message
  | render e => e.message

end ChainError

def defaultDepth : Nat := 32

/-- How chains are followed. -/
structure Options where
  maxDepth : Nat
  padding : Padding

/-- A limit that is not positive stands for the default. -/
def Options.ofLimit (limit : Int) (padding : Padding) : Options :=
  ⟨if limit ≤ 0 then defaultDepth else limit.toNat, padding⟩

structure Walk (σ : Type) where
  seen : List Bytes
  chain : List Bytes
  state : σ

variable {σ ε : Type}

/-- A failure in the entry itself is reported as it is, one in an ancestor with its path. -/
def ChainError.atLevel (isEntry : Bool) (path : Bytes) (e : ChainError ε) : ChainError ε :=
  if isEntry then e else .ancestor path e

/-- Resolves the source found at a path; `levels` more ancestors may be followed. -/
def resolveLevel (files : Files σ ε) (opts : Options) :
    (levels : Nat) → (isEntry : Bool) → (path source : Bytes) → Walk σ →
      Except (ChainError ε) Bytes × Walk σ
  | levels, isEntry, path, source, walk =>
    match Component.parse opts.padding source with
    | .error e => (.error (.atLevel isEntry path (.source e)), walk)
    | .ok component =>
      match component.template.extends? with
      | none => (.ok source, walk)
      | some target =>
        -- the limit comes first: no base is looked up beyond it
        match levels with
        | 0 => (.error (.tooDeep path opts.maxDepth), walk)
        | levels + 1 =>
          let base := Path.base path target
          if walk.seen.contains base then (.error (.circular path base), walk)
          else
            let (data, state) := files.read base (files.register base walk.state)
            -- a base that cannot be read has been asked for as well
            let walk : Walk σ := ⟨base :: walk.seen, walk.chain ++ [base], state⟩
            match data with
            | .error e => (.error (.missingBase base path e), walk)
            | .ok data =>
              match resolveLevel files opts levels false base data walk with
              | (.error e, walk) => (.error e, walk)
              | (.ok resolved, walk) =>
                match Component.parse .none resolved with
                | .error e => (.error (.ancestor base (.source e)), walk)
                | .ok baseComponent =>
                  match Extend.merge component baseComponent with
                  | .error e => (.error (.atLevel isEntry path (.merge e)), walk)
                  | .ok merged => (.ok merged, walk)

/-- The walk of an entry before anything is read: the entry's own path may not be met again. -/
def Walk.start (path : Bytes) (state : σ) : Walk σ :=
  ⟨if path.isEmpty then [] else [Path.clean path], [], state⟩

/-- Resolves a source against its whole chain of bases. The walk lists the ancestors asked for,
whether or not the resolution succeeds. -/
def resolve (files : Files σ ε) (opts : Options) (path source : Bytes) (state : σ) :
    Except (ChainError ε) Bytes × Walk σ :=
  resolveLevel files opts opts.maxDepth true path source (.start path state)

end Graft.Extend
