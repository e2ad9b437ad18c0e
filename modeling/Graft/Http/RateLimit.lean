import Graft.Text.Bytes

/-!
# Graft.Http.RateLimit

A limit on the requests of each client: a bucket of tokens that fills at a steady rate, and one
token for each request.

* `RateLimit`: the rate and the size of a bucket.
* `RateLimit.Bucket.take?`: a bucket after a request, if it had a token.
* `RateLimit.allow`: whether a request of a client is admitted, and the buckets after it.
-/

namespace Graft

/-- How many tokens a bucket gains each second, and how many it holds. -/
structure RateLimit where
  perSecond : Int
  burst : Int
deriving DecidableEq, Repr

namespace RateLimit

def scale : Int := 1000000000

/-- The tokens of a client at the time of its last request, in nanoseconds. -/
structure Bucket where
  tokens : Int
  last : Nat
deriving DecidableEq, Repr

def full (l : RateLimit) (now : Nat) : Bucket := ⟨l.burst * scale, now⟩

def Bucket.tokensAt (l : RateLimit) (now : Nat) (b : Bucket) : Int :=
  let gained := max 0 l.perSecond * (now - b.last : Nat)
  min (l.burst * scale) (b.tokens + gained)

def Bucket.take? (l : RateLimit) (now : Nat) (b : Bucket) : Option Bucket :=
  let tokens := b.tokensAt l now
  if scale ≤ tokens then some ⟨tokens - scale, now⟩ else none

abbrev Buckets := List (Bytes × Bucket)

def Buckets.put (client : Bytes) (b : Bucket) (all : Buckets) : Buckets :=
  (client, b) :: all.filter fun entry => entry.1 != client

def allow (l : RateLimit) (now : Nat) (client : Bytes) (all : Buckets) : Bool × Buckets :=
  let bucket := (all.lookup client).getD (l.full now)
  match bucket.take? l now with
  | some rest => (true, all.put client rest)
  -- a refused request leaves the time of the last admitted one: what was gained since is not lost
  | none => (false, all.put client bucket)

end RateLimit

end Graft
