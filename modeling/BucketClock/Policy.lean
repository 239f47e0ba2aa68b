import BucketClock.Index

/-!
Reschedule policies: where a commitment goes next when a drain leaves items in
its supply. A policy of the caller's own may depend on every rollover it was
asked about before, so it is kept together with those.
-/

namespace BucketClock

/-- What a policy is told: whose rollover it is, the bucket just drained, the bucket the
commitment was filed in, and how many items are left if that is known. -/
structure Rollover where
  eventId : Option Nat
  position : Nat
  deliveryTime : Nat
  remaining : Option Nat
  deriving DecidableEq, Repr

/-- `every step` delivers again `step` buckets after the drained one, and at least one after it.
A rule of the caller's own sees the current rollover and the earlier ones, latest first. -/
inductive Policy where
  | every (step : Nat)
  | custom (rule : Rollover → List Rollover → Nat) (earlier : List Rollover)

namespace Policy

def pick (p : Policy) (r : Rollover) : Nat × Policy :=
  match p with
  | .every step => (Index.add r.position (max step 1), p)
  | .custom rule earlier => (rule r earlier, .custom rule (r :: earlier))

def ofRule (rule : Rollover → List Rollover → Nat) : Policy := .custom rule []

/-! ## Ready-made rules -/

/-- `n` buckets after the drained one. -/
def plus (n : Nat) : Policy := ofRule fun r _ => Index.add r.position n

/-- `n` buckets after the one the commitment was filed in. -/
def fromDelivery (n : Nat) : Policy := ofRule fun r _ => Index.add r.deliveryTime n

/-- `n` buckets after the drained one for every item left. -/
def byRemaining (n : Nat) : Policy :=
  ofRule fun r _ => Index.add r.position (Index.mul n (r.remaining.getD 0))

/-- The given buckets in turn; the last one repeats, and 0 stands for none at all. -/
def inTurn (targets : List Nat) : Policy :=
  ofRule fun _ earlier => targets.getD (min earlier.length (targets.length - 1)) 0

end Policy
end BucketClock
