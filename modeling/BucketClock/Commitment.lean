import BucketClock.Supply

/-!
Commitments: a supply promised to a bucket. A commitment is full until it is
delivered from for the first time, and exhausted when its supply is.
-/

namespace BucketClock

/-- `mark` is a caller's own label: no operation reads it. -/
structure Commitment (α : Type) where
  id : Option Nat := none
  deliveryTime : Nat
  supply : Supply α
  phase : Phase := .full
  policy : Option Policy := none
  mark : Nat := 0

namespace Commitment

variable {α : Type}

def withId (id : Nat) (e : Commitment α) : Commitment α := { e with id := some id }

def withPolicy (p : Policy) (e : Commitment α) : Commitment α := { e with policy := some p }

def retarget (bucket : Nat) (e : Commitment α) : Commitment α := { e with deliveryTime := bucket }

def withPhase (phase : Phase) (e : Commitment α) : Commitment α := { e with phase := phase }

def draw (width : Nat) (e : Commitment α) : Outcome (Commitment α) (List α) :=
  let o := e.supply.take width
  ⟨o.value, { e with supply := o.state }, o.notes⟩

/-- The bucket to move to after `position` was drained: the answer of the policy, or the
increment where there is none. -/
def nextDelivery (position increment : Nat) (e : Commitment α) : Outcome (Commitment α) Nat :=
  let r : Rollover := ⟨e.id, position, e.deliveryTime, e.supply.remaining⟩
  match e.policy with
  | none => ⟨Index.add position increment, e, []⟩
  | some p =>
    let answer := p.pick r
    let readyMade := match p with
      | .every _ => true
      | .custom .. => false
    ⟨answer.1, { e with policy := some answer.2 }, [.consulted readyMade r]⟩

def describe (showId : ShowId) (e : Commitment α) : String :=
  Text.describeRecord "ScheduledEvent"
    [("id", Text.describeOption showId e.id),
     ("delivery_time", Text.describeNat e.deliveryTime),
     ("resource", e.supply.describe),
     ("state", e.phase.describe),
     ("on_reschedule", Text.describeBool e.policy.isSome)] false

end Commitment
end BucketClock
