import BucketClock.Journal

/-!
Outages: which calls on a store fail. The source of failures has a state of its
own and is asked about every call in turn; a failing call may take effect before
it fails.
-/

namespace BucketClock

/-- What a failing call did before it failed. A save may also lose the commitments of the
bucket it was handed; for every other call `emptied` is no effect. -/
inductive Effect where
  | none
  | applied
  | emptied
  deriving DecidableEq, Repr

structure Failure where
  error : TrackError
  effect : Effect := .none
  deriving DecidableEq, Repr

class Outage (φ : Type) where
  meet : φ → StoreCall → Option Failure × φ

/-- A store that never fails. -/
instance : Outage Unit := ⟨fun s _ => (none, s)⟩

/-! ## Planned failures -/

inductive CallKind where
  | get
  | save
  | assign
  | remove
  deriving DecidableEq, Repr

def StoreCall.kind : StoreCall → CallKind
  | .get _ => .get
  | .save _ => .save
  | .assign _ => .assign
  | .remove _ => .remove

def StoreCall.id : StoreCall → Nat
  | .get id | .save id | .assign id | .remove id => id

/-- A failure of `count` calls of one kind, after the first `skip` of them; it may concern one
bucket only. -/
structure PlannedFailure where
  kind : CallKind
  id : Option Nat := none
  skip : Nat := 0
  count : Nat := 1
  failure : Failure
  deriving DecidableEq, Repr

def PlannedFailure.concerns (p : PlannedFailure) (c : StoreCall) : Bool :=
  p.kind = c.kind && (p.id.isNone || p.id = some c.id) && p.count ≠ 0

/-- The first planned failure that has a say and nothing left to skip makes the call fail. -/
def meetPlan : List PlannedFailure → StoreCall → Option Failure × List PlannedFailure
  | [], _ => (none, [])
  | p :: ps, c =>
    if p.concerns c then
      if p.skip = 0 then (some p.failure, { p with count := p.count - 1 } :: ps)
      else
        let r := meetPlan ps c
        (r.1, { p with skip := p.skip - 1 } :: r.2)
    else
      let r := meetPlan ps c
      (r.1, p :: r.2)

instance : Outage (List PlannedFailure) := ⟨meetPlan⟩

end BucketClock
