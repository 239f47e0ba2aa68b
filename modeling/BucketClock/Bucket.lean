import BucketClock.Commitment

/-!
Buckets: the commitments filed under one position of a track, in the order they
were filed. Delivering draws one slice from every commitment, so a second
delivery continues where the first one stopped.
-/

namespace BucketClock

structure Bucket (α : Type) where
  id : Nat
  events : List (Commitment α) := []

/-- Items drawn from every commitment of a frame unless a track is set otherwise. -/
def defaultFrameWidth : Nat := 1

namespace Bucket

variable {α : Type}

def empty (id : Nat) : Bucket α := { id := id }

def commit (e : Commitment α) (b : Bucket α) : Bucket α := { b with events := b.events ++ [e] }

def retractLast (b : Bucket α) : Option (Commitment α) × Bucket α :=
  (b.events.getLast?, { b with events := b.events.dropLast })

def isEmpty (b : Bucket α) : Bool := b.events.isEmpty

def eventIds (b : Bucket α) : List (Option Nat) := b.events.map (·.id)

/-- One slice for every commitment in the list. -/
def drawEach (width : Nat) : List (Commitment α) → Outcome (List (Commitment α)) (List (List α))
  | [] => ⟨[], [], []⟩
  | e :: es =>
    let o := e.draw width
    let r := drawEach width es
    ⟨o.value :: r.value, o.state :: r.state, o.notes ++ r.notes⟩

/-- The slices of all commitments in the list as one sequence. -/
def drawFlat (width : Nat) : List (Commitment α) → Outcome (List (Commitment α)) (List α)
  | [] => ⟨[], [], []⟩
  | e :: es =>
    let o := e.draw width
    let r := drawFlat width es
    ⟨o.value ++ r.value, o.state :: r.state, o.notes ++ r.notes⟩

def deliverPerEvent (width : Nat) (b : Bucket α) : Outcome (Bucket α) (List (List α)) :=
  let o := drawEach width b.events
  ⟨o.value, { b with events := o.state }, o.notes⟩

def deliverWith (width : Nat) (b : Bucket α) : Outcome (Bucket α) (List α) :=
  let o := drawFlat width b.events
  ⟨o.value, { b with events := o.state }, o.notes⟩

def deliver (b : Bucket α) : Outcome (Bucket α) (List (List α)) :=
  b.deliverPerEvent defaultFrameWidth

def deliverFlat (b : Bucket α) : Outcome (Bucket α) (List α) := b.deliverWith defaultFrameWidth

def takeEvents (b : Bucket α) : List (Commitment α) × Bucket α := (b.events, { b with events := [] })

def describe (b : Bucket α) : String :=
  Text.describeRecord "Cart"
    [("id", Text.describeNat b.id), ("events", Text.describeNat b.events.length)] false

end Bucket
end BucketClock
