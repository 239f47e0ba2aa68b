import BucketClock.Outcome

/-!
Supplies: items handed out in order, a bounded slice at a time, until none is
left. The items are at hand from the start, or a supplier brings them when the
first slice is drawn; a supply may declare its size ahead of its supplier.
-/

namespace BucketClock

inductive Phase where
  | full
  | notEmpty
  | exhausted
  deriving DecidableEq, Repr

def Phase.name : Phase → String
  | .full => "full"
  | .notEmpty => "not_empty"
  | .exhausted => "exhausted"

def Phase.describe : Phase → String
  | .full => "Full"
  | .notEmpty => "NotEmpty"
  | .exhausted => "Exhausted"

/-- `buffer` holds the items at hand that were not drawn yet; `supplier` holds what a supplier
that did not run yet would bring. -/
structure Supply (α : Type) where
  size : Option Nat
  position : Nat := 0
  buffer : List α := []
  supplier : Option (List α) := none
  phase : Phase

namespace Supply

variable {α : Type}

/-- A supply nobody drew from. One known to hold nothing is exhausted at once. -/
def fresh (size : Option Nat) (buffer : List α) (supplier : Option (List α)) : Supply α where
  size := size
  buffer := buffer
  supplier := supplier
  phase := if size = some 0 then .exhausted else .full

def ofList (items : List α) : Supply α := fresh (some items.length) items none

def single (item : α) : Supply α := ofList [item]

/-- A supply of declared size whose items a supplier brings. -/
def lazy (size : Nat) (items : List α) : Supply α := fresh (some size) [] (some items)

/-- A supply whose size is unknown until its supplier runs. -/
def deferred (items : List α) : Supply α := fresh none [] (some items)

/-- Runs the supplier if there is one. Where it brings fewer items than declared the size
shrinks, and where it brings more the rest is dropped. -/
def materialize (s : Supply α) : Outcome (Supply α) Unit :=
  match s.supplier with
  | none => ⟨(), { s with phase := .notEmpty }, []⟩
  | some items =>
    let size := min (s.size.getD items.length) items.length
    let mismatch := match s.size with
      | some declared =>
        if declared ≠ items.length then [.logged (.supplyMismatch declared items.length)] else []
      | none => []
    ⟨(), { s with size := some size, buffer := items.take size, supplier := none,
                  phase := .notEmpty },
      .supplied items.length :: mismatch⟩

def take (s : Supply α) (limit : Nat) : Outcome (Supply α) (List α) :=
  let o := if s.phase = .full then s.materialize else ⟨(), s, []⟩
  let m := o.state
  let size := m.size.getD 0
  let stop := min (Index.add m.position limit) size
  let count := stop - m.position
  ⟨m.buffer.take count,
    { m with position := stop, buffer := m.buffer.drop count,
             phase := if stop ≥ size then .exhausted else m.phase },
    o.notes⟩

def isExhausted (s : Supply α) : Bool := s.phase = .exhausted

def remaining (s : Supply α) : Option Nat := s.size.map (· - s.position)

def describe (s : Supply α) : String :=
  Text.describeRecord "Resource"
    [("size", Text.describeOption Text.describeNat s.size),
     ("position", Text.describeNat s.position),
     ("buffered", Text.describeNat s.buffer.length),
     ("state", s.phase.describe)] false

end Supply
end BucketClock
