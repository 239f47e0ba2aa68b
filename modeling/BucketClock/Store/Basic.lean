import BucketClock.Bucket
import BucketClock.Store.Outage
import BucketClock.Store.Shelf
import Std.Data.TreeMap

/-!
The bucket store. Buckets live in slots and the shelf says which slot is stored
under which bucket id. Whoever holds a slot sees every change made to its
bucket, whether it is still stored or not.

`lookup`, `put`, `erase` and `identify` are the store itself; `get`, `save`,
`assign` and `remove` are the same calls where an outage may make them fail.
-/

namespace BucketClock

abbrev Slot := Nat

/-- `nextSlot` is the slot for the next bucket that is made, `nextId` the identity for the next
commitment without one. -/
structure Store (α φ : Type) where
  buckets : Std.TreeMap Slot (Bucket α) := {}
  nextSlot : Slot := 0
  shelf : Shelf Slot := {}
  nextId : Nat := 1
  outage : φ

namespace Store

variable {α φ : Type}

def empty (outage : φ) : Store α φ := { outage := outage }

/-! ## The store itself -/

def bucket (slot : Slot) (s : Store α φ) : Bucket α := s.buckets.getD slot (.empty 0)

def update (slot : Slot) (b : Bucket α) (s : Store α φ) : Store α φ :=
  { s with buckets := s.buckets.insert slot b }

/-- Gives a bucket a slot of its own, without storing it. -/
def make (b : Bucket α) (s : Store α φ) : Slot × Store α φ :=
  (s.nextSlot, { s.update s.nextSlot b with nextSlot := s.nextSlot + 1 })

def lookup (id : Nat) (s : Store α φ) : Option Slot := s.shelf.find? id

/-- Stores a slot under the id of its bucket. -/
def put (slot : Slot) (s : Store α φ) : Store α φ :=
  { s with shelf := s.shelf.insert (s.bucket slot).id slot }

def erase (id : Nat) (s : Store α φ) : Store α φ := { s with shelf := s.shelf.erase id }

def identify (e : Commitment α) (s : Store α φ) : Commitment α × Store α φ :=
  match e.id with
  | some _ => (e, s)
  | none => (e.withId s.nextId, { s with nextId := s.nextId + 1 })

def add (b : Bucket α) (s : Store α φ) : Store α φ :=
  let m := s.make b
  m.2.put m.1

def isEmpty (s : Store α φ) : Bool := s.shelf.isEmpty

def bucketIds (s : Store α φ) : List Nat := s.shelf.keys

/-- The stored buckets with the ids they are stored under, ascending. -/
def stored (s : Store α φ) : List (Nat × Bucket α) :=
  s.shelf.entries.map fun e => (e.1, s.bucket e.2)

def describe (s : Store α φ) : String :=
  Text.describeRecord "InMemoryRepository"
    [("buckets", Text.describeNat s.bucketIds.length)] true

theorem bucket_update (slot i : Slot) (b : Bucket α) (s : Store α φ) :
    (s.update slot b).bucket i = if slot = i then b else s.bucket i := by
  simp [bucket, update, Std.TreeMap.getD_insert]

theorem bucket_make (b : Bucket α) (i : Slot) (s : Store α φ) :
    (s.make b).2.bucket i = if s.nextSlot = i then b else s.bucket i :=
  bucket_update s.nextSlot i b s

/-! ## Calls that may fail -/

variable [Outage φ]

def get (id : Nat) (s : Store α φ) : Outcome (Store α φ) (Except TrackError (Option Slot)) :=
  let m := Outage.meet s.outage (.get id)
  let s := { s with outage := m.2 }
  match m.1 with
  | some f => ⟨.error f.error, s, [.called (.get id) .failed]⟩
  | none =>
    let found := s.lookup id
    ⟨.ok found, s, [.called (.get id) (if found.isSome then .hit else .miss)]⟩

def save (slot : Slot) (s : Store α φ) : Outcome (Store α φ) (Except TrackError Unit) :=
  let b := s.bucket slot
  let m := Outage.meet s.outage (.save b.id)
  let s := { s with outage := m.2 }
  match m.1 with
  | some f =>
    let left := match f.effect with
      | .none => s
      | .applied => s.put slot
      | .emptied => s.update slot b.takeEvents.2
    ⟨.error f.error, left, [.called (.save b.id) .failed]⟩
  | none => ⟨.ok (), s.put slot, [.called (.save b.id) .done]⟩

def assign (e : Commitment α) (s : Store α φ) :
    Outcome (Commitment α × Store α φ) (Except TrackError Unit) :=
  let m := Outage.meet s.outage (.assign e.deliveryTime)
  let s := { s with outage := m.2 }
  match m.1 with
  | some f =>
    ⟨.error f.error, if f.effect = .applied then s.identify e else (e, s),
      [.called (.assign e.deliveryTime) .failed]⟩
  | none => ⟨.ok (), s.identify e, [.called (.assign e.deliveryTime) .done]⟩

def remove (id : Nat) (s : Store α φ) : Outcome (Store α φ) (Except TrackError Unit) :=
  let m := Outage.meet s.outage (.remove id)
  let s := { s with outage := m.2 }
  match m.1 with
  | some f =>
    ⟨.error f.error, if f.effect = .applied then s.erase id else s,
      [.called (.remove id) .failed]⟩
  | none => ⟨.ok (), s.erase id, [.called (.remove id) .done]⟩

/-! ## Filing a commitment -/

/-- The slot stored under an id, or a new one that the factory fills. -/
def fetch (factory : Nat → Bucket α) (id : Nat) (s : Store α φ) :
    Outcome (Store α φ) (Except TrackError Slot) :=
  let o := s.get id
  match o.value with
  | .error e => ⟨.error e, o.state, o.notes⟩
  | .ok (some slot) => ⟨.ok slot, o.state, o.notes⟩
  | .ok none =>
    let m := o.state.make (factory id)
    ⟨.ok m.1, m.2, o.notes⟩

/-- A commit that failed, with the commitment if it was handed back. -/
structure Refusal (α : Type) where
  error : TrackError
  event : Option (Commitment α)

/-- Files a commitment in the bucket of its delivery time and saves the bucket. If the save
fails the commitment that was filed last is withdrawn again. -/
def commit (factory : Nat → Bucket α) (e : Commitment α) (s : Store α φ) :
    Outcome (Store α φ) (Except (Refusal α) (Option Nat)) :=
  let fetched := s.fetch factory e.deliveryTime
  match fetched.value with
  | .error err => ⟨.error ⟨err, some e⟩, fetched.state, fetched.notes⟩
  | .ok slot =>
    let assigned := fetched.state.assign e
    let e := assigned.state.1
    let s := assigned.state.2
    let notes := fetched.notes ++ assigned.notes
    match assigned.value with
    | .error err => ⟨.error ⟨err, some e⟩, s, notes⟩
    | .ok () =>
      let saved := (s.update slot ((s.bucket slot).commit e)).save slot
      let notes := notes ++ saved.notes
      match saved.value with
      | .ok () => ⟨.ok e.id, saved.state, notes⟩
      | .error err =>
        let withdrawn := (saved.state.bucket slot).retractLast
        ⟨.error ⟨err, withdrawn.1⟩, saved.state.update slot withdrawn.2, notes⟩

end Store
end BucketClock
