import BucketClock.Audit
import BucketClock.Timeline

/-!
Tracks. A track owns a clock (`position`), the number of commitments still in
flight (`pending`), a timeline of buckets and the store they are kept in. What
failed and has to be tried again waits on the track: rollovers in `stranded`,
removals of drained buckets in `stale`.
-/

namespace BucketClock

structure Counters where
  frames : Nat := 0
  deliveredItems : Nat := 0
  scheduled : Nat := 0
  rollovers : Nat := 0
  rolloverFailures : Nat := 0
  retired : Nat := 0
  deriving DecidableEq, Repr

/-- `stamp` is the wall-clock reading given to audit entries; its owner sets it. -/
structure Track (α φ : Type) where
  name : String := "track"
  timeline : Timeline α
  store : Store α φ
  position : Nat := 0
  horizon : Nat := 0
  pending : Nat := 0
  frameWidth : Nat := defaultFrameWidth
  increment : Nat := 1
  counters : Counters := {}
  stranded : List (Commitment α) := []
  stale : List Nat := []
  audit : Option AuditTrail := none
  stamp : Nat := 0
  frameWidth_pos : 0 < frameWidth := by decide
  increment_pos : 0 < increment := by decide

structure TrackStats where
  position : Nat
  pending : Nat
  horizon : Nat
  frames : Nat
  deliveredItems : Nat
  scheduled : Nat
  rollovers : Nat
  rolloverFailures : Nat
  stranded : Nat
  retired : Nat
  deriving DecidableEq, Repr

namespace Track

variable {α φ : Type}

def ofTimeline (timeline : Timeline α) (store : Store α φ) : Track α φ :=
  { timeline := timeline, store := store }

/-- A track whose missing buckets are empty. -/
def ofStore (store : Store α φ) : Track α φ := ofTimeline .empty store

/-! ## Settings -/

def withName (name : String) (t : Track α φ) : Track α φ := { t with name := name }

/-- Sets how many items a frame draws from every commitment, at least one. -/
def withFrameWidth (width : Nat) (t : Track α φ) : Track α φ :=
  { t with frameWidth := max width 1, frameWidth_pos := by omega }

/-- Sets the rollover step of commitments without a policy, at least one. -/
def withIncrement (increment : Nat) (t : Track α φ) : Track α φ :=
  { t with increment := max increment 1, increment_pos := by omega }

def withAudit (trail : AuditTrail) (t : Track α φ) : Track α φ := { t with audit := some trail }

/-! ## Views -/

def stats (t : Track α φ) : TrackStats where
  position := t.position
  pending := t.pending
  horizon := t.horizon
  frames := t.counters.frames
  deliveredItems := t.counters.deliveredItems
  scheduled := t.counters.scheduled
  rollovers := t.counters.rollovers
  rolloverFailures := t.counters.rolloverFailures
  stranded := t.stranded.length
  retired := t.counters.retired

def isEmpty (t : Track α φ) : Bool := t.store.isEmpty

/-- Whether a rollover or a removal waits to be tried again. -/
def hasDeferredWork (t : Track α φ) : Bool := !t.stranded.isEmpty || !t.stale.isEmpty

def describe (t : Track α φ) : String :=
  Text.describeRecord "Track"
    [("name", Text.quoted t.name), ("position", Text.describeNat t.position),
     ("pending", Text.describeNat t.pending), ("horizon", Text.describeNat t.horizon),
     ("stranded", Text.describeNat t.stranded.length),
     ("frame_width", Text.describeNat t.frameWidth),
     ("timeline", t.timeline.window.describe)] true

/-! ## Steps shared by scheduling and ticking -/

/-- Adds an audit entry, if the track keeps a trail. -/
def record (action : AuditAction) (id : Option Nat) (bucket : Nat) (payload : Option String)
    (t : Track α φ) : Track α φ :=
  let entry : AuditEntry := ⟨t.name, action, id, bucket, t.position, t.stamp, payload⟩
  { t with audit := t.audit.map (·.record entry) }

variable [Outage φ]

/-- Files a commitment in the bucket of its delivery time and counts it: as scheduled if it is
full, as rolled over if it is not. A commit that fails counts nothing. -/
def place (e : Commitment α) (t : Track α φ) :
    Outcome (Track α φ) (Except (Store.Refusal α) Unit) :=
  let bucket := e.deliveryTime
  let o := t.store.commit t.timeline.factory e
  let t := { t with store := o.state }
  match o.value with
  | .error refusal => ⟨.error refusal, t, o.notes⟩
  | .ok id =>
    let c := t.counters
    if e.phase = .full then
      let t := { t with
        pending := t.pending + 1
        counters := { c with scheduled := c.scheduled + 1 }
        horizon := max t.horizon bucket }
      ⟨.ok (), t.record .schedule id bucket none, o.notes ++ [.logged (.scheduled t.name id bucket)]⟩
    else
      let t := { t with
        counters := { c with rollovers := c.rollovers + 1 }
        horizon := max t.horizon bucket }
      ⟨.ok (), t.record .rollover id bucket none,
        o.notes ++ [.logged (.rolledOver t.name id bucket)]⟩

/-- Accepts a commitment. A full one that asks for the current bucket or an earlier one is moved
to the next; an exhausted one is refused. -/
def schedule (e : Commitment α) (t : Track α φ) : Outcome (Track α φ) (Except TrackError Unit) :=
  let file (e : Commitment α) : Outcome (Track α φ) (Except TrackError Unit) :=
    let o := t.place e
    ⟨o.value.mapError (·.error), o.state, o.notes⟩
  match e.phase with
  | .exhausted => ⟨.error (.exhausted e.id), t, []⟩
  | .notEmpty => file e
  | .full =>
    if e.deliveryTime ≤ t.position then
      (file (e.retarget (Index.next t.position))).after
        [.logged (.requestClamped t.name e.deliveryTime t.position)]
    else file e

end Track
end BucketClock
