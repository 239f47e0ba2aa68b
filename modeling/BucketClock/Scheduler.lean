import BucketClock.Track.Drive

/-!
Schedulers: the owner of one track, through which a workflow submits and ticks.
-/

namespace BucketClock

structure Scheduler (α φ : Type) where
  track : Track α φ

namespace Scheduler

variable {α φ σ : Type}

def describe (s : Scheduler α φ) : String :=
  Text.describeRecord "Scheduler" [("track", s.track.describe)] false

variable [Outage φ]

def submit (e : Commitment α) (s : Scheduler α φ) :
    Outcome (Scheduler α φ) (Except TrackError Unit) :=
  let o := s.track.schedule e
  ⟨o.value, ⟨o.state⟩, o.notes⟩

/-- Schedules one item for delivery `delay` buckets from now under an identity drawn by the
caller, and answers with that identity. -/
def submitAfter (delay : Nat) (item : α) (identity : Nat) (s : Scheduler α φ) :
    Outcome (Scheduler α φ) (Except TrackError Nat) :=
  let bucket := Index.add s.track.position delay
  let o := s.submit { deliveryTime := bucket, supply := .single item, id := some identity }
  ⟨o.value.map fun _ => identity, o.state, o.notes⟩

def tick (s : Scheduler α φ) : Outcome (Scheduler α φ) (Except TrackError (Option (List α))) :=
  let o := s.track.nextFrame
  ⟨o.value, ⟨o.state⟩, o.notes⟩

def run (h : Handler σ α) (s : Scheduler α φ) (handlerState : σ) :
    Outcome (Scheduler α φ × σ) (Except TrackError DriveReport) :=
  let o := s.track.drive h none handlerState
  ⟨o.value, (⟨o.state.1⟩, o.state.2), o.notes⟩

end Scheduler
end BucketClock
