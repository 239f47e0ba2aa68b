import BucketClock.Track.Tick

/-!
Driving a track. A loop ticks the track while there is work and hands every item
of a frame to a handler; an item the handler rejects is counted and reported, and
the rest of its frame is still delivered. The direct loop ticks at once, a ticker
waits for its interval before every tick.

A loop ends because every frame uses up room of the timeline.
-/

namespace BucketClock

/-- What a loop did: frames produced, items accepted, items rejected. -/
structure DriveReport where
  frames : Nat := 0
  delivered : Nat := 0
  failed : Nat := 0
  deriving DecidableEq, Repr

/-- A consumer with a state of its own, told the bucket an item comes from. -/
abbrev Handler (σ α : Type) := Nat → α → σ → Except Incident Unit × σ

namespace DriveReport

variable {α σ : Type}

def recordItem (bucket : Nat) (result : Except Incident Unit) (r : DriveReport) :
    Outcome DriveReport Unit :=
  match result with
  | .ok () => ⟨(), { r with delivered := r.delivered + 1 }, []⟩
  | .error i => ⟨(), { r with failed := r.failed + 1 }, [.logged (.itemFailed bucket i)]⟩

def dispatchItems (h : Handler σ α) (bucket : Nat) :
    List α → DriveReport → σ → Outcome (DriveReport × σ) Unit
  | [], r, s => ⟨(), (r, s), []⟩
  | x :: xs, r, s =>
    let handled := h bucket x s
    let counted := r.recordItem bucket handled.1
    (dispatchItems h bucket xs counted.state handled.2).after counted.notes

def dispatchFrame (h : Handler σ α) (bucket : Nat) (frame : List α) (r : DriveReport) (s : σ) :
    Outcome (DriveReport × σ) Unit :=
  dispatchItems h bucket frame { r with frames := r.frames + 1 } s

def atCap (cap : Option Nat) (r : DriveReport) : Bool := cap.any (· ≤ r.frames)

end DriveReport

namespace Track

variable {α φ σ : Type}

def hasWork (t : Track α φ) : Bool := !t.isEmpty || t.hasDeferredWork

def finish (loop : Loop) (r : DriveReport) (t : Track α φ) (s : σ) (notes : List Note) :
    Outcome (Track α φ × σ) (Except TrackError DriveReport) :=
  ⟨.ok r, (t, s), notes ++ [.logged (.finished loop t.name r.frames r.delivered r.failed)]⟩

variable [Outage φ]

/-- The direct loop, from a report on. -/
def driveFrom (h : Handler σ α) (cap : Option Nat) (r : DriveReport) (t : Track α φ) (s : σ) :
    Outcome (Track α φ × σ) (Except TrackError DriveReport) :=
  if t.hasWork then
    if r.atCap cap then t.finish .direct r s [.logged (.capReached t.name r.frames)]
    else
      match hframe : t.nextFrame.value with
      | .error e => ⟨.error e, (t.nextFrame.state, s), t.nextFrame.notes⟩
      | .ok none =>
        t.nextFrame.state.finish .direct r s
          (t.nextFrame.notes ++ [.logged (.nothingPending t.nextFrame.state.name)])
      | .ok (some frame) =>
        let d := r.dispatchFrame h t.position frame s
        (driveFrom h cap d.state.1 t.nextFrame.state d.state.2).after (t.nextFrame.notes ++ d.notes)
  else t.finish .direct r s []
termination_by t.room
decreasing_by exact room_lt_of_nextFrame hframe

/-- Ticks until the store is empty with no deferred work, nothing is pending, or the cap on the
frames is reached. -/
def drive (h : Handler σ α) (cap : Option Nat) (t : Track α φ) (s : σ) :
    Outcome (Track α φ × σ) (Except TrackError DriveReport) :=
  t.driveFrom h cap {} s

end Track

/-- A loop that ticks once in every `period` milliseconds. -/
structure Ticker where
  period : Nat
  cap : Option Nat := none
  deriving DecidableEq, Repr

namespace Ticker

variable {α φ σ : Type} [Outage φ]

/-- The ticking loop, from a report on. The wait before each tick changes nothing. -/
def runFrom (k : Ticker) (h : Handler σ α) (r : DriveReport) (t : Track α φ) (s : σ) :
    Outcome (Track α φ × σ) (Except TrackError DriveReport) :=
  if t.hasWork then
    if r.atCap k.cap then t.finish .ticking r s []
    else
      match _h : t.nextFrame.value with
      | .error e => ⟨.error e, (t.nextFrame.state, s), t.nextFrame.notes⟩
      | .ok none => t.nextFrame.state.finish .ticking r s t.nextFrame.notes
      | .ok (some frame) =>
        let d := r.dispatchFrame h t.position frame s
        (runFrom k h d.state.1 t.nextFrame.state d.state.2).after (t.nextFrame.notes ++ d.notes)
  else t.finish .ticking r s []
termination_by t.room
decreasing_by exact Track.room_lt_of_nextFrame ‹_›

/-- Runs the ticking loop; there is no interval of length zero. -/
def run (k : Ticker) (h : Handler σ α) (t : Track α φ) (s : σ) :
    Option (Outcome (Track α φ × σ) (Except TrackError DriveReport)) :=
  if k.period = 0 then none else some (k.runFrom h {} t s)

end Ticker
end BucketClock
