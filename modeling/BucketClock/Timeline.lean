import BucketClock.Store.Basic
import BucketClock.Window

/-!
Timelines: the window over the buckets of a track. A bucket that the store does
not hold is made by the factory of the timeline.
-/

namespace BucketClock

structure Timeline (α : Type) where
  window : Window Slot
  factory : Nat → Bucket α

namespace Timeline

variable {α φ : Type} [Outage φ]

/-- A timeline with nothing at hand that makes empty buckets. -/
def empty : Timeline α := ⟨.ofList [], .empty⟩

def take (limit : Nat) (t : Timeline α) (s : Store α φ) :
    Outcome (Timeline α × Store α φ) (Except TrackError (List Slot)) :=
  let o := t.window.take (fun id s => s.fetch t.factory id) limit s
  ⟨o.value, ({ t with window := o.state.1 }, o.state.2), o.notes⟩

end Timeline
end BucketClock
