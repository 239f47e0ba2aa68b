import BucketClock.Track.Basic

/-!
Ticks. A tick retries what waits on the track, takes the bucket at the current
position from the timeline, draws one slice from each of its commitments,
retires the exhausted ones, files the others in a later bucket, removes the
drained bucket and moves the clock on by one.

Main statement: a tick that yields a frame moves the window of the timeline
forward, so a loop over ticks ends.
-/

namespace BucketClock.Track

variable {α φ : Type} [Outage φ]

/-- Files a commitment again. If that fails it is held on the track, or lost if the store kept
nothing of it. -/
def rollOver (e : Commitment α) (t : Track α φ) : Outcome (Track α φ) Unit :=
  let o := t.place e
  match o.value with
  | .ok () => ⟨(), o.state, o.notes⟩
  | .error refusal =>
    let c := o.state.counters
    let t := { o.state with counters := { c with rolloverFailures := c.rolloverFailures + 1 } }
    match refusal.event with
    | some e =>
      ⟨(), { t with stranded := t.stranded ++ [e] },
        o.notes ++ [.logged (.held t.name e.id e.deliveryTime refusal.error)]⟩
    | none =>
      ⟨(), { t with pending := t.pending - 1 }, o.notes ++ [.logged (.lost t.name refusal.error)]⟩

/-- Removes a drained bucket from the store, or remembers to. -/
def removeBucket (id : Nat) (t : Track α φ) : Outcome (Track α φ) Unit :=
  let o := t.store.remove id
  let t := { t with store := o.state }
  match o.value with
  | .ok () => ⟨(), t, o.notes⟩
  | .error e =>
    ⟨(), { t with stale := t.stale ++ [id] }, o.notes ++ [.logged (.removalFailed t.name id e)]⟩

/-- Tries a held commitment again, in its bucket or in the current one if that has passed. -/
def retry (e : Commitment α) (t : Track α φ) : Outcome (Track α φ) Unit :=
  t.rollOver (if e.deliveryTime < t.position then e.retarget t.position else e)

/-- Tries the waiting removals again, then the held commitments, each in order. -/
def retryDeferred (t : Track α φ) : Outcome (Track α φ) Unit :=
  let removed := Outcome.each removeBucket t.stale { t with stale := [] }
  let t := removed.state
  (Outcome.each retry t.stranded { t with stranded := [] }).after removed.notes

def takeBucket (t : Track α φ) : Outcome (Track α φ) (Except TrackError Slot) :=
  let o := t.timeline.take 1 t.store
  let t := { t with timeline := o.state.1, store := o.state.2 }
  match o.value with
  | .error e => ⟨.error e, t, o.notes⟩
  | .ok slots =>
    match slots.getLast? with
    | none => ⟨.error .noBucket, t, o.notes⟩
    | some slot => ⟨.ok slot, t, o.notes⟩

/-- Deals with a commitment after the drain of bucket `position`: retires it if its supply is
exhausted, and otherwise files it where its policy says, but never at `position` or before. -/
def settle (position : Nat) (e : Commitment α) (t : Track α φ) : Outcome (Track α φ) Unit :=
  if e.supply.isExhausted then
    let c := t.counters
    let t := { t with pending := t.pending - 1, counters := { c with retired := c.retired + 1 } }
    ⟨(), t.record .retire e.id position none, [.logged (.retired t.name e.id position)]⟩
  else
    let o := (e.withPhase .notEmpty).nextDelivery position t.increment
    if o.value ≤ position then
      (t.rollOver (o.state.retarget (Index.next position))).after
        (o.notes ++ [.logged (.targetClamped t.name e.id o.value position)])
    else (t.rollOver (o.state.retarget o.value)).after o.notes

/-- Drains the bucket in a slot and moves the clock on. -/
def drain (slot : Slot) (t : Track α φ) : Outcome (Track α φ) (List α) :=
  let position := t.position
  let bucket := t.store.bucket slot
  let mismatch := if bucket.id = position then []
    else [.logged (.wrongBucket t.name bucket.id position)]
  let delivered := bucket.deliverWith t.frameWidth
  let frame := delivered.value
  let moved := delivered.state.takeEvents
  let settled := Outcome.each (settle position) moved.1
    { t with store := t.store.update slot moved.2 }
  let removed := settled.state.removeBucket bucket.id
  let t := removed.state
  let c := t.counters
  let t := { t with
    position := t.position + 1
    counters := { c with frames := c.frames + 1, deliveredItems := c.deliveredItems + frame.length } }
  ⟨frame, t.record .drain none position (some ("items=" ++ Text.describeNat frame.length)),
    mismatch ++ delivered.notes ++ settled.notes ++ removed.notes
      ++ [.logged (.frameDelivered t.name position frame.length)]⟩

/-- One tick: no frame if nothing is pending, the items drawn otherwise. Only the failure to fetch
the bucket is an error, and then nothing was drawn. -/
def nextFrame (t : Track α φ) : Outcome (Track α φ) (Except TrackError (Option (List α))) :=
  let retried := t.retryDeferred
  if retried.state.pending = 0 then ⟨.ok none, retried.state, retried.notes⟩
  else
    let taken := retried.state.takeBucket
    match taken.value with
    | .error e => ⟨.error e, taken.state, retried.notes ++ taken.notes⟩
    | .ok slot =>
      let drained := taken.state.drain slot
      ⟨.ok (some drained.value), drained.state, retried.notes ++ taken.notes ++ drained.notes⟩

/-! ## The window of the timeline

Only the taking of the bucket touches the timeline. -/

theorem place_timeline (e : Commitment α) (t : Track α φ) :
    (t.place e).state.timeline = t.timeline := by
  simp only [place]
  split
  · rfl
  · split <;> rfl

theorem rollOver_timeline (e : Commitment α) (t : Track α φ) :
    (t.rollOver e).state.timeline = t.timeline := by
  have h := place_timeline e t
  simp only [rollOver]
  split
  · exact h
  · split <;> exact h

theorem retry_timeline (e : Commitment α) (t : Track α φ) :
    (t.retry e).state.timeline = t.timeline :=
  rollOver_timeline _ t

theorem removeBucket_timeline (id : Nat) (t : Track α φ) :
    (t.removeBucket id).state.timeline = t.timeline := by
  simp only [removeBucket]
  split <;> rfl

theorem settle_timeline (position : Nat) (e : Commitment α) (t : Track α φ) :
    (t.settle position e).state.timeline = t.timeline := by
  simp only [settle]
  split
  · rfl
  · split <;> exact rollOver_timeline _ t

theorem retryDeferred_timeline (t : Track α φ) :
    t.retryDeferred.state.timeline = t.timeline := by
  have h₁ := Outcome.each_keeps timeline removeBucket_timeline t.stale { t with stale := [] }
  have h₂ := Outcome.each_keeps timeline retry_timeline
    (Outcome.each removeBucket t.stale { t with stale := [] }).state.stranded
    { (Outcome.each removeBucket t.stale { t with stale := [] }).state with stranded := [] }
  exact h₂.trans h₁

theorem drain_timeline (slot : Slot) (t : Track α φ) :
    (t.drain slot).state.timeline = t.timeline :=
  (removeBucket_timeline _ _).trans (Outcome.each_keeps timeline (settle_timeline _) _ _)

theorem takeBucket_advances {t : Track α φ} {slot : Slot} (h : t.takeBucket.value = .ok slot) :
    t.timeline.window.position < t.takeBucket.state.timeline.window.position ∧
      t.takeBucket.state.timeline.window.position ≤ Index.last := by
  simp only [takeBucket] at h ⊢
  split at h
  · cases h
  · next slots hslots =>
    have hne : slots ≠ [] := by
      rintro rfl
      cases h
    have hmove := Window.take_advances hslots hne
    cases hlast : slots.getLast? with
    | none => simp [hlast] at h
    | some _ => exact hmove

/-- How many buckets are left for the window of the timeline. -/
def room (t : Track α φ) : Nat := Index.last - t.timeline.window.position

/-- A tick that yields a frame uses up room. -/
theorem room_lt_of_nextFrame {t : Track α φ} {frame : List α}
    (h : t.nextFrame.value = .ok (some frame)) : t.nextFrame.state.room < t.room := by
  simp only [nextFrame] at h ⊢
  split at h
  · cases h
  · next hpending =>
    split at h
    · cases h
    · next slot hslot =>
      have hmove := takeBucket_advances hslot
      have hdrain := drain_timeline slot t.retryDeferred.state.takeBucket.state
      rw [retryDeferred_timeline] at hmove
      simp only [hpending, ↓reduceIte, room]
      rw [hdrain]
      omega

end BucketClock.Track
