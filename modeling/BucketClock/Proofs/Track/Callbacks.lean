import BucketClock.Proofs.Track.Chronicle

/-!
Callbacks. With its commitments a caller hands over functions of its own: the
suppliers of their supplies, and their policies. A tick runs the suppliers of
the supplies that it draws from for the first time, in the order of the bucket,
and then asks the policies of those that it files again, in the same order
(`nextFrame_callbacks`). Accepting a commitment runs neither
(`schedule_quiet`), and nor do the retries of a tick (`retryDeferred_quiet`).
-/

namespace BucketClock

/-! ## Callbacks and notes -/

namespace Note

/-- Whether a note tells that a function of the caller's ran. -/
def isCallback : Note → Bool
  | .supplied _ => true
  | .consulted .. => true
  | .called .. => false
  | .logged _ => false

def Quiet (notes : List Note) : Prop := ∀ n ∈ notes, n.isCallback = false

@[simp] theorem quiet_nil : Quiet [] := List.forall_mem_nil _

@[simp] theorem quiet_cons {n : Note} {notes : List Note} :
    Quiet (n :: notes) ↔ n.isCallback = false ∧ Quiet notes := List.forall_mem_cons

@[simp] theorem quiet_append {notes notes' : List Note} :
    Quiet (notes ++ notes') ↔ Quiet notes ∧ Quiet notes' := List.forall_mem_append

@[simp] theorem isCallback_called (call : StoreCall) (reply : Reply) :
    isCallback (.called call reply) = false := rfl

@[simp] theorem isCallback_logged (notice : Notice) : isCallback (.logged notice) = false := rfl

theorem Quiet.filter {notes : List Note} (h : Quiet notes) : notes.filter isCallback = [] :=
  List.filter_eq_nil_iff.mpr fun n hn => by simp [h n hn]

end Note

/-- A function of the caller's that ran, with the number of its commitment: a supplier that
brought `count` items, or a policy that was asked. -/
inductive Callback where
  | supplier (mark count : Nat)
  | policy (mark : Nat) (readyMade : Bool) (rollover : Rollover)
  deriving DecidableEq, Repr

namespace Callback

def mark : Callback → Nat
  | .supplier mark _ => mark
  | .policy mark _ _ => mark

def note : Callback → Note
  | .supplier _ count => .supplied count
  | .policy _ readyMade rollover => .consulted readyMade rollover

def isSupplier : Callback → Bool
  | .supplier .. => true
  | .policy .. => false

end Callback

def Policy.readyMade : Policy → Bool
  | .every _ => true
  | .custom .. => false

/-- What a policy is stays the same when it picks a bucket. -/
theorem Policy.readyMade_pick (p : Policy) (r : Rollover) : (p.pick r).2.readyMade = p.readyMade := by
  cases p with
  | every step => rfl
  | custom rule earlier => rfl

namespace Commitment

variable {α : Type}

/-- What runs when a slice is drawn from a commitment: its supplier, if it did not run yet. -/
def supplierCalls (e : Commitment α) : List Callback :=
  if e.supply.phase = .full then
    (e.supply.supplier.map fun items => .supplier e.mark items.length).toList
  else []

/-- What is asked when a commitment goes on from the drain of bucket `position`. -/
def policyCalls (position : Nat) (e : Commitment α) : List Callback :=
  (e.policy.map fun p =>
    .policy e.mark p.readyMade ⟨e.id, position, e.deliveryTime, e.supply.remaining⟩).toList

theorem draw_callbacks (width : Nat) (e : Commitment α) :
    (e.draw width).notes.filter Note.isCallback = e.supplierCalls.map Callback.note := by
  simp only [draw, Supply.take, supplierCalls]
  by_cases hfull : e.supply.phase = .full
  · rw [if_pos hfull, if_pos hfull, Supply.materialize]
    cases e.supply.supplier with
    | none => rfl
    | some items =>
      refine congrArg (Note.supplied items.length :: ·) (Note.Quiet.filter ?_)
      split
      · split
        · simp
        · simp
      · simp
  · rw [if_neg hfull, if_neg hfull]
    rfl

/-- The next bucket is asked for once, from the policy if there is one. -/
theorem nextDelivery_notes (position increment : Nat) (e : Commitment α) :
    ((e.withPhase .notEmpty).nextDelivery position increment).notes =
      (e.policyCalls position).map Callback.note := by
  obtain ⟨id, deliveryTime, supply, phase, policy, mark⟩ := e
  cases policy with
  | none => rfl
  | some p =>
    cases p with
    | every step => rfl
    | custom rule earlier => rfl

theorem policyCalls_callbacks (position : Nat) (e : Commitment α) :
    ((e.policyCalls position).map Callback.note).filter Note.isCallback =
      (e.policyCalls position).map Callback.note := by
  unfold policyCalls
  cases e.policy with
  | none => rfl
  | some p => rfl

end Commitment

theorem Bucket.drawFlat_callbacks {α : Type} (width : Nat) (es : List (Commitment α)) :
    (drawFlat width es).notes.filter Note.isCallback =
      (es.flatMap (·.supplierCalls)).map Callback.note := by
  induction es with
  | nil => rfl
  | cons e es ih =>
    simp only [drawFlat, List.filter_append, List.flatMap_cons, List.map_append, ih,
      e.draw_callbacks width]

/-! ## What runs no callback -/

open Note (Quiet)

theorem Outcome.each_quiet {σ γ : Type} {step : γ → σ → Outcome σ Unit}
    (h : ∀ x s, Quiet (step x s).notes) (xs : List γ) (s : σ) : Quiet (each step xs s).notes := by
  induction xs generalizing s with
  | nil => simp [each]
  | cons x xs ih => simp [each, after, h, ih]

theorem Window.lookUp_quiet {ι σ : Type} {look : Nat → σ → Outcome σ (Except TrackError ι)}
    (h : ∀ id s, Quiet (look id s).notes) (start count : Nat) (s : σ) :
    Quiet (lookUp look start count s).notes := by
  induction count generalizing start s with
  | zero => simp [lookUp]
  | succ count ih =>
    simp only [lookUp]
    split
    · exact h start s
    · exact Note.quiet_append.mpr ⟨h start s, ih _ _⟩

theorem Window.take_quiet {ι σ : Type} {look : Nat → σ → Outcome σ (Except TrackError ι)}
    (h : ∀ id s, Quiet (look id s).notes) (limit : Nat) (w : Window ι) (s : σ) :
    Quiet (w.take look limit s).notes := by
  have hlookUp := lookUp_quiet h w.size (Index.add w.position limit - w.size) s
  simp only [take]
  split
  · exact hlookUp
  · refine Note.quiet_append.mpr ⟨hlookUp, ?_⟩
    split
    · simp
    · simp

namespace Store

variable {α φ : Type} [Outage φ]

theorem fetch_quiet (factory : Nat → Bucket α) (id : Nat) (s : Store α φ) :
    Quiet (s.fetch factory id).notes := by
  simp only [fetch, get]
  cases (Outage.meet s.outage (.get id)).1 with
  | some f => simp
  | none =>
    simp only
    split
    · simp
    · simp
    · simp

theorem save_quiet (slot : Slot) (s : Store α φ) : Quiet (s.save slot).notes := by
  simp only [save]
  split
  · simp
  · simp

theorem assign_quiet (e : Commitment α) (s : Store α φ) : Quiet (s.assign e).notes := by
  simp only [assign]
  split
  · simp
  · simp

theorem remove_quiet (id : Nat) (s : Store α φ) : Quiet (s.remove id).notes := by
  simp only [remove]
  split
  · simp
  · simp

theorem commit_quiet (factory : Nat → Bucket α) (e : Commitment α) (s : Store α φ) :
    Quiet (s.commit factory e).notes := by
  simp only [commit]
  split
  · exact fetch_quiet _ _ _
  · split
    · simp [fetch_quiet, assign_quiet]
    · split
      · simp [fetch_quiet, assign_quiet, save_quiet]
      · simp [fetch_quiet, assign_quiet, save_quiet]

end Store

namespace Track

open Commitment (survivors)

variable {α φ : Type} [Outage φ]

theorem place_quiet (e : Commitment α) (t : Track α φ) : Quiet (t.place e).notes := by
  have hcommit := Store.commit_quiet t.timeline.factory e t.store
  simp only [place]
  split
  · exact hcommit
  · split
    · simp [hcommit]
    · simp [hcommit]

theorem rollOver_quiet (e : Commitment α) (t : Track α φ) : Quiet (t.rollOver e).notes := by
  have hplace := place_quiet e t
  simp only [rollOver]
  split
  · exact hplace
  · split
    · simp [hplace]
    · simp [hplace]

theorem removeBucket_quiet (id : Nat) (t : Track α φ) : Quiet (t.removeBucket id).notes := by
  have hremove := t.store.remove_quiet id
  simp only [removeBucket]
  split
  · exact hremove
  · simp [hremove]

/-- Accepting a commitment, or refusing it, runs no supplier and asks no policy. -/
theorem schedule_quiet (e : Commitment α) (t : Track α φ) : Quiet (t.schedule e).notes := by
  simp only [schedule]
  cases e.phase with
  | exhausted => simp
  | notEmpty => exact place_quiet _ _
  | full =>
    simp only
    split
    · simp [Outcome.after, place_quiet]
    · exact place_quiet _ _

/-- Trying commitments and removals again runs no supplier and asks no policy. -/
theorem retryDeferred_quiet (t : Track α φ) : Quiet t.retryDeferred.notes := by
  refine Note.quiet_append.mpr ⟨?_, ?_⟩
  · exact Outcome.each_quiet removeBucket_quiet _ _
  · exact Outcome.each_quiet (fun _ t => rollOver_quiet _ t) _ _

theorem takeBucket_quiet (t : Track α φ) : Quiet t.takeBucket.notes := by
  have htake : Quiet (t.timeline.take 1 t.store).notes :=
    Window.take_quiet (fun _ s => s.fetch_quiet _ _) _ _ _
  simp only [takeBucket]
  split
  · exact htake
  · split
    · exact htake
    · exact htake

/-! ## What a tick runs -/

theorem settle_callbacks (position : Nat) (e : Commitment α) (t : Track α φ) :
    (settle position e t).notes.filter Note.isCallback =
      (if e.supply.isExhausted then [] else e.policyCalls position).map Callback.note := by
  simp only [settle]
  split
  · rfl
  · simp only [Commitment.nextDelivery_notes]
    split
    · simp [Outcome.after, (rollOver_quiet _ t).filter, Commitment.policyCalls_callbacks]
    · simp [Outcome.after, (rollOver_quiet _ t).filter, Commitment.policyCalls_callbacks]

theorem each_settle_callbacks (position : Nat) (es : List (Commitment α)) (t : Track α φ) :
    (Outcome.each (settle position) es t).notes.filter Note.isCallback =
      ((es.filter (!·.supply.isExhausted)).flatMap (·.policyCalls position)).map
        Callback.note := by
  induction es generalizing t with
  | nil => rfl
  | cons e es ih =>
    have hstep := settle_callbacks position e t
    cases he : e.supply.isExhausted with
    | true => simpa [Outcome.each, Outcome.after, he, ih] using hstep
    | false => simpa [Outcome.each, Outcome.after, he, ih] using hstep

/-- A drain runs the suppliers of the commitments it draws from, and then asks the policies of
those that it does not exhaust. -/
theorem drain_callbacks (slot : Slot) (t : Track α φ) :
    (t.drain slot).notes.filter Note.isCallback =
      ((t.store.bucket slot).events.flatMap (·.supplierCalls) ++
        (survivors t.frameWidth (t.store.bucket slot).events).flatMap
          (·.policyCalls t.position)).map Callback.note := by
  have hmismatch : Quiet (if (t.store.bucket slot).id = t.position then []
      else [.logged (.wrongBucket t.name (t.store.bucket slot).id t.position)]) := by
    split
    · simp
    · simp
  simp only [drain, Bucket.deliverWith, Bucket.takeEvents, List.filter_append, hmismatch.filter,
    Bucket.drawFlat_callbacks, each_settle_callbacks, (removeBucket_quiet _ _).filter,
    Bucket.drawFlat_state, survivors, List.map_append]
  simp

/-- The callbacks of a request, in order. A tick that hands out no frame has none. -/
def callbacks (t : Track α φ) : Request α → List Callback
  | .schedule _ => []
  | .tick =>
    match t.nextFrame.value with
    | .ok (some _) =>
      t.due.flatMap (·.supplierCalls) ++
        (survivors t.frameWidth t.due).flatMap (·.policyCalls t.position)
    | _ => []

/-- Nothing else runs in a tick. -/
theorem nextFrame_callbacks {t : Track α φ} (h : t.Sound) :
    t.nextFrame.notes.filter Note.isCallback = (t.callbacks .tick).map Callback.note := by
  obtain ⟨_, _, hturn, hposition, _⟩ := retryDeferred_turn h
  have hr := hturn.sound
  have hretried := retryDeferred_quiet t
  have hdue : t.due = t.retryDeferred.state.store.contents t.retryDeferred.state.position := by
    rw [due, hposition]
  have hwidth := hturn.frameWidth
  simp only [callbacks, nextFrame, hdue, ← hwidth, ← hposition]
  clear hdue hposition hwidth
  generalize t.retryDeferred = retried at *
  by_cases hpending : retried.state.pending = 0
  · simp only [if_pos hpending]
    exact hretried.filter
  · simp only [if_neg hpending]
    have htaken := takeBucket_quiet retried.state
    obtain ⟨store, window, hstate, hsteady, ⟨⟨error, hvalue⟩, _⟩ | ⟨slot, hvalue, _, _, hserves⟩⟩ :=
      takeBucket_spec hr.ready hr.window hr.inRange
    · simp only [hvalue, List.filter_append, hretried.filter, htaken.filter]
      rfl
    · simp only [hvalue, List.filter_append, hretried.filter, htaken.filter, hstate,
        drain_callbacks, hserves.events, hsteady.contents, List.nil_append]

end Track
end BucketClock
