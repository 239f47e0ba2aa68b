import BucketClock.Proofs.Track.RetryLaw
import BucketClock.Proofs.Window.Checked

/-!
Indices stay in their range. A tick whose bucket is fetched by a checked take
and whose clock moves on by a checked sum (`nextFrameChecked`) never gives up on
a track that is aligned with its window, and does what a tick does. At the last
bucket the window has nothing to give, so the clock stops there, and whatever a
drain does not exhaust goes on to a bucket after it.

Main statement: `index_range`.
-/

namespace BucketClock

namespace Track

variable {α φ : Type}

/-! ## Ticks with checked sums -/

/-- Nothing is at hand in the window of the timeline, and it stands where the clock does. -/
structure Aligned (t : Track α φ) : Prop where
  kept : t.timeline.window.Kept
  size : t.timeline.window.size = t.position
  position : t.timeline.window.position = t.position

theorem Aligned.inRange {t : Track α φ} (h : t.Aligned) : t.position ≤ Index.last := by
  rw [← h.size]
  exact h.kept.size

theorem Aligned.at {t : Track α φ} (h : t.Aligned) : t.timeline.window.At t.position := by
  refine ⟨h.size, h.position, ?_⟩
  rw [← List.length_eq_zero_iff, h.kept.items, h.size, h.position, Nat.sub_self]

theorem aligned_of_at {t : Track α φ} (h : t.timeline.window.At t.position)
    (hlast : t.position ≤ Index.last) : t.Aligned :=
  ⟨h.kept hlast, h.size, h.position⟩

/-- Only the timeline and the clock matter for it. -/
theorem Aligned.congr {t t' : Track α φ} (h : t.Aligned) (htimeline : t'.timeline = t.timeline)
    (hposition : t'.position = t.position) : t'.Aligned := by
  refine ⟨?_, ?_, ?_⟩
  · rw [htimeline]
    exact h.kept
  · rw [htimeline, hposition]
    exact h.size
  · rw [htimeline, hposition]
    exact h.position

variable [Outage φ]

def takeBucketChecked (t : Track α φ) : Option (Outcome (Track α φ) (Except TrackError Slot)) :=
  (t.timeline.window.takeChecked (fun id s => s.fetch t.timeline.factory id) 1 t.store).map fun o =>
    let t := { t with timeline := { t.timeline with window := o.state.1 }, store := o.state.2 }
    match o.value with
    | .error e => ⟨.error e, t, o.notes⟩
    | .ok slots =>
      match slots.getLast? with
      | none => ⟨.error .noBucket, t, o.notes⟩
      | some slot => ⟨.ok slot, t, o.notes⟩

/-- A drain that gives up where the clock, once all is settled, has no index to move on to. -/
def drainChecked (slot : Slot) (t : Track α φ) : Option (Outcome (Track α φ) (List α)) := do
  let settled := Outcome.each (settle t.position) (t.drawnFrom slot) (t.emptied slot)
  let removed := settled.state.removeBucket (t.store.bucket slot).id
  let position ← Index.sum? removed.state.position 1
  let o := t.drain slot
  some { o with state := { o.state with position := position } }

/-- A tick that fetches and drains by checked sums. -/
def nextFrameChecked (t : Track α φ) :
    Option (Outcome (Track α φ) (Except TrackError (Option (List α)))) :=
  let retried := t.retryDeferred
  if retried.state.pending = 0 then some ⟨.ok none, retried.state, retried.notes⟩
  else do
    let taken ← retried.state.takeBucketChecked
    match taken.value with
    | .error e => some ⟨.error e, taken.state, retried.notes ++ taken.notes⟩
    | .ok slot =>
      let drained ← taken.state.drainChecked slot
      some ⟨.ok (some drained.value), drained.state,
        retried.notes ++ taken.notes ++ drained.notes⟩

/-- The fetch at the clock: at the last bucket there is none, and before it the window moves on by
one or stays. -/
theorem Aligned.takeBucket_cases {t : Track α φ} (h : t.Aligned) :
    (t.position = Index.last ∧ t.takeBucket = ⟨.error .noBucket, { t with
        timeline := { t.timeline with window := ⟨Index.last, Index.last, [], .exhausted⟩ } }, []⟩) ∨
      (t.position < Index.last ∧ ∃ window store, t.takeBucket.state =
          { t with timeline := { t.timeline with window := window }, store := store } ∧
        ((∃ error, t.takeBucket.value = .error error) ∧ window.At t.position ∨
          (∃ slot, t.takeBucket.value = .ok slot) ∧ window.At (t.position + 1))) := by
  have hwindow := h.at
  simp only [takeBucket, Timeline.take]
  rcases Nat.lt_or_eq_of_le h.inRange with hlt | hlast
  · refine Or.inr ⟨hlt, ?_⟩
    cases hvalue : (t.store.fetch t.timeline.factory t.position).value with
    | error error =>
      obtain ⟨htake, hstate⟩ := hwindow.take_error hlt hvalue
      simp only [htake, hstate]
      exact ⟨_, _, rfl, Or.inl ⟨⟨_, rfl⟩, hwindow⟩⟩
    | ok slot =>
      obtain ⟨htake, window, hstate, hwindow'⟩ := hwindow.take_ok hlt hvalue
      simp only [htake, hstate, List.getLast?_singleton]
      exact ⟨_, _, rfl, Or.inr ⟨⟨_, rfl⟩, hwindow'⟩⟩
  · rw [hlast] at hwindow
    simp only [hwindow.take_nothing, List.getLast?_nil]
    exact Or.inl ⟨hlast, trivial⟩

theorem Aligned.takeBucketChecked_eq {t : Track α φ} (h : t.Aligned) :
    t.takeBucketChecked = some t.takeBucket := by
  rw [takeBucketChecked, h.kept.takeChecked_eq, Option.map_some]
  rfl

theorem drainChecked_eq {t : Track α φ} (h : t.position < Index.last) (slot : Slot) :
    t.drainChecked slot = some (t.drain slot) := by
  have hposition := t.drain_position slot
  have hsettled := congrArg (·.2.1) (settled_base slot t)
  have hremoved := (removeBucket_position (t.store.bucket slot).id _).trans hsettled
  have hsum : Index.sum? t.position 1 = some (t.position + 1) := Index.sum?_eq_some h
  simp only [drainChecked, hremoved, base, hsum, Option.bind_eq_bind, Option.bind_some]
  rw [← hposition]

theorem retryDeferred_position (t : Track α φ) : t.retryDeferred.state.position = t.position :=
  (Outcome.each_keeps position retry_position t.cleared.stranded
    { t.cleared with stranded := [] }).trans t.cleared_position

theorem Aligned.retried {t : Track α φ} (h : t.Aligned) : t.retryDeferred.state.Aligned :=
  h.congr t.retryDeferred_timeline t.retryDeferred_position

theorem Aligned.nextFrameChecked_eq {t : Track α φ} (h : t.Aligned) :
    t.nextFrameChecked = some t.nextFrame := by
  simp only [nextFrameChecked, nextFrame, h.retried.takeBucketChecked_eq]
  split
  · rfl
  · rcases h.retried.takeBucket_cases with ⟨_, heq⟩ | ⟨hlt, window, store, hstate, _⟩
    · rw [heq]
      rfl
    · cases hvalue : t.retryDeferred.state.takeBucket.value with
      | error error => simp only [Option.bind_eq_bind, Option.bind_some, hvalue]
      | ok slot =>
        have hclock : t.retryDeferred.state.takeBucket.state.position < Index.last := by
          rw [hstate]
          exact hlt
        simp only [Option.bind_eq_bind, Option.bind_some, hvalue, drainChecked_eq hclock]

/-! ## Where the clock and the window go -/

/-- At the last bucket a tick hands out nothing: it retries, and finds no bucket. -/
theorem Aligned.nextFrame_last {t : Track α φ} (h : t.Aligned) (hlast : t.position = Index.last)
    (hpending : t.retryDeferred.state.pending ≠ 0) :
    t.nextFrame = ⟨.error .noBucket, { t.retryDeferred.state with
        timeline := { t.timeline with window := ⟨Index.last, Index.last, [], .exhausted⟩ } },
      t.retryDeferred.notes⟩ := by
  rcases h.retried.takeBucket_cases with ⟨_, heq⟩ | ⟨hlt, _⟩
  · simp only [nextFrame, if_neg hpending, heq, List.append_nil, t.retryDeferred_timeline]
  · rw [t.retryDeferred_position, hlast] at hlt
    exact absurd hlt (Nat.lt_irrefl _)

/-- A drain moves the clock on to where the window went. -/
theorem drain_aligned {t : Track α φ} {slot : Slot}
    (hwindow : t.timeline.window.At (t.position + 1)) (hlt : t.position < Index.last) :
    (t.drain slot).state.Aligned := by
  refine aligned_of_at ?_ ?_
  · rw [drain_timeline, drain_position]
    exact hwindow
  · rw [drain_position]
    exact hlt

/-- A tick moves the clock on with the window if it hands out a frame, and neither if not. -/
theorem Aligned.nextFrame {t : Track α φ} (h : t.Aligned) :
    t.nextFrame.state.Aligned ∧
      match t.nextFrame.value with
      | .ok (some _) => t.position < Index.last ∧ t.nextFrame.state.position = t.position + 1
      | _ => t.nextFrame.state.position = t.position := by
  have hposition := t.retryDeferred_position
  have hretried := h.retried
  by_cases hpending : t.retryDeferred.state.pending = 0
  · simp only [Track.nextFrame, if_pos hpending]
    exact ⟨hretried, hposition⟩
  · rcases hretried.takeBucket_cases with ⟨hlast, _⟩ | ⟨hlt, window, store, hstate, hcases⟩
    · rw [h.nextFrame_last (hposition.symm.trans hlast) hpending]
      refine ⟨aligned_of_at ?_ ?_, hposition⟩
      · show Window.At t.retryDeferred.state.position _
        rw [hlast]
        exact ⟨rfl, rfl, rfl⟩
      · exact hretried.inRange
    · simp only [Track.nextFrame, if_neg hpending]
      rcases hcases with ⟨⟨error, hvalue⟩, hwindow⟩ | ⟨⟨slot, hvalue⟩, hwindow⟩
      · simp only [hvalue, hstate]
        exact ⟨aligned_of_at hwindow hretried.inRange, hposition⟩
      · simp only [hvalue, hstate]
        refine ⟨drain_aligned hwindow hlt, hposition ▸ hlt, ?_⟩
        rw [drain_position]
        exact congrArg (· + 1) hposition

theorem Aligned.schedule {t : Track α φ} (h : t.Aligned) (e : Commitment α) :
    (t.schedule e).state.Aligned := by
  have hbase := (schedule_base e t).1
  exact h.congr (congrArg (·.1) hbase) (congrArg (·.2.1) hbase)

theorem Aligned.perform {t : Track α φ} (h : t.Aligned) (r : Request α) :
    (t.perform r).Aligned := by
  cases r with
  | schedule e => exact h.schedule _
  | tick => exact h.nextFrame.1

theorem Aligned.run {t : Track α φ} (h : t.Aligned) (rs : List (Request α)) :
    (t.run rs).Aligned := by
  induction rs generalizing t with
  | nil => exact h
  | cons r rs ih => exact ih (h.perform r)

omit [Outage φ] in
theorem Hosted.aligned {t : Track α φ} (h : t.Hosted) : t.Aligned := by
  induction h with
  | ofStore s => exact aligned_of_at ⟨rfl, rfl, rfl⟩ (Nat.zero_le _)
  | withName _ _ ih | withFrameWidth _ _ ih | withIncrement _ _ ih | withAudit _ _ ih
  | stamped _ _ ih => exact ih.congr rfl rfl

end Track

/-! ## The buckets that are chosen -/

namespace Bucket

variable {α : Type}

theorem drawFlat_lookedUp (width : Nat) (es : List (Commitment α)) :
    (drawFlat width es).notes.filterMap Note.lookedUp? = [] := by
  have hdraw : ∀ s : Supply α, (s.take width).notes.filterMap Note.lookedUp? = [] := by
    intro s
    simp only [Supply.take, Supply.materialize]
    split
    · cases s.supplier with
      | none => rfl
      | some items =>
        cases s.size with
        | none => rfl
        | some declared =>
          simp only
          split <;> rfl
    · rfl
  induction es with
  | nil => rfl
  | cons e es ih =>
    simp only [drawFlat, List.filterMap_append, ih, Commitment.draw, hdraw, List.append_nil]

end Bucket

namespace Track

variable {α φ : Type} [Outage φ]

/-- What is not exhausted looks its next bucket up. -/
theorem settle_lookedUp (position : Nat) (e : Commitment α) (t : Track α φ) :
    (t.settle position e).notes.filterMap Note.lookedUp? =
      if e.supply.isExhausted then []
      else [(e.onward position t.increment).deliveryTime] := by
  simp only [settle]
  split
  · rfl
  · have hasked : ∀ e' : Commitment α,
        (e'.nextDelivery position t.increment).notes.filterMap Note.lookedUp? = [] := by
      intro e'
      unfold Commitment.nextDelivery
      split <;> rfl
    have hbucket : (e.onward position t.increment).deliveryTime =
        if ((e.withPhase .notEmpty).nextDelivery position t.increment).value ≤ position then
          Index.next position
        else ((e.withPhase .notEmpty).nextDelivery position t.increment).value := rfl
    split
    · next hpast =>
      simp only [Outcome.after, List.filterMap_append, hasked, (rollOver_notes _ t).1, hbucket,
        if_pos hpast]
      rfl
    · next hahead =>
      simp only [Outcome.after, List.filterMap_append, hasked, (rollOver_notes _ t).1, hbucket,
        if_neg hahead]
      rfl

theorem each_settle_lookedUp (position : Nat) (es : List (Commitment α)) (t : Track α φ) :
    (Outcome.each (settle position) es t).notes.filterMap Note.lookedUp? =
      (es.filter (!·.supply.isExhausted)).map
        fun e => (e.onward position t.increment).deliveryTime := by
  induction es generalizing t with
  | nil => rfl
  | cons e es ih =>
    have hincrement : (t.settle position e).state.increment = t.increment :=
      congrArg (·.2) (t.settle_settings position e)
    simp only [Outcome.each, Outcome.after, List.filterMap_append, ih, settle_lookedUp,
      hincrement]
    cases hexhausted : e.supply.isExhausted <;> simp [hexhausted]

/-- The drain of a bucket looks up where each commitment that it does not exhaust goes on. -/
theorem drain_lookedUp (slot : Slot) (t : Track α φ) :
    (t.drain slot).notes.filterMap Note.lookedUp? =
      (Commitment.survivors t.frameWidth (t.store.bucket slot).events).map
        fun e => (e.onward t.position t.increment).deliveryTime := by
  have hmismatch : (if (t.store.bucket slot).id = t.position then []
      else [Note.logged (.wrongBucket t.name (t.store.bucket slot).id t.position)]).filterMap
        Note.lookedUp? = [] := by
    split <;> rfl
  have hdrawn : ((t.store.bucket slot).deliverWith t.frameWidth).state.takeEvents.1 =
      (t.store.bucket slot).events.map (·.drawn t.frameWidth) := Bucket.drawFlat_state _ _
  have hquiet : ((t.store.bucket slot).deliverWith t.frameWidth).notes.filterMap
      Note.lookedUp? = [] := Bucket.drawFlat_lookedUp _ _
  simp only [drain, List.filterMap_append, hmismatch, hquiet, each_settle_lookedUp, hdrawn,
    (removeBucket_notes _ _).1, List.nil_append, List.append_nil]
  exact List.append_nil _

/-- A commitment that is accepted looks the bucket up in which it is filed. -/
theorem schedule_lookedUp (t : Track α φ) (e : Commitment α) :
    (t.schedule e).notes.filterMap Note.lookedUp? =
      if e.phase = .exhausted then [] else [(e.admitted t.position).deliveryTime] := by
  have hplaced := fun e' : Commitment α => (t.place_notes e').1
  cases hphase : e.phase with
  | exhausted => simp [schedule, hphase]
  | notEmpty => simp [schedule, hphase, hplaced, Commitment.admitted]
  | full =>
    simp only [schedule, hphase, Commitment.admitted, true_and]
    split
    · exact hplaced _
    · exact hplaced _

end Track

namespace Commitment

variable {α : Type}

/-- If the policy of a commitment answers with an index, it goes on to one. -/
theorem onward_le_last {e : Commitment α} (h : ∀ p ∈ e.policy, ∀ r, (p.pick r).1 ≤ Index.last)
    (position increment : Nat) : (e.onward position increment).deliveryTime ≤ Index.last := by
  have hchosen : ((e.withPhase .notEmpty).nextDelivery position increment).value ≤
      Index.last := by
    obtain ⟨id, deliveryTime, supply, phase, policy, mark⟩ := e
    cases policy with
    | none => exact Index.add_le_last _ _
    | some p => exact h p rfl _
  show (if _ then Index.next position else _) ≤ Index.last
  split
  · exact Index.add_le_last _ _
  · exact hchosen

theorem admitted_le_last {e : Commitment α} (h : e.deliveryTime ≤ Index.last) (position : Nat) :
    (e.admitted position).deliveryTime ≤ Index.last := by
  unfold admitted
  split
  · exact Index.add_le_last _ _
  · exact h

end Commitment

/-! ## The range -/

namespace Track

open Commitment (survivors)

variable {α φ : Type} [Outage φ]

/-- Where the clock of a track and the commitments that it files can go. -/
structure InRange (t : Track α φ) : Prop where
  aligned : t.Aligned
  /-- No sum or difference that a tick forms leaves the range. -/
  checked : t.nextFrameChecked = some t.nextFrame
  /-- A bucket is drained before the last one only, -/
  early : ∀ slot, t.retryDeferred.state.takeBucket.value = .ok slot →
    t.retryDeferred.state.takeBucket.state.position = t.position ∧ t.position < Index.last
  /-- and the clock moves on with the frame and not without. -/
  moves : match t.nextFrame.value with
    | .ok (some _) => t.position < Index.last ∧ t.nextFrame.state.position = t.position + 1
    | _ => t.nextFrame.state.position = t.position
  /-- At the last bucket a tick retries and then fails, and leaves everything else. -/
  last : t.position = Index.last → t.retryDeferred.state.pending ≠ 0 →
    t.nextFrame = ⟨.error .noBucket, { t.retryDeferred.state with
        timeline := { t.timeline with window := ⟨Index.last, Index.last, [], .exhausted⟩ } },
      t.retryDeferred.notes⟩
  /-- What a drain does not exhaust goes on to a later bucket. -/
  onward : ∀ slot, t.retryDeferred.state.takeBucket.value = .ok slot →
    let u := t.retryDeferred.state.takeBucket.state
    let targets := (survivors u.frameWidth (u.store.bucket slot).events).map
      fun e => (e.onward t.position u.increment).deliveryTime
    (u.drain slot).notes.filterMap Note.lookedUp? = targets ∧
      ∀ target ∈ targets, t.position < target
  /-- What is tried again goes to no bucket that has passed. -/
  retried : t.retryDeferred.notes.filterMap Note.lookedUp? =
    t.stranded.map fun e => max e.deliveryTime t.position
  accepted : ∀ e, (t.schedule e).notes.filterMap Note.lookedUp? =
    if e.phase = .exhausted then [] else [(e.admitted t.position).deliveryTime]
  /-- Wherever a commitment goes is an index, if what it asks for and what its policy answers
  are. -/
  index : ∀ e : Commitment α, e.deliveryTime ≤ Index.last →
    (e.admitted t.position).deliveryTime ≤ Index.last ∧
      max e.deliveryTime t.position ≤ Index.last ∧
      ((∀ p ∈ e.policy, ∀ r, (p.pick r).1 ≤ Index.last) → ∀ increment,
        (e.onward t.position increment).deliveryTime ≤ Index.last)

theorem Aligned.range {t : Track α φ} (h : t.Aligned) : t.InRange := by
  have hearly : ∀ slot, t.retryDeferred.state.takeBucket.value = .ok slot →
      t.retryDeferred.state.takeBucket.state.position = t.position ∧
        t.position < Index.last := by
    intro slot hslot
    have hposition := t.retryDeferred_position
    rcases h.retried.takeBucket_cases with ⟨_, heq⟩ | ⟨hlt, window, store, hstate, _⟩
    · rw [heq] at hslot
      cases hslot
    · rw [hstate, ← hposition]
      exact ⟨rfl, hlt⟩
  refine ⟨h, h.nextFrameChecked_eq, hearly, h.nextFrame.2, h.nextFrame_last, ?_,
    t.retryDeferred_notes.1, t.schedule_lookedUp, ?_⟩
  · intro slot hslot u targets
    obtain ⟨hposition, hlt⟩ := hearly slot hslot
    refine ⟨?_, ?_⟩
    · rw [drain_lookedUp, hposition]
    · intro target htarget
      obtain ⟨e, _, rfl⟩ := List.mem_map.mp htarget
      exact e.lt_onward hlt _
  · intro e he
    exact ⟨Commitment.admitted_le_last he _, Nat.max_le.mpr ⟨he, h.inRange⟩,
      fun hpolicy _ => Commitment.onward_le_last hpolicy _ _⟩

/-- Indices stay in their range. A window that is kept as it should be grows up to the index that
a take is to reach and never hands out more than it then has, whatever it is to reach; and a track
that is aligned with its window, as every newly made one is, stays so whatever is asked of it: its
clock moves on before the last bucket only, and it files nothing behind the clock. -/
theorem index_range {σ ι : Type} {w : Window ι} (hw : w.Kept)
    (look : Nat → σ → Outcome σ (Except TrackError ι)) (limit : Nat) (s : σ) {t : Track α φ}
    (ht : t.Aligned) (rs : List (Request α)) :
    w.InRange look limit s ∧ (∀ t₀ : Track α φ, t₀.Hosted → t₀.Aligned) ∧ (t.run rs).InRange :=
  ⟨hw.range look limit s, fun _ hhosted => hhosted.aligned, (ht.run rs).range⟩

/-- A window that holds two of the last three items, and looks the third up. -/
def nearEnd : Window Nat := ⟨Index.last - 1, Index.last - 3, [7, 8], .notEmpty⟩

def late : Track Nat (List PlannedFailure) :=
  { ofStore (.empty []) with
    position := Index.last - 1
    timeline := ⟨⟨Index.last - 1, Index.last - 1, [], .exhausted⟩, .empty⟩ }

/-- The commitment asks for a bucket that has passed and is filed in the last one. A tick later the
clock stands there, and the next tick finds no bucket. -/
theorem index_range_late :
    let look : Nat → Nat → Outcome Nat (Except TrackError Nat) := fun i s => ⟨.ok i, s + 1, []⟩
    let requests : List (Request Nat) :=
      [.schedule { deliveryTime := 3, supply := .ofList [1, 2] }, .tick]
    (nearEnd.take look Index.last 0).value = .ok [7, 8, Index.last - 1] ∧
      (late.run requests).position = Index.last ∧
      (late.run requests).nextFrame.value = .error .noBucket ∧
      nearEnd.InRange look Index.last 0 ∧
      (∀ t₀ : Track Nat (List PlannedFailure), t₀.Hosted → t₀.Aligned) ∧
      (late.run requests).InRange := by
  intro look requests
  have hkept : nearEnd.Kept := ⟨by decide, by decide, by decide⟩
  have haligned : late.Aligned := aligned_of_at ⟨rfl, rfl, rfl⟩ (by decide)
  exact ⟨by decide +kernel, by decide +kernel, by decide +kernel,
    index_range hkept look Index.last 0 haligned requests⟩

end Track
end BucketClock
