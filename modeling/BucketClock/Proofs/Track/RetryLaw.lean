import BucketClock.Proofs.Track.Retries
import Mathlib.Data.List.Forall2

/-!
The law of retries over runs. Each tick tries every commitment held back exactly
once before it does anything else; so one that was refused for a bucket is tried
by every tick that follows until a try succeeds, and is filed then in that bucket
or, if the bucket has passed, in the current one (`fate`). Its policy is not asked
again, and commitments held back together stay in order.

Main statement: `retry_law`.
-/

namespace BucketClock.Track

open Commitment (Refiled dueAt survivors)

variable {α φ : Type} [Outage φ]

/-! ## Tracks in step -/

/-- A track over a sturdy store that makes missing buckets empty, with its window at the clock and
only buckets behind the clock waiting to be removed. -/
structure InStep (t : Track α φ) : Prop where
  sturdy : t.store.Sturdy
  factory : t.timeline.factory = Bucket.empty
  window : t.timeline.window.At t.position
  inRange : t.position ≤ Index.last
  stale : ∀ id ∈ t.stale, id < t.position

/-- The removals at the start of a tick leave the buckets at and after the clock alone. -/
theorem InStep.cleared {t : Track α φ} (h : t.InStep) :
    ∃ store stale, t.cleared = { t with store := store, stale := stale } ∧ store.Sturdy ∧
      (∀ id ∈ stale, id < t.position) ∧
      ∀ id, t.position ≤ id → store.contents id = t.store.contents id := by
  have hsturdy := cleared_sturdy h.sturdy
  obtain ⟨again, htried⟩ := each_removeBucket_tried t.stale { t with stale := [] }
  obtain ⟨shelf, outage, hsame⟩ := htried.same
  have hcleared : t.cleared = { t with
      store := { t.store with shelf := shelf, outage := outage }, stale := again } := hsame
  have hkept := htried.kept
  rw [hsame] at hkept
  rw [hcleared] at hsturdy ⊢
  refine ⟨_, _, rfl, hsturdy, fun id hid => h.stale id (htried.requeued.subset hid), ?_⟩
  intro id hid
  rcases hkept id with hlookup | ⟨hmem, _⟩
  · have hlookup' : ({ t.store with shelf := shelf, outage := outage } : Store α φ).lookup id =
        t.store.lookup id := hlookup
    simp only [Store.contents, hlookup']
    rfl
  · exact absurd (h.stale id hmem) (Nat.not_lt_of_le hid)

theorem InStep.retried {t : Track α φ} (h : t.InStep) :
    t.retryDeferred.state.InStep ∧ t.retryDeferred.state.position = t.position ∧
      t.retryDeferred.state.settings = t.settings ∧
      ∀ id, t.position ≤ id → t.retryDeferred.state.store.contents id =
        t.store.contents id ++ dueAt id t.retryFilings := by
  obtain ⟨store, stale, hcleared, hsturdy, hstale, hcontents⟩ := h.cleared
  have hfiling : Filing { t.cleared with stranded := [] } t.retryDeferred.state := by
    refine Outcome.each_invariant (P := Filing { t.cleared with stranded := [] }) ?_ ?_
    · exact fun _ _ _ ht => ht.rollOver _
    · exact .refl (cleared_sturdy h.sturdy)
  have hfiled := each_retry_contents (u := { t.cleared with stranded := [] })
    (cleared_sturdy h.sturdy) (by rw [hcleared]; exact h.factory) t.cleared.stranded
  have hstate : t.retryDeferred.state =
    (Outcome.each retry t.cleared.stranded { t.cleared with stranded := [] }).state := rfl
  rw [← hstate] at hfiled
  rw [retryFilings]
  rw [hcleared] at hfiling hfiled ⊢
  generalize t.retryDeferred.state = t' at hfiling hfiled ⊢
  have hposition : t'.position = t.position := hfiling.position
  have htimeline : t'.timeline = t.timeline := hfiling.timeline
  have hstale' : t'.stale = stale := congrArg (·.2.2.1) hfiling.base
  refine ⟨⟨hfiling.sturdy, ?_, ?_, ?_, ?_⟩, hposition, hfiling.settings, ?_⟩
  · rw [htimeline]
    exact h.factory
  · rw [htimeline, hposition]
    exact h.window
  · rw [hposition]
    exact h.inRange
  · rw [hstale', hposition]
    exact hstale
  · intro id hid
    rw [hfiled id]
    exact congrArg (· ++ _) (hcontents id hid)

/-- The fetch of the bucket at the clock: the window moves on by one, or nothing does. -/
theorem InStep.taken {t : Track α φ} (h : t.InStep) :
    ∃ store window, t.takeBucket.state =
        { t with store := store, timeline := { t.timeline with window := window } } ∧
      store.Sturdy ∧
      ((∃ error, t.takeBucket.value = .error error) ∧ window.At t.position ∨
        ∃ slot, t.takeBucket.value = .ok slot ∧ t.position < Index.last ∧
          window.At (t.position + 1) ∧
          store.bucket slot = ⟨t.position, t.store.contents t.position⟩) := by
  simp only [takeBucket, Timeline.take, h.factory]
  rcases Nat.lt_or_eq_of_le h.inRange with hlt | heq
  · have hfetched := h.sturdy.fetch .empty t.position
    cases hget : (Outage.meet t.store.outage (.get t.position)).1 with
    | some f =>
      have hvalue : (t.store.fetch .empty t.position).value = .error f.error := by
        rw [Store.fetch_failed hget]
      obtain ⟨htake, hstate⟩ := h.window.take_error hlt hvalue
      simp only [htake, hstate]
      exact ⟨_, _, rfl, hfetched, Or.inl ⟨⟨_, rfl⟩, h.window⟩⟩
    | none =>
      obtain ⟨hvalue, _, hprepared⟩ := Store.fetch_done h.sturdy.orderly hget Bucket.empty
      obtain ⟨htake, window, hstate, hwindow⟩ := h.window.take_ok hlt hvalue
      simp only [htake, hstate, List.getLast?_singleton]
      refine ⟨_, _, rfl, hfetched, Or.inr ⟨_, rfl, hlt, hwindow, ?_⟩⟩
      rw [hprepared.bucket, if_pos rfl, h.sturdy.orderly.bucketFor_empty]
  · have hwindow := h.window
    rw [heq] at hwindow ⊢
    obtain ⟨htake, window, hstate, hwindow'⟩ :=
      hwindow.take_last (fun id s => s.fetch .empty id) t.store
    simp only [htake, hstate, List.getLast?_nil]
    exact ⟨_, _, rfl, h.sturdy, Or.inl ⟨⟨_, rfl⟩, hwindow'⟩⟩

def drawnFrom (slot : Slot) (t : Track α φ) : List (Commitment α) :=
  ((t.store.bucket slot).deliverWith t.frameWidth).state.events

def emptied (slot : Slot) (t : Track α φ) : Track α φ :=
  let delivered := ((t.store.bucket slot).deliverWith t.frameWidth).state
  { t with store := t.store.update slot delivered.takeEvents.2 }

theorem settled_base (slot : Slot) (t : Track α φ) :
    (Outcome.each (settle t.position) (t.drawnFrom slot) (t.emptied slot)).state.base = t.base :=
  Outcome.each_keeps base (settle_base t.position) (t.drawnFrom slot) (t.emptied slot)

theorem drain_position (slot : Slot) (t : Track α φ) :
    (t.drain slot).state.position = t.position + 1 := by
  have hsettled := congrArg (·.2.1) (settled_base slot t)
  have hremoved := (removeBucket_position (t.store.bucket slot).id _).trans hsettled
  exact congrArg (· + 1) hremoved

theorem removeBucket_stale {id : Nat} {t : Track α φ} {j : Nat}
    (hj : j ∈ (t.removeBucket id).state.stale) : j ∈ t.stale ∨ j = id := by
  simp only [removeBucket] at hj
  split at hj
  · exact Or.inl hj
  · exact (List.mem_append.mp hj).imp_right List.mem_singleton.mp

theorem drain_stale {slot : Slot} {t : Track α φ} {j : Nat}
    (hj : j ∈ (t.drain slot).state.stale) : j ∈ t.stale ∨ j = (t.store.bucket slot).id := by
  have hsettled : (Outcome.each (settle t.position) (t.drawnFrom slot)
      (t.emptied slot)).state.stale = t.stale := congrArg (·.2.2.1) (settled_base slot t)
  rcases removeBucket_stale hj with hj | hj
  · left
    rw [← hsettled]
    exact hj
  · exact Or.inr hj

/-- The drain of the bucket at the clock moves the clock on to the window. -/
theorem drain_inStep {t : Track α φ} {slot : Slot} (h : t.store.Sturdy)
    (hfactory : t.timeline.factory = Bucket.empty)
    (hwindow : t.timeline.window.At (t.position + 1)) (hlt : t.position < Index.last)
    (hid : (t.store.bucket slot).id = t.position) (hstale : ∀ id ∈ t.stale, id < t.position) :
    (t.drain slot).state.InStep := by
  refine ⟨drain_sturdy h slot, ?_, ?_, ?_, ?_⟩
  · rw [drain_timeline]
    exact hfactory
  · rw [drain_timeline, drain_position]
    exact hwindow
  · rw [drain_position]
    exact hlt
  · intro id hmem
    rw [drain_position]
    rcases drain_stale hmem with hmem | rfl
    · exact Nat.lt_succ_of_lt (hstale id hmem)
    · rw [hid]
      exact Nat.lt_succ_self _

/-- What a drain does not exhaust is filed or held back, each as it goes on. -/
theorem drain_refiled {t : Track α φ} (h : t.store.Sturdy) (slot : Slot) :
    Refiled ((survivors t.frameWidth (t.store.bucket slot).events).map
      (·.onward t.position t.increment)) (t.drainFilings slot) (t.drainHeld slot) := by
  have hdrawn : t.drawnFrom slot = (t.store.bucket slot).events.map (·.drawn t.frameWidth) :=
    Bucket.drawFlat_state _ _
  have hrefiled := each_settle_refiled (u := t.emptied slot) (h.update rfl) t.position
    (t.drawnFrom slot)
  rw [hdrawn] at hrefiled
  have hmoved : (((t.store.bucket slot).deliverWith t.frameWidth).state.takeEvents).1 =
      (t.store.bucket slot).events.map (·.drawn t.frameWidth) := hdrawn
  rw [drainFilings, drainHeld, hmoved]
  exact hrefiled

/-- What a tick holds back, seen from before the tick: nothing if it yields no frame, and otherwise
commitments on the way from the bucket that it drained. -/
inductive Onward (t : Track α φ) : Except TrackError (Option (List α)) → Track α φ →
    List (Commitment α) → List (Commitment α) → Prop
  | idle {t' : Track α φ} (position : t'.position = t.position) : Onward t (.ok none) t' [] []
  | refused {error : TrackError} {t' : Track α φ} (position : t'.position = t.position) :
      Onward t (.error error) t' [] []
  | framed {frame : List α} {t' : Track α φ} {filed held : List (Commitment α)}
      (inRange : t.position < Index.last) (position : t'.position = t.position + 1)
      (refiled : Refiled ((survivors t.frameWidth t.due).map (·.onward t.position t.increment))
        filed held) : Onward t (.ok (some frame)) t' filed held

theorem InStep.onward {t : Track α φ} (h : t.InStep) :
    t.nextFrame.state.InStep ∧
      Onward t t.nextFrame.value t.nextFrame.state t.settleFilings t.settlesHeld := by
  obtain ⟨hretried, hposition, hsettings, _⟩ := h.retried
  have hdue : t.due = t.retryDeferred.state.store.contents t.retryDeferred.state.position := by
    rw [hposition]
    rfl
  simp only [nextFrame, settleFilings, settlesHeld]
  generalize t.retryDeferred.state = r at *
  by_cases hpending : r.pending = 0
  · simp only [if_pos hpending]
    exact ⟨hretried, .idle hposition⟩
  · simp only [if_neg hpending]
    obtain ⟨store, window, hstate, hsturdy, hcases⟩ := hretried.taken
    rw [hstate]
    rcases hcases with ⟨⟨error, hvalue⟩, hwindow⟩ | ⟨slot, hvalue, hlt, hwindow, hbucket⟩
    · simp only [hvalue]
      exact ⟨⟨hsturdy, hretried.factory, hwindow, hretried.inRange, hretried.stale⟩,
        .refused hposition⟩
    · simp only [hvalue]
      have hrefiled := drain_refiled
        (t := { r with store := store, timeline := { r.timeline with window := window } })
        hsturdy slot
      refine ⟨drain_inStep hsturdy hretried.factory hwindow hlt (by rw [hbucket]) hretried.stale,
        .framed (hposition ▸ hlt) ?_ ?_⟩
      · rw [drain_position, ← hposition]
      · obtain ⟨hwidth, hincrement⟩ := Prod.mk.inj hsettings
        rw [hdue, ← hposition, ← hwidth, ← hincrement]
        simp only [hbucket] at hrefiled
        exact hrefiled

theorem schedule_base (e : Commitment α) (t : Track α φ) :
    (t.schedule e).state.base = t.base ∧ (t.schedule e).state.stranded = t.stranded := by
  by_cases hphase : e.phase = .exhausted
  · rw [t.schedule_exhausted hphase]
    exact ⟨rfl, rfl⟩
  · rw [(t.schedule_place hphase).2]
    exact ⟨place_base _ t, (place_holds _ t).1⟩

theorem InStep.perform {t : Track α φ} (h : t.InStep) (r : Request α) :
    (t.perform r).InStep ∧ t.position ≤ (t.perform r).position := by
  cases r with
  | schedule e =>
    have hsturdy := schedule_sturdy h.sturdy (t.numbered e)
    have hbase := (schedule_base (t.numbered e) t).1
    show (t.schedule (t.numbered e)).state.InStep ∧ _ ≤ (t.schedule (t.numbered e)).state.position
    generalize (t.schedule (t.numbered e)).state = t' at hsturdy hbase ⊢
    have htimeline : t'.timeline = t.timeline := congrArg (·.1) hbase
    have hposition : t'.position = t.position := congrArg (·.2.1) hbase
    have hstale : t'.stale = t.stale := congrArg (·.2.2.1) hbase
    refine ⟨⟨hsturdy, ?_, ?_, ?_, ?_⟩, Nat.le_of_eq hposition.symm⟩
    · rw [htimeline]
      exact h.factory
    · rw [htimeline, hposition]
      exact h.window
    · rw [hposition]
      exact h.inRange
    · rw [hstale, hposition]
      exact h.stale
  | tick =>
    obtain ⟨hnext, honward⟩ := h.onward
    refine ⟨hnext, ?_⟩
    show t.position ≤ t.nextFrame.state.position
    generalize t.nextFrame.value = value, t.nextFrame.state = t', t.settleFilings = filed,
      t.settlesHeld = held at honward
    cases honward with
    | idle hposition => omega
    | refused hposition => omega
    | framed _ hposition _ => omega

/-! ## Commitments put off -/

/-- `e'` is `e`, put off to bucket `q` at most if it was meant for an earlier one. -/
structure PutOff (q : Nat) (e' e : Commitment α) : Prop where
  same : (e.retarget e'.deliveryTime).Identified e'
  notEarlier : e.deliveryTime ≤ e'.deliveryTime
  notLater : e'.deliveryTime ≤ max e.deliveryTime q

omit [Outage φ] in
theorem PutOff.refl (q : Nat) (e : Commitment α) : PutOff q e e :=
  ⟨.refl e, Nat.le_refl _, Nat.le_max_left _ _⟩

omit [Outage φ] in
theorem PutOff.trans {q : Nat} {e e' e'' : Commitment α} (h' : PutOff q e'' e')
    (h : PutOff q e' e) : PutOff q e'' e := by
  have hlater := h.notLater
  have hlater' := h'.notLater
  refine ⟨?_, Nat.le_trans h.notEarlier h'.notEarlier, by omega⟩
  obtain ⟨id, heq, hid⟩ := h.same
  obtain ⟨id', heq', hid'⟩ := h'.same
  refine ⟨id', ?_, ?_⟩
  · rw [heq', heq]
    rfl
  · rcases hid with hnone | rfl
    · exact Or.inl hnone
    · rw [heq] at hid'
      exact hid'

omit [Outage φ] in
theorem PutOff.mono {q q' : Nat} {e e' : Commitment α} (h : PutOff q e' e) (hq : q ≤ q') :
    PutOff q' e' e := by
  have hlater := h.notLater
  exact ⟨h.same, h.notEarlier, by omega⟩

omit [Outage φ] in
/-- What is tried at `q` is meant for `q` at least. -/
theorem putOff_caughtUp {q : Nat} {e e' : Commitment α} (h : (e.caughtUp q).Identified e') :
    PutOff q e' e ∧ e'.deliveryTime = max e.deliveryTime q := by
  have hcaught := e.caughtUp_eq q
  obtain ⟨id, rfl, hid⟩ := h
  rw [hcaught] at hid ⊢
  exact ⟨⟨⟨id, rfl, hid⟩, Nat.le_max_left _ _, Nat.le_refl _⟩, rfl⟩

omit [Outage φ] in
/-- Commitments filed again or held again stay in order. -/
theorem refiled_putOff {q : Nat} {es filed held : List (Commitment α)}
    (h : Refiled (es.map (·.caughtUp q)) filed held) :
    List.SublistForall₂ (PutOff q) filed es ∧ List.SublistForall₂ (PutOff q) held es := by
  induction es generalizing filed held with
  | nil =>
    cases h
    exact ⟨.nil, .nil⟩
  | cons e es ih =>
    cases h with
    | filed hid rest =>
      obtain ⟨hfiled, hheld⟩ := ih rest
      exact ⟨.cons (putOff_caughtUp hid).1 hfiled, .cons_right hheld⟩
    | held hid rest =>
      obtain ⟨hfiled, hheld⟩ := ih rest
      exact ⟨.cons_right hfiled, .cons (putOff_caughtUp hid).1 hheld⟩

/-- Those of `es` that are left in `es'`, in order, each put off to bucket `q` at most. -/
abbrev LeftOf (q : Nat) (es' es : List (Commitment α)) : Prop := List.SublistForall₂ (PutOff q) es' es

omit [Outage φ] in
theorem leftOf_refl (q : Nat) (es : List (Commitment α)) : LeftOf q es es := by
  induction es with
  | nil => exact .nil
  | cons e es ih => exact .cons (.refl q e) ih

omit [Outage φ] in
theorem leftOf_trans {q : Nat} {es es' es'' : List (Commitment α)} (h' : LeftOf q es'' es')
    (h : LeftOf q es' es) : LeftOf q es'' es := by
  have htrans : IsTrans (Commitment α) (PutOff q) := ⟨fun _ _ _ => PutOff.trans⟩
  exact List.SublistForall₂.is_trans.trans _ _ _ h' h

omit [Outage φ] in
theorem leftOf_mono {q q' : Nat} {es es' : List (Commitment α)} (h : LeftOf q es' es)
    (hq : q ≤ q') : LeftOf q' es' es := by
  induction h with
  | nil => exact .nil
  | cons he _ ih => exact .cons (he.mono hq) ih
  | cons_right _ ih => exact .cons_right ih

/-! ## One commitment held back -/

/-- A commitment `e` that was held back between `before` and `behind` still is, behind what is left
of the one and ahead of what is left of the other and of what was held back since. -/
def StillHeld (before : List (Commitment α)) (e : Commitment α) (behind : List (Commitment α))
    (t : Track α φ) : Prop :=
  ∃ before' e' behind' since, t.stranded = before' ++ e' :: (behind' ++ since) ∧
    PutOff t.position e' e ∧ LeftOf t.position before' before ∧ LeftOf t.position behind' behind

/-- The retries of a tick at `t` file `e`, in its bucket or in the current one if that is later:
behind what the bucket holds and behind those of `before` that they file too. -/
def FiledAgain (before : List (Commitment α)) (e : Commitment α) (t : Track α φ) : Prop :=
  ∃ ahead e' after, t.retryFilings = ahead ++ e' :: after ∧
    (e.retarget (max e.deliveryTime t.position)).Identified e' ∧ LeftOf t.position ahead before ∧
    t.retryDeferred.state.store.contents e'.deliveryTime = t.store.contents e'.deliveryTime ++
      (dueAt e'.deliveryTime ahead ++ e' :: dueAt e'.deliveryTime after)

/-- The next tick files it or holds it back again. -/
theorem InStep.tried {t : Track α φ} (h : t.InStep) {before behind : List (Commitment α)}
    {e : Commitment α} (hheld : t.StillHeld before e behind) :
    t.FiledAgain before e ∨ (t.perform .tick).StillHeld before e behind := by
  obtain ⟨before', e', behind', since, hstranded, hputOff, hbefore, hbehind⟩ := hheld
  have hrefiled := retryDeferred_refiled h.sturdy
  have hnext : (t.perform .tick).stranded = t.retriesHeld ++ t.settlesHeld := nextFrame_holds t
  have hlater := (h.perform .tick).2
  rw [hstranded, List.map_append, List.map_cons] at hrefiled
  obtain ⟨ahead, filed, held₁, held, hfilings, hheld, hfront, hrest⟩ := hrefiled.split
  obtain ⟨hahead, hheld₁⟩ := refiled_putOff hfront
  cases hrest with
  | @filed _ e'' _ after _ hid _ =>
    left
    obtain ⟨hsame, hbucket⟩ := putOff_caughtUp hid
    have hsame := hsame.trans hputOff
    have hnotEarlier := hputOff.notEarlier
    have hnotLater := hputOff.notLater
    have hmax : e''.deliveryTime = max e.deliveryTime t.position := by omega
    refine ⟨ahead, e'', after, hfilings, hmax ▸ hsame.same, leftOf_trans hahead hbefore, ?_⟩
    rw [h.retried.2.2.2 _ (by omega), hfilings, Commitment.dueAt_append]
    have hdue : dueAt e''.deliveryTime (e'' :: after) =
        e'' :: dueAt e''.deliveryTime after := List.filter_cons_of_pos (by simp)
    rw [hdue]
  | @held _ e'' _ _ held₂ hid hrest =>
    right
    obtain ⟨hsame, _⟩ := putOff_caughtUp hid
    rw [List.map_append] at hrest
    obtain ⟨_, _, heldBehind, heldSince, _, rfl, hback, _⟩ := hrest.split
    refine ⟨held₁, e'', heldBehind, heldSince ++ t.settlesHeld, ?_, ?_, ?_, ?_⟩
    · rw [hnext, hheld]
      simp only [List.append_assoc, List.cons_append]
    · exact (hsame.trans hputOff).mono hlater
    · exact leftOf_mono (leftOf_trans hheld₁ hbefore) hlater
    · exact leftOf_mono (leftOf_trans (refiled_putOff hback).2 hbehind) hlater

/-- What becomes of a commitment held back: it is held back all along, or up to a tick whose retries
file it. -/
inductive Fate (before : List (Commitment α)) (e : Commitment α) (behind : List (Commitment α))
    (t : Track α φ) (rs : List (Request α)) : Prop
  | held (waits : ∀ a, a <+: rs → (t.run a).StillHeld before e behind)
  | filed {a b : List (Request α)} (split : rs = a ++ .tick :: b)
      (waits : ∀ a', a' <+: a → (t.run a').StillHeld before e behind)
      (files : (t.run a).FiledAgain before e)

theorem InStep.run {t : Track α φ} (h : t.InStep) (rs : List (Request α)) : (t.run rs).InStep := by
  induction rs generalizing t with
  | nil => exact h
  | cons r rs ih => exact ih (h.perform r).1

/-- Requests one after the other: each tick tries the commitment once. -/
theorem InStep.fate {t : Track α φ} (h : t.InStep) {before behind : List (Commitment α)}
    {e : Commitment α} (hheld : t.stranded = before ++ e :: behind) (rs : List (Request α)) :
    Fate before e behind t rs := by
  induction rs using List.reverseRecOn with
  | nil =>
    refine .held ?_
    intro a ha
    rw [List.prefix_nil.mp ha]
    exact ⟨before, e, behind, [], by rw [List.append_nil]; exact hheld, .refl _ e,
      leftOf_refl _ before, leftOf_refl _ behind⟩
  | append_singleton rs r ih =>
    cases ih with
    | filed hsplit hwaits hfiles =>
      exact .filed (by rw [hsplit, List.append_assoc]; rfl) hwaits hfiles
    | held hwaits =>
      have hlast := hwaits rs (List.prefix_refl rs)
      have hextended : (t.run (rs ++ [r])).StillHeld before e behind →
          ∀ a, a <+: rs ++ [r] → (t.run a).StillHeld before e behind := by
        intro hnow a ha
        rcases List.prefix_concat_iff.mp ha with rfl | ha
        · exact hnow
        · exact hwaits a ha
      cases r with
      | schedule e' =>
        obtain ⟨hbase, hstranded⟩ := schedule_base ((t.run rs).numbered e') (t.run rs)
        have hposition : ((t.run rs).perform (.schedule e')).position = (t.run rs).position :=
          congrArg (·.2.1) hbase
        refine .held (hextended ?_)
        rw [run_snoc]
        obtain ⟨before', e'', behind', since, heq, hputOff, hbefore, hbehind⟩ := hlast
        rw [← hposition] at hputOff hbefore hbehind
        exact ⟨before', e'', behind', since, hstranded.trans heq, hputOff, hbefore, hbehind⟩
      | tick =>
        rcases (h.run rs).tried hlast with hfiles | hstill
        · exact .filed rfl hwaits hfiles
        · refine .held (hextended ?_)
          rw [run_snoc]
          exact hstill

/-! ## The law -/

/-- Tracks over a store, which may hold buckets, set up by their owner and not used yet. -/
inductive Hosted : Track α φ → Prop
  | ofStore (s : Store α φ) : Hosted (ofStore s)
  | withName {t : Track α φ} (name : String) : Hosted t → Hosted (t.withName name)
  | withFrameWidth {t : Track α φ} (width : Nat) : Hosted t → Hosted (t.withFrameWidth width)
  | withIncrement {t : Track α φ} (increment : Nat) : Hosted t → Hosted (t.withIncrement increment)
  | withAudit {t : Track α φ} (trail : AuditTrail) : Hosted t → Hosted (t.withAudit trail)
  | stamped {t : Track α φ} (stamp : Nat) : Hosted t → Hosted { t with stamp := stamp }

theorem Hosted.inStep {t : Track α φ} (h : t.Hosted) (hsturdy : t.store.Sturdy) : t.InStep := by
  induction h with
  | ofStore s =>
    refine ⟨hsturdy, rfl, ⟨rfl, rfl, rfl⟩, Nat.zero_le _, ?_⟩
    intro id hid
    cases hid
  | withName _ _ ih | withFrameWidth _ _ ih | withIncrement _ _ ih | withAudit _ _ ih
  | stamped _ _ ih =>
    obtain ⟨hstore, hfactory, hwindow, hrange, hstale⟩ := ih hsturdy
    exact ⟨hstore, hfactory, hwindow, hrange, hstale⟩

/-- What a tick does about the commitments held back, and which ones it holds back itself. -/
structure Retried (t : Track α φ) : Prop where
  first : ∃ rest, t.nextFrame.notes = t.retryDeferred.notes ++ rest
  once : t.retryDeferred.notes.filterMap Note.lookedUp? =
    t.stranded.map fun e => max e.deliveryTime t.position
  unasked : t.retryDeferred.notes.filterMap Note.consulted? = []
  tried : Refiled (t.stranded.map (·.caughtUp t.position)) t.retryFilings t.retriesHeld
  filed : ∀ id, t.position ≤ id → t.retryDeferred.state.store.contents id =
    t.store.contents id ++ dueAt id t.retryFilings
  left : t.nextFrame.state.stranded = t.retriesHeld ++ t.settlesHeld
  refused : Onward t t.nextFrame.value t.nextFrame.state t.settleFilings t.settlesHeld
  inTime : ∀ e ∈ t.settlesHeld, ∀ a : List (Request α), (∀ r ∈ a, r ≠ .tick) →
    max e.deliveryTime ((t.perform .tick).run a).position = e.deliveryTime

theorem run_position_of_untimed (t : Track α φ) {a : List (Request α)}
    (h : ∀ r ∈ a, r ≠ .tick) : (t.run a).position = t.position := by
  induction a generalizing t with
  | nil => rfl
  | cons r a ih =>
    obtain ⟨hr, ha⟩ := List.forall_mem_cons.mp h
    refine (ih (t.perform r) ha).trans ?_
    cases r with
    | schedule e => exact schedule_position t (t.numbered e)
    | tick => exact absurd rfl hr

theorem InStep.law {t : Track α φ} (h : t.InStep) : Retried t := by
  have honward := h.onward.2
  refine ⟨nextFrame_notes t, (retryDeferred_notes t).1, (retryDeferred_notes t).2,
    retryDeferred_refiled h.sturdy, h.retried.2.2.2, nextFrame_holds t, honward, ?_⟩
  intro e he a ha
  rw [run_position_of_untimed _ ha]
  apply Nat.max_eq_left
  show t.nextFrame.state.position ≤ e.deliveryTime
  generalize t.nextFrame.value = value, t.nextFrame.state = t', t.settleFilings = filed,
    t.settlesHeld = held at honward he
  cases honward with
  | idle _ => cases he
  | refused _ => cases he
  | framed hlt hposition hrefiled =>
    obtain ⟨_, hmem, id, rfl, _⟩ := hrefiled.origin (List.mem_append_right _ he)
    obtain ⟨c, _, rfl⟩ := List.mem_map.mp hmem
    rw [hposition]
    exact c.lt_onward hlt t.increment

/-- The law of retries: in every state that requests lead to, whatever store calls fail on the way,
a tick begins by trying each commitment held back once, asks no policy for it and keeps those that
are refused again in order ahead of those that it holds back itself; and a commitment held back is
tried by every tick that follows until one files it, in the bucket chosen for it or the current one
if that is later, behind what the bucket holds. -/
theorem retry_law {t₀ : Track α φ} (h : t₀.Hosted) (hsturdy : t₀.store.Sturdy)
    (rs : List (Request α)) :
    Retried (t₀.run rs) ∧ ∀ before e behind, (t₀.run rs).stranded = before ++ e :: behind →
      ∀ rs', Fate before e behind (t₀.run rs) rs' := by
  have hinStep := (h.inStep hsturdy).run rs
  exact ⟨hinStep.law, fun _ _ _ hheld rs' => hinStep.fate hheld rs'⟩

/-- The third save was refused, and the first commitment waits for bucket 2. The next tick files it
there, and drains it. -/
theorem retry_law_troubled :
    (Retried (troubled.run requests) ∧ ∀ before e behind,
        (troubled.run requests).stranded = before ++ e :: behind →
          ∀ rs', Fate before e behind (troubled.run requests) rs') ∧
      (troubled.run requests).stranded.map (fun e => (e.mark, e.deliveryTime)) = [(0, 2)] ∧
      (troubled.run requests).retryFilings.map (fun e => (e.mark, e.deliveryTime)) = [(0, 2)] :=
  ⟨retry_law (.ofStore _) (Store.sturdy_empty troubled_keepsEvents) requests, by decide +kernel,
    by decide +kernel⟩

end BucketClock.Track
