import BucketClock.Proofs.Store.Withdrawal
import BucketClock.Proofs.Track.Conservation
import BucketClock.Proofs.Track.Output

/-!
What a tick answers. Before the last bucket a tick yields no frame exactly if
nothing is pending, and fails exactly if the fetch of the bucket at the clock
does; otherwise it hands out a frame. A failure leaves no trace but that of the
retries before it, and a tick without a frame has nothing to try again but the
removals of drained buckets.

Main statement: `tick_outcome`.
-/

namespace BucketClock

namespace Store

variable {α φ : Type} [Outage φ]

theorem fetch_of_get_error {s : Store α φ} {id : Nat} {error : TrackError}
    (h : (s.get id).value = .error error) (factory : Nat → Bucket α) :
    s.fetch factory id = ⟨.error error, s.asked (.get id), [.called (.get id) .failed]⟩ := by
  simp only [get] at h
  cases hm : (Outage.meet s.outage (.get id)).1 with
  | none =>
    rw [hm] at h
    cases h
  | some f =>
    rw [hm] at h
    cases h
    exact fetch_failed hm factory

theorem get_of_fetch_error {s : Store α φ} {id : Nat} {factory : Nat → Bucket α}
    {error : TrackError} (h : (s.fetch factory id).value = .error error) :
    (s.get id).value = .error error := by
  simp only [fetch] at h
  cases hv : (s.get id).value with
  | error e =>
    rw [hv] at h
    exact congrArg Except.error (Except.error.inj h)
  | ok found =>
    rw [hv] at h
    cases found with
    | none => cases h
    | some slot => cases h

end Store

namespace Track

open Commitment (goods)

variable {α φ : Type} [Outage φ]

/-! ## Removals tried again -/

/-- From `t` to `t'` removals of the buckets `ids` were tried, and nothing else was done: each is
made or was put on the list again, and `again` are those on the list. -/
structure Tried (t t' : Track α φ) (ids again : List Nat) : Prop where
  same : ∃ shelf outage, t' = { t with
    store := { t.store with shelf := shelf, outage := outage }, stale := t.stale ++ again }
  requeued : again.Sublist ids
  completed : ∀ id ∈ ids, id ∈ again ∨ t'.store.lookup id = none
  kept : ∀ id, t'.store.lookup id = t.store.lookup id ∨ id ∈ ids ∧ t'.store.lookup id = none

omit [Outage φ] in
theorem Tried.refl (t : Track α φ) : Tried t t [] [] := by
  refine ⟨⟨t.store.shelf, t.store.outage, ?_⟩, .slnil, ?_, fun _ => Or.inl rfl⟩
  · rw [List.append_nil]
  · intro id hid
    cases hid

omit [Outage φ] in
theorem Tried.trans {t t' t'' : Track α φ} {ids ids' again again' : List Nat}
    (h : Tried t t' ids again) (h' : Tried t' t'' ids' again') :
    Tried t t'' (ids ++ ids') (again ++ again') := by
  have hgone : ∀ id, t'.store.lookup id = none → t''.store.lookup id = none := by
    intro id hnone
    rcases h'.kept id with hsame | ⟨_, hnone'⟩
    · exact hsame.trans hnone
    · exact hnone'
  refine ⟨?_, h.requeued.append h'.requeued, ?_, ?_⟩
  · obtain ⟨_, _, rfl⟩ := h.same
    obtain ⟨shelf, outage, rfl⟩ := h'.same
    exact ⟨shelf, outage, by simp only [List.append_assoc]⟩
  · intro id hid
    rcases List.mem_append.mp hid with hid | hid
    · rcases h.completed id hid with hagain | hnone
      · exact Or.inl (List.mem_append_left _ hagain)
      · exact Or.inr (hgone id hnone)
    · exact (h'.completed id hid).imp_left (List.mem_append_right _)
  · intro id
    rcases h.kept id with hsame | ⟨hid, hnone⟩
    · rcases h'.kept id with hsame' | ⟨hid, hnone⟩
      · exact Or.inl (hsame'.trans hsame)
      · exact Or.inr ⟨List.mem_append_right _ hid, hnone⟩
    · exact Or.inr ⟨List.mem_append_left _ hid, hgone id hnone⟩

/-- A removal that fails is put on the list again, even if it took effect. -/
theorem removeBucket_tried (id : Nat) (t : Track α φ) :
    ∃ again, Tried t (t.removeBucket id).state [id] again := by
  have herased : ∀ j, (t.store.erase id).lookup j = t.store.lookup j ∨
      j ∈ [id] ∧ (t.store.erase id).lookup j = none := by
    intro j
    simp only [Store.lookup, Store.erase, Shelf.find?_erase]
    split
    · next heq => exact Or.inr ⟨List.mem_singleton.mpr heq, rfl⟩
    · exact Or.inl rfl
  have hgone : (t.store.erase id).lookup id = none := by
    simp [Store.lookup, Store.erase, Shelf.find?_erase]
  simp only [removeBucket, Store.remove]
  cases (Outage.meet t.store.outage (.remove id)).1 with
  | none =>
    refine ⟨[], ?_, List.nil_sublist _, ?_, herased⟩
    · simp only [List.append_nil]
      exact ⟨_, _, rfl⟩
    · intro j hj
      rw [List.mem_singleton.mp hj]
      exact Or.inr hgone
  | some f =>
    refine ⟨[id], ?_, .refl _, fun j hj => Or.inl hj, ?_⟩
    · simp only
      split
      · exact ⟨_, _, rfl⟩
      · exact ⟨_, _, rfl⟩
    · simp only
      split
      · exact herased
      · exact fun _ => Or.inl rfl

theorem each_removeBucket_tried (ids : List Nat) (t : Track α φ) :
    ∃ again, Tried t (Outcome.each removeBucket ids t).state ids again := by
  induction ids generalizing t with
  | nil => exact ⟨[], .refl t⟩
  | cons id ids ih =>
    obtain ⟨first, hfirst⟩ := removeBucket_tried id t
    obtain ⟨rest, hrest⟩ := ih (t.removeBucket id).state
    exact ⟨first ++ rest, hfirst.trans hrest⟩

/-- With nothing held back the retries of a tick are removals. -/
theorem retryDeferred_tried {t : Track α φ} (h : t.stranded = []) :
    ∃ again, Tried { t with stale := [] } t.retryDeferred.state t.stale again := by
  obtain ⟨again, htried⟩ := each_removeBucket_tried t.stale { t with stale := [] }
  have hcleared : t.cleared.stranded = [] := by
    obtain ⟨_, _, hsame⟩ := htried.same
    exact (congrArg stranded hsame).trans h
  have hstate : t.retryDeferred.state = { t.cleared with stranded := [] } := by
    show (Outcome.each retry t.cleared.stranded { t.cleared with stranded := [] }).state = _
    rw [hcleared]
    rfl
  have hsame : ({ t.cleared with stranded := [] } : Track α φ) = t.cleared := by
    rw [← hcleared]
  rw [hstate, hsame]
  exact ⟨again, htried⟩

theorem retryDeferred_of_none {t : Track α φ} (h : t.hasDeferredWork = false) :
    t.retryDeferred.state = t := by
  simp only [hasDeferredWork, Bool.or_eq_false_iff, Bool.not_eq_false', List.isEmpty_iff] at h
  obtain ⟨hstranded, hstale⟩ := h
  obtain ⟨name, timeline, store, position, horizon, pending, frameWidth, increment, counters,
    stranded, stale, audit, stamp, hwidth, hincrement⟩ := t
  cases hstranded
  cases hstale
  rfl

/-! ## The fetch of a tick -/

/-- A fetch that fails ends the tick where it is. -/
theorem Sound.takeBucket_refused {t : Track α φ} (h : t.Sound) (hlt : t.position < Index.last)
    {error : TrackError} (hget : (t.store.get t.position).value = .error error) :
    t.takeBucket = ⟨.error error, { t with store := t.store.asked (.get t.position) },
      [.called (.get t.position) .failed]⟩ := by
  have hfetch := Store.fetch_of_get_error hget t.timeline.factory
  have htake : t.timeline.window.take (fun id s => s.fetch t.timeline.factory id) 1 t.store =
      ⟨.error error, (t.timeline.window, t.store.asked (.get t.position)),
        [.called (.get t.position) .failed]⟩ := h.window.take_refused hlt hfetch
  simp only [takeBucket, Timeline.take, htake]

theorem Sound.takeBucket_served {t : Track α φ} (h : t.Sound) (hlt : t.position < Index.last)
    (hget : ∀ error, (t.store.get t.position).value ≠ .error error) :
    ∃ slot, t.takeBucket.value = .ok slot := by
  obtain ⟨_, _, _, _, hcases⟩ := takeBucket_spec h.ready h.window h.inRange
  rcases hcases with ⟨_, _, hlast | ⟨error, hfetch⟩⟩ | ⟨slot, hvalue, _⟩
  · omega
  · exact absurd (Store.get_of_fetch_error hfetch) (hget error)
  · exact ⟨slot, hvalue⟩

/-! ## The outcome of a tick -/

/-- What a tick that fails at its fetch leaves behind. -/
structure Refused (t : Track α φ) : Prop where
  same : t.nextFrame.state = { t.retryDeferred.state with
    store := t.retryDeferred.state.store.asked (.get t.position) }
  calls : t.nextFrame.notes = t.retryDeferred.notes ++ [.called (.get t.position) .failed]
  position : t.nextFrame.state.position = t.position
  pending : t.nextFrame.state.pending = t.pending
  timeline : t.nextFrame.state.timeline = t.timeline
  output : t.nextFrame.state.counters.frames = t.counters.frames ∧
    t.nextFrame.state.counters.deliveredItems = t.counters.deliveredItems
  scheduled : t.nextFrame.state.counters.scheduled = t.counters.scheduled
  retired : t.nextFrame.state.counters.retired = t.counters.retired
  goods : (t.nextFrame.state.live.map goods).Perm (t.live.map goods)
  untried : t.hasDeferredWork = false →
    t.nextFrame.state = { t with store := t.store.asked (.get t.position) }

/-- A tick that hands out a frame moves both clocks on by one bucket. -/
structure Advanced (t t' : Track α φ) : Prop where
  position : t'.position = t.position + 1
  window : t'.timeline.window.position = t.timeline.window.position + 1
  frames : t'.counters.frames = t.counters.frames + 1

/-- The answers of a tick, when each is given, and what it means. -/
structure Answered (t : Track α φ) : Prop where
  idle_iff : t.nextFrame.value = .ok none ↔ t.pending = 0
  idle : t.nextFrame.value = .ok none →
    (∀ id ∈ t.stale, id < t.position ∧ t.store.contents id = []) ∧
      ∃ again, Tried { t with stale := [] } t.nextFrame.state t.stale again
  refused_iff : ∀ error, t.nextFrame.value = .error error ↔
    0 < t.pending ∧ (t.retryDeferred.state.store.get t.position).value = .error error
  refused : ∀ error, t.nextFrame.value = .error error → Refused t
  framed_iff : (∃ frame, t.nextFrame.value = .ok (some frame)) ↔
    0 < t.pending ∧ ∀ error, (t.retryDeferred.state.store.get t.position).value ≠ .error error
  framed : ∀ frame, t.nextFrame.value = .ok (some frame) → Advanced t t.nextFrame.state

theorem Sound.retryDeferred_pending {t : Track α φ} (h : t.Sound) :
    t.retryDeferred.state.pending = t.pending := by
  obtain ⟨_, _, hturn, _, _⟩ := retryDeferred_turn h
  have hlength := (retryDeferred_goods h).length_eq
  rw [List.length_map, List.length_map, ← hturn.sound.pending, ← h.pending] at hlength
  exact hlength

theorem Sound.nextFrame_idle {t : Track α φ} (h : t.Sound) (hpending : t.pending = 0) :
    t.nextFrame.value = .ok none ∧
      ∃ again, Tried { t with stale := [] } t.nextFrame.state t.stale again := by
  have hlive : t.live = [] := List.length_eq_zero_iff.mp (h.pending.symm.trans hpending)
  have hstranded : t.stranded = [] := (List.append_eq_nil_iff.mp hlive).2
  have hpending' := h.retryDeferred_pending.trans hpending
  simp only [nextFrame, if_pos hpending']
  exact ⟨trivial, retryDeferred_tried hstranded⟩

theorem Sound.nextFrame_refused {t : Track α φ} (h : t.Sound) (hlt : t.position < Index.last)
    (hpending : 0 < t.pending) {error : TrackError}
    (hget : (t.retryDeferred.state.store.get t.position).value = .error error) :
    t.nextFrame = ⟨.error error, { t.retryDeferred.state with
        store := t.retryDeferred.state.store.asked (.get t.position) },
      t.retryDeferred.notes ++ [.called (.get t.position) .failed]⟩ := by
  obtain ⟨_, _, hturn, hposition, _⟩ := retryDeferred_turn h
  have hpending' : t.retryDeferred.state.pending ≠ 0 := by
    rw [h.retryDeferred_pending]
    exact Nat.ne_of_gt hpending
  rw [← hposition] at hlt hget
  have htaken := hturn.sound.takeBucket_refused hlt hget
  simp only [nextFrame, if_neg hpending', htaken, hposition]

theorem Sound.nextFrame_framed {t : Track α φ} (h : t.Sound) (hlt : t.position < Index.last)
    (hpending : 0 < t.pending)
    (hget : ∀ error, (t.retryDeferred.state.store.get t.position).value ≠ .error error) :
    ∃ frame, t.nextFrame.value = .ok (some frame) := by
  obtain ⟨_, _, hturn, hposition, _⟩ := retryDeferred_turn h
  have hpending' : t.retryDeferred.state.pending ≠ 0 := by
    rw [h.retryDeferred_pending]
    exact Nat.ne_of_gt hpending
  rw [← hposition] at hlt hget
  obtain ⟨slot, hslot⟩ := hturn.sound.takeBucket_served hlt hget
  simp only [nextFrame, if_neg hpending', hslot]
  exact ⟨_, rfl⟩

/-- What a refused tick changed is what its retries changed. -/
theorem Sound.refused {t : Track α φ} (h : t.Sound) {error : TrackError}
    (hnext : t.nextFrame = ⟨.error error, { t.retryDeferred.state with
        store := t.retryDeferred.state.store.asked (.get t.position) },
      t.retryDeferred.notes ++ [.called (.get t.position) .failed]⟩) : Refused t := by
  obtain ⟨_, _, hturn, hposition, _⟩ := retryDeferred_turn h
  have hgoods := retryDeferred_goods h
  have hpending := h.retryDeferred_pending
  have houtput := retryDeferred_output t
  have hcounted := hturn.sound.counted
  have hretired := hturn.retired
  rw [← hturn.sound.pending, hpending, hretired, h.pending, Nat.add_zero, ← h.counted] at hcounted
  refine ⟨?_, ?_, ?_, ?_, ?_, ?_, ?_, ?_, ?_, ?_⟩
  · rw [hnext]
  · rw [hnext]
  · rw [hnext]
    exact hposition
  · rw [hnext]
    exact hpending
  · rw [hnext]
    exact retryDeferred_timeline t
  · rw [hnext]
    exact Prod.mk.inj houtput
  · rw [hnext]
    exact hcounted
  · rw [hnext]
    exact hretired
  · rw [hnext]
    exact hgoods
  · intro hnone
    rw [hnext, retryDeferred_of_none hnone]

theorem Sound.advanced {t : Track α φ} (h : t.Sound) {frame : List α}
    (hframe : t.nextFrame.value = .ok (some frame)) : Advanced t t.nextFrame.state := by
  have hsound : t.nextFrame.state.Sound := (h.perform (r := .tick) trivial).sound
  obtain ⟨_, _, hposition⟩ := frame_of_tick h hframe
  have houtput := nextFrame_output t
  simp only [frames, hframe] at houtput
  refine ⟨hposition, ?_, congrArg Prod.fst houtput⟩
  rw [hsound.window.position, h.window.position, hposition]

/-- The answer of a tick is read off the count and the fetch. -/
theorem Sound.answer {t : Track α φ} (h : t.Sound) (hlt : t.position < Index.last) :
    t.pending = 0 ∧ t.nextFrame.value = .ok none ∨
      0 < t.pending ∧
        ((∃ error, (t.retryDeferred.state.store.get t.position).value = .error error ∧
            t.nextFrame.value = .error error) ∨
          (∀ error, (t.retryDeferred.state.store.get t.position).value ≠ .error error) ∧
            ∃ frame, t.nextFrame.value = .ok (some frame)) := by
  rcases Nat.eq_zero_or_pos t.pending with hpending | hpending
  · exact Or.inl ⟨hpending, (h.nextFrame_idle hpending).1⟩
  · refine Or.inr ⟨hpending, ?_⟩
    by_cases hget : ∃ error, (t.retryDeferred.state.store.get t.position).value = .error error
    · obtain ⟨error, hget⟩ := hget
      refine Or.inl ⟨error, hget, ?_⟩
      rw [h.nextFrame_refused hlt hpending hget]
    · have hserved := not_exists.mp hget
      exact Or.inr ⟨hserved, h.nextFrame_framed hlt hpending hserved⟩

theorem Sound.answered {t : Track α φ} (h : t.Sound) (hlt : t.position < Index.last) :
    Answered t := by
  have hdrained : ∀ id ∈ t.stale, id < t.position ∧ t.store.contents id = [] :=
    fun id hid => ⟨h.stale id hid, h.contents_eq_nil (h.stale id hid)⟩
  rcases h.answer hlt with ⟨hpending, hvalue⟩ |
    ⟨hpending, ⟨error, hget, hvalue⟩ | ⟨hget, frame, hvalue⟩⟩
  · have hidle := (h.nextFrame_idle hpending).2
    constructor
    case idle => exact fun _ => ⟨hdrained, hidle⟩
    all_goals simp [hvalue, hpending]
  · have hrefused := h.refused (h.nextFrame_refused hlt hpending hget)
    constructor
    case refused => exact fun _ _ => hrefused
    all_goals simp [hvalue, hget, hpending, Nat.ne_of_gt hpending]
  · have hadvanced := h.advanced hvalue
    constructor
    case framed => exact fun _ _ => hadvanced
    case framed_iff => exact iff_of_true ⟨frame, hvalue⟩ ⟨hpending, hget⟩
    all_goals simp [hvalue, hget, Nat.ne_of_gt hpending]

/-- The outcome of a tick: in every state before the last bucket that requests lead to, whatever
store calls fail on the way, a tick yields no frame if nothing is pending, fails if something is
and the fetch of the bucket at the clock fails, and hands out a frame otherwise. -/
theorem tick_outcome {t₀ : Track α φ} (h : t₀.Opened) (hkeeps : Outage.KeepsEvents t₀.store.outage)
    {rs : List (Request α)} (hfull : ∀ r ∈ rs, r.Full)
    (hlast : (t₀.run rs).position < Index.last) : Answered (t₀.run rs) :=
  (tally_run h hkeeps hfull).sound.answered hlast

/-- A store that cannot look bucket 1 up for the second time. -/
def barred : Track Nat (List PlannedFailure) :=
  .ofStore (.empty
    [{ kind := .get, id := some 1, skip := 1, failure := ⟨.told .backend "closed", .none⟩ }])

/-- The second tick on `barred` is refused: commitment 0 stays in bucket 1. -/
theorem tick_outcome_barred :
    Answered (barred.run [.schedule { deliveryTime := 1, supply := .ofList [3] }, .tick]) ∧
      (barred.run [.schedule { deliveryTime := 1, supply := .ofList [3] }, .tick]).nextFrame.value =
        .error (.told .backend "closed") := by
  have hfull : ∀ r ∈ [Request.schedule { deliveryTime := 1, supply := Supply.ofList [3] }, .tick],
      r.Full := by simp [Request.Full]
  exact ⟨tick_outcome (.ofStore _) (keepsEvents_plan (by decide)) hfull (by decide +kernel),
    by decide +kernel⟩

end Track
end BucketClock
