import BucketClock.Proofs.Track.Course
import BucketClock.Proofs.Track.Output
import BucketClock.Proofs.Track.Sound
import Mathlib.Data.List.Induction

/-!
Tracks whose first buckets are given. The window of a timeline may be set up with
buckets of its own for the first positions. A tick drains those, while
commitments are filed in the buckets of the store: what is filed for such a
position is never drained, and the tick at that position takes it off the shelf.
At every later position a tick drains what was filed, and takes nothing off the
shelf that was not drained.

Main statement: `seeded`. The smallest loss is `seeded_swallows`.
-/

namespace BucketClock

namespace Track

open Commitment (dueAt)

variable {α φ : Type} [Outage φ]

/-! ## What a tick drains and what it takes off the shelf -/

/-- The bucket that a tick drains, as the timeline hands it out. -/
def served (t : Track α φ) : Request α → List (Bucket α)
  | .schedule _ => []
  | .tick =>
    let retried := t.retryDeferred.state
    if retried.pending = 0 then []
    else
      match retried.takeBucket.value with
      | .error _ => []
      | .ok slot => [retried.takeBucket.state.store.bucket slot]

/-- The commitments that stand in the store under the id of the drained bucket when a tick removes
that id. -/
def discarded (t : Track α φ) : Request α → List (Commitment α)
  | .schedule _ => []
  | .tick =>
    let retried := t.retryDeferred.state
    if retried.pending = 0 then []
    else
      match retried.takeBucket.value with
      | .error _ => []
      | .ok slot =>
        let taken := retried.takeBucket.state
        (taken.settled slot).store.contents (taken.store.bucket slot).id

/-- The frame of a tick is what the bucket that it serves delivers. -/
theorem frames_eq_served (t : Track α φ) (r : Request α) :
    t.frames r = (t.served r).map fun b => (b.deliverWith t.frameWidth).value := by
  have hsettings := (takeBucket_settings t.retryDeferred.state).trans (retryDeferred_settings t)
  have hwidth : t.retryDeferred.state.takeBucket.state.frameWidth = t.frameWidth :=
    congrArg (·.1) hsettings
  cases r with
  | schedule e => rfl
  | tick =>
    rw [← hwidth]
    simp only [frames, served, nextFrame]
    by_cases hpending : t.retryDeferred.state.pending = 0
    · simp only [if_pos hpending]
      rfl
    · simp only [if_neg hpending]
      cases t.retryDeferred.state.takeBucket.value with
      | error error => rfl
      | ok slot => rfl

/-- The frames of a run are what the buckets that it serves deliver. -/
theorem history_frames (t : Track α φ) (rs : List (Request α)) :
    t.history frames rs =
      (t.history served rs).map fun b => (b.deliverWith t.frameWidth).value := by
  induction rs generalizing t with
  | nil => rfl
  | cons r rs ih =>
    have hwidth : (t.perform r).frameWidth = t.frameWidth :=
      congrArg (·.1) (t.perform_settings r)
    rw [history, history, List.map_append, frames_eq_served, ih, hwidth]

theorem Calm.filings_tick {t : Track α Unit} (h : t.Calm) : t.filings .tick = t.settleFilings := by
  have hnone : t.retryFilings = [] := by
    rw [retryFilings, h.cleared, h.stranded]
    rfl
  rw [filings, hnone, List.nil_append]

/-- A tick with nothing pending does nothing. -/
theorem Calm.tick_idle {t : Track α Unit} (h : t.Calm) (hpending : t.pending = 0) :
    t.nextFrame.value = .ok none ∧ t.nextFrame.state = t ∧ t.filings .tick = [] ∧
      t.served .tick = [] ∧ t.discarded .tick = [] := by
  rw [h.filings_tick]
  simp only [nextFrame, settleFilings, served, discarded, h.retryDeferred, if_pos hpending]
  exact ⟨trivial, trivial, trivial, trivial, trivial⟩

theorem Calm.tick_refused {t : Track α Unit} (h : t.Calm) (hpending : t.pending ≠ 0)
    {error : TrackError} (hvalue : t.takeBucket.value = .error error) :
    t.nextFrame.value = .error error ∧ t.nextFrame.state = t.takeBucket.state ∧
      t.filings .tick = [] ∧ t.served .tick = [] ∧ t.discarded .tick = [] := by
  rw [h.filings_tick]
  simp only [nextFrame, settleFilings, served, discarded, h.retryDeferred, if_neg hpending, hvalue]
  exact ⟨trivial, trivial, trivial, trivial, trivial⟩

/-- A tick with something pending drains the bucket that it takes. -/
theorem Calm.tick_drains {t : Track α Unit} (h : t.Calm) (hpending : t.pending ≠ 0) {slot : Slot}
    (hvalue : t.takeBucket.value = .ok slot) :
    t.nextFrame.value = .ok (some (t.takeBucket.state.drain slot).value) ∧
      t.nextFrame.state = (t.takeBucket.state.drain slot).state ∧
      t.filings .tick = t.takeBucket.state.drainFilings slot ∧
      t.served .tick = [t.takeBucket.state.store.bucket slot] ∧
      t.discarded .tick = (t.takeBucket.state.settled slot).store.contents
        (t.takeBucket.state.store.bucket slot).id := by
  rw [h.filings_tick]
  simp only [nextFrame, settleFilings, served, discarded, h.retryDeferred, if_neg hpending, hvalue]
  exact ⟨trivial, trivial, trivial, trivial, trivial⟩

/-! ## Runs from given buckets -/

/-- A track at position 0 whose window holds the given buckets, numbered from 0 on and not stored,
over a store that never fails. -/
structure SetUp (initial : List (Bucket α)) (t : Track α Unit) : Prop where
  calm : t.Calm
  position : t.position = 0
  window : ∃ slots, t.timeline.window = .ofList slots ∧ slots.map t.store.bucket = initial ∧
    ∀ slot ∈ slots, t.store.Aside slot
  numbered : initial.map (·.id) = List.range initial.length

/-- The bucket that the tick at position `p` drains, if `stored` is what the store held first and
`filed` is what was filed since. -/
def slated (initial : List (Bucket α)) (stored : Nat → List (Commitment α))
    (filed : List (Commitment α)) (p : Nat) : Bucket α :=
  initial.getD p ⟨p, stored p ++ dueAt p filed⟩

/-- What the tick at position `p` takes off the shelf without draining it. -/
def shadowed (initial : List (Bucket α)) (stored : Nat → List (Commitment α))
    (filed : List (Commitment α)) (p : Nat) : List (Commitment α) :=
  if p < initial.length then stored p ++ dueAt p filed else []

theorem slated_id {initial : List (Bucket α)} (h : initial.map (·.id) = List.range initial.length)
    (stored : Nat → List (Commitment α)) (filed : List (Commitment α)) (p : Nat) :
    (slated initial stored filed p).id = p := by
  simp only [slated, List.getD_eq_getElem?_getD]
  cases hb : initial[p]? with
  | none => rfl
  | some b =>
    have hid := congrArg (·[p]?) h
    simp only [List.getElem?_map, hb, Option.map_some] at hid
    have hp := (List.getElem?_eq_some_iff.mp hid.symm).2
    rw [List.getElem_range] at hp
    exact hp.symm

/-- What is filed for later buckets changes neither. -/
theorem dueAt_append_later {p : Nat} {filed new : List (Commitment α)}
    (h : ∀ e ∈ new, p < e.deliveryTime) : dueAt p (filed ++ new) = dueAt p filed := by
  rw [Commitment.dueAt_append, Commitment.dueAt_eq_nil fun e he => Nat.ne_of_gt (h e he),
    List.append_nil]

/-- The state of a run: where the clock is, what is at hand and stored, and what was drained and
discarded so far. -/
structure Seeding (initial : List (Bucket α)) (stored : Nat → List (Commitment α))
    (filed : List (Commitment α)) (served : List (Bucket α)) (discarded : List (Commitment α))
    (t : Track α Unit) : Prop where
  calm : t.Calm
  inRange : t.position ≤ Index.last
  atHand : ∃ slots, t.timeline.window.AtHand slots t.position ∧
    slots.map t.store.bucket = initial.drop t.position ∧ ∀ slot ∈ slots, t.store.Aside slot
  contents : ∀ id, t.store.contents id =
    if id < t.position then [] else stored id ++ dueAt id filed
  served : served = (List.range t.position).map (slated initial stored filed)
  discarded : discarded = (List.range t.position).flatMap (shadowed initial stored filed)

variable {initial : List (Bucket α)} {stored : Nat → List (Commitment α)}
  {filed : List (Commitment α)} {served : List (Bucket α)} {discarded : List (Commitment α)}
  {t : Track α Unit}

/-- Filing at or after the clock does not change what was drained and discarded. -/
theorem Seeding.past (h : Seeding initial stored filed served discarded t)
    {new : List (Commitment α)} (hnew : ∀ e ∈ new, t.position ≤ e.deliveryTime) :
    served = (List.range t.position).map (slated initial stored (filed ++ new)) ∧
      discarded = (List.range t.position).flatMap (shadowed initial stored (filed ++ new)) := by
  have hsame : ∀ p ∈ List.range t.position, dueAt p (filed ++ new) = dueAt p filed := by
    intro p hp
    have hlt := List.mem_range.mp hp
    exact dueAt_append_later fun e he => Nat.lt_of_lt_of_le hlt (hnew e he)
  constructor
  · rw [h.served]
    apply List.map_congr_left
    intro p hp
    rw [slated, slated, hsame p hp]
  · rw [h.discarded]
    apply List.flatMap_congr
    intro p hp
    rw [shadowed, shadowed, hsame p hp]

/-- An accepted commitment is appended to its bucket in the store. -/
theorem Seeding.schedule (h : Seeding initial stored filed served discarded t) {e : Commitment α}
    (hfull : e.phase = .full) :
    Seeding initial stored (filed ++ t.filing (e.admitted t.position)) served discarded
      (t.schedule e).state := by
  have hlater := Commitment.le_admitted h.inRange hfull
  have hphase : (e.admitted t.position).phase = .full := by
    rw [e.admitted_eq t.position]
    exact hfull
  obtain ⟨s, hfiled, _, hstate⟩ := place_calm h.calm (e.admitted t.position)
  obtain ⟨slots, hwindow, hbuckets, haside⟩ := h.atHand
  have hnew : ∀ e' ∈ t.filing (e.admitted t.position), t.position ≤ e'.deliveryTime := by
    rw [filing_calm]
    intro e' he'
    rw [List.mem_singleton.mp he']
    exact hlater
  obtain ⟨hserved, hdiscarded⟩ := h.past hnew
  rw [(t.schedule_eq hfull).2, hstate, counted, if_pos hphase]
  refine ⟨⟨hfiled.orderly, h.calm.factory, h.calm.stranded, h.calm.stale⟩, h.inRange,
    ⟨slots, hwindow, ?_, fun slot hslot => (hfiled.undisturbed slot (haside slot hslot)).1⟩, ?_,
    hserved, hdiscarded⟩
  · refine Eq.trans ?_ hbuckets
    exact List.map_congr_left fun slot hslot => (hfiled.undisturbed slot (haside slot hslot)).2
  · intro id
    have hadded := hfiled.contents_dueAt id
    rw [← filing_calm, h.contents] at hadded
    refine hadded.trans ?_
    show _ = if id < t.position then _ else _
    split
    · next hlt =>
      rw [List.nil_append]
      exact Commitment.dueAt_eq_nil fun e' he' => Nat.ne_of_gt (Nat.lt_of_lt_of_le hlt (hnew e' he'))
    · rw [Commitment.dueAt_append, List.append_assoc]

/-- The track once it took its next bucket: what is in the slot, what is stored under its id, and
what is still at hand. -/
structure Taken (initial : List (Bucket α)) (stored : Nat → List (Commitment α))
    (filed : List (Commitment α)) (slot : Slot) (t t' : Track α Unit) : Prop where
  calm : t'.Calm
  same : ∃ store window,
    t' = { t with store := store, timeline := { t.timeline with window := window } }
  contents : ∀ id, t'.store.contents id = t.store.contents id
  bucket : t'.store.bucket slot = slated initial stored filed t.position
  shadowed : (if t'.store.lookup t.position = some slot then [] else t'.store.contents t.position) =
    shadowed initial stored filed t.position
  rest : ∃ slots, t'.timeline.window.AtHand slots (t.position + 1) ∧
    slots.map t'.store.bucket = initial.drop (t.position + 1) ∧
    ∀ other ∈ slots, t'.store.Aside other ∧ other ≠ slot

/-- While buckets are at hand, the next of them is taken. -/
theorem Seeding.taken_given (h : Seeding initial stored filed served discarded t)
    (hnumbered : initial.map (·.id) = List.range initial.length) {slot : Slot} {rest : List Slot}
    (hwindow : t.timeline.window.AtHand (slot :: rest) t.position)
    (hbuckets : (slot :: rest).map t.store.bucket = initial.drop t.position)
    (haside : ∀ other ∈ slot :: rest, t.store.Aside other) (hlt : t.position < Index.last) :
    t.takeBucket.value = .ok slot ∧ Taken initial stored filed slot t t.takeBucket.state := by
  obtain ⟨hvalue, window, hstate, hrest⟩ := takeBucket_handed hwindow hlt
  have hp : t.position < initial.length := by
    have hlength := congrArg List.length hbuckets
    simp only [List.map_cons, List.length_cons, List.length_drop] at hlength
    omega
  rw [List.drop_eq_getElem_cons hp, List.map_cons] at hbuckets
  obtain ⟨hbucket, hbuckets'⟩ := List.cons.inj hbuckets
  refine ⟨hvalue, ?_⟩
  rw [hstate]
  refine ⟨⟨h.calm.orderly, h.calm.factory, h.calm.stranded, h.calm.stale⟩, ⟨_, _, rfl⟩,
    fun _ => rfl, ?_, ?_, ⟨rest, hrest, hbuckets', ?_⟩⟩
  · rw [slated, List.getD_eq_getElem?_getD, List.getElem?_eq_getElem hp]
    exact hbucket
  · rw [if_neg ((haside slot List.mem_cons_self).off t.position), shadowed, if_pos hp]
    refine (h.contents t.position).trans ?_
    rw [if_neg (Nat.lt_irrefl _)]
  · intro other hother
    refine ⟨haside other (List.mem_cons_of_mem _ hother), ?_⟩
    rintro rfl
    -- The buckets at hand have different ids, so no slot is at hand twice.
    have hnodup : (initial.drop t.position).map (·.id) |>.Nodup := by
      rw [List.map_drop, hnumbered]
      exact List.nodup_range.sublist (List.drop_sublist _ _)
    rw [List.drop_eq_getElem_cons hp, ← hbucket, ← hbuckets', List.map_cons, List.map_map] at hnodup
    exact (List.nodup_cons.mp hnodup).1 (List.mem_map_of_mem hother)

/-- After them the stored bucket is taken, or a new one. -/
theorem Seeding.taken_stored (h : Seeding initial stored filed served discarded t)
    (hwindow : t.timeline.window.At t.position) (hp : initial.length ≤ t.position)
    (hlt : t.position < Index.last) :
    ∃ slot, t.takeBucket.value = .ok slot ∧
      Taken initial stored filed slot t t.takeBucket.state := by
  obtain ⟨slot, store, window, hvalue, hstate, horderly, hcontents, hserves, hnext⟩ :=
    takeBucket_fetched h.calm hwindow hlt
  refine ⟨slot, hvalue, ?_⟩
  rw [hstate]
  refine ⟨⟨horderly, h.calm.factory, h.calm.stranded, h.calm.stale⟩, ⟨_, _, rfl⟩, hcontents, ?_, ?_,
    ⟨[], hnext.atHand, ?_, ?_⟩⟩
  · have hevents := hserves.events
    rw [hcontents, h.contents, if_neg (Nat.lt_irrefl _)] at hevents
    rw [slated, List.getD_eq_getElem?_getD, List.getElem?_eq_none hp, ← hevents]
    exact congrArg (Bucket.mk · _) hserves.own
  · rw [shadowed, if_neg (Nat.not_lt_of_le hp)]
    split
    · rfl
    · next hne =>
      apply Store.contents_of_none
      cases hl : store.lookup t.position with
      | none => rfl
      | some other => exact absurd (hl.trans (congrArg some (hserves.only other hl))) hne
  · exact (List.drop_eq_nil_of_le (Nat.le_succ_of_le hp)).symm
  · intro other hother
    cases hother

theorem Seeding.taken (h : Seeding initial stored filed served discarded t)
    (hnumbered : initial.map (·.id) = List.range initial.length) (hlt : t.position < Index.last) :
    ∃ slot, t.takeBucket.value = .ok slot ∧
      Taken initial stored filed slot t t.takeBucket.state := by
  obtain ⟨slots, hwindow, hbuckets, haside⟩ := h.atHand
  cases slots with
  | nil =>
    have hp : initial.length ≤ t.position := List.drop_eq_nil_iff.mp hbuckets.symm
    exact h.taken_stored hwindow.at hp hlt
  | cons slot rest => exact ⟨slot, h.taken_given hnumbered hwindow hbuckets haside hlt⟩

/-- How a tick can go: it yields no frame if nothing is pending, fails at the last position, and
otherwise drains the bucket that it takes. -/
inductive Round (initial : List (Bucket α)) (stored : Nat → List (Commitment α))
    (filed : List (Commitment α)) (t : Track α Unit) :
    Except TrackError (Option (List α)) → Track α Unit → List (Commitment α) → List (Bucket α) →
      List (Commitment α) → Prop
  | idle (pending : t.pending = 0) : Round initial stored filed t (.ok none) t [] [] []
  | refused {error : TrackError} {window : Window Slot} {slots : List Slot}
      (atHand : window.AtHand slots t.position)
      (buckets : slots.map t.store.bucket = initial.drop t.position)
      (aside : ∀ slot ∈ slots, t.store.Aside slot) :
      Round initial stored filed t (.error error)
        { t with timeline := { t.timeline with window := window } } [] [] []
  | drains {slot : Slot} {t₁ : Track α Unit} (inRange : t.position < Index.last)
      (taken : Taken initial stored filed slot t t₁) :
      Round initial stored filed t (.ok (some (t₁.drain slot).value)) (t₁.drain slot).state
        (t₁.drainFilings slot) [t₁.store.bucket slot]
        ((t₁.settled slot).store.contents (t₁.store.bucket slot).id)

theorem Seeding.round (h : Seeding initial stored filed served discarded t)
    (hnumbered : initial.map (·.id) = List.range initial.length) :
    Round initial stored filed t t.nextFrame.value t.nextFrame.state (t.filings .tick)
      (t.served .tick) (t.discarded .tick) := by
  by_cases hpending : t.pending = 0
  · obtain ⟨hframe, hstate, hfilings, hserved, hdiscarded⟩ := h.calm.tick_idle hpending
    rw [hframe, hstate, hfilings, hserved, hdiscarded]
    exact .idle hpending
  · rcases Nat.lt_or_eq_of_le h.inRange with hlt | hlast
    · obtain ⟨slot, hvalue, htaken⟩ := h.taken hnumbered hlt
      obtain ⟨hframe, hstate, hfilings, hserved, hdiscarded⟩ :=
        h.calm.tick_drains hpending hvalue
      rw [hframe, hstate, hfilings, hserved, hdiscarded]
      exact .drains hlt htaken
    · obtain ⟨slots, hwindow, hbuckets, haside⟩ := h.atHand
      obtain ⟨hvalue, window, htaken, hwindow'⟩ := takeBucket_last hwindow hlast
      obtain ⟨hframe, hstate, hfilings, hserved, hdiscarded⟩ :=
        h.calm.tick_refused hpending hvalue
      rw [hframe, hstate, hfilings, hserved, hdiscarded, htaken]
      exact .refused hwindow' hbuckets haside

theorem Seeding.drained (h : Seeding initial stored filed served discarded t)
    (hnumbered : initial.map (·.id) = List.range initial.length) (hlt : t.position < Index.last)
    {slot : Slot} {t₁ : Track α Unit} (htaken : Taken initial stored filed slot t t₁) :
    Seeding initial stored (filed ++ t₁.drainFilings slot)
      (served ++ [t₁.store.bucket slot])
      (discarded ++ (t₁.settled slot).store.contents (t₁.store.bucket slot).id)
      (t₁.drain slot).state := by
  have hposition : t₁.position = t.position := by
    obtain ⟨_, _, hsame⟩ := htaken.same
    rw [hsame]
  have hown : (t₁.store.bucket slot).id = t₁.position := by
    rw [htaken.bucket, slated_id hnumbered, hposition]
  obtain ⟨_, hstood, _, hlater, hemptied⟩ := drain_course htaken.calm hown (hposition ▸ hlt)
  rw [hposition] at hlater hstood
  obtain ⟨hserved, hdiscarded⟩ := h.past fun e he => Nat.le_of_lt (hlater e he)
  have hnow : dueAt t.position (filed ++ t₁.drainFilings slot) = dueAt t.position filed :=
    dueAt_append_later hlater
  have hnext : (t₁.drain slot).state.position = t.position + 1 :=
    hemptied.position.trans (by rw [hposition])
  refine ⟨hemptied.calm, ?_, ?_, ?_, ?_, ?_⟩
  · rw [hnext]
    exact hlt
  · obtain ⟨slots, hwindow, hbuckets, haside⟩ := htaken.rest
    have hrest : ∀ other ∈ slots, (t₁.drain slot).state.store.Aside other ∧
        (t₁.drain slot).state.store.bucket other = t₁.store.bucket other :=
      fun other hother => hemptied.undisturbed other (haside other hother).1 (haside other hother).2
    rw [hnext, hemptied.timeline]
    refine ⟨slots, hwindow, ?_, fun other hother => (hrest other hother).1⟩
    rw [← hbuckets]
    exact List.map_congr_left fun other hother => (hrest other hother).2
  · intro id
    rw [hemptied.contents, htaken.contents, h.contents, hposition, hnext]
    rcases Nat.lt_trichotomy id t.position with hid | rfl | hid
    · rw [if_neg (Nat.ne_of_lt hid), if_pos hid, if_pos (Nat.lt_succ_of_lt hid), List.nil_append]
      exact Commitment.dueAt_eq_nil fun e he => Nat.ne_of_gt (Nat.lt_trans hid (hlater e he))
    · rw [if_pos rfl, if_pos (Nat.lt_succ_self _)]
    · rw [if_neg (Nat.ne_of_gt hid), if_neg (Nat.lt_asymm hid), if_neg (Nat.not_lt_of_le hid),
        Commitment.dueAt_append, List.append_assoc]
  · rw [hnext, List.range_succ, List.map_append, ← hserved, htaken.bucket, List.map_singleton,
      slated, slated, hnow]
  · have hlost := htaken.shadowed
    rw [← hstood, shadowed, ← hnow] at hlost
    rw [hnext, List.range_succ, List.flatMap_append, ← hdiscarded, List.flatMap_singleton, hown,
      hposition, hlost]
    rfl

theorem Seeding.tick (h : Seeding initial stored filed served discarded t)
    (hnumbered : initial.map (·.id) = List.range initial.length) :
    Seeding initial stored (filed ++ t.filings .tick) (served ++ t.served .tick)
      (discarded ++ t.discarded .tick) t.nextFrame.state := by
  have hround := h.round hnumbered
  generalize t.nextFrame.value = value, t.nextFrame.state = t', t.filings .tick = filings,
    t.served .tick = bucket, t.discarded .tick = lost at hround ⊢
  cases hround with
  | idle _ =>
    rw [List.append_nil, List.append_nil, List.append_nil]
    exact h
  | refused hwindow hbuckets haside =>
    rw [List.append_nil, List.append_nil, List.append_nil]
    exact ⟨⟨h.calm.orderly, h.calm.factory, h.calm.stranded, h.calm.stale⟩, h.inRange,
      ⟨_, hwindow, hbuckets, haside⟩, h.contents, h.served, h.discarded⟩
  | drains hlt htaken => exact h.drained hnumbered hlt htaken

theorem SetUp.seeding {t₀ : Track α Unit} (h : t₀.SetUp initial) :
    Seeding initial (t₀.store.contents ·) [] [] [] t₀ := by
  obtain ⟨slots, hwindow, hbuckets, haside⟩ := h.window
  refine ⟨h.calm, ?_, ⟨slots, ?_, ?_, haside⟩, ?_, ?_, ?_⟩
  · rw [h.position]
    exact Nat.zero_le _
  · rw [hwindow, h.position]
    exact ⟨(Nat.zero_add _).symm, rfl, rfl⟩
  · rw [h.position]
    exact hbuckets
  · intro id
    rw [h.position, if_neg (Nat.not_lt_zero id)]
    exact (List.append_nil _).symm
  · rw [h.position]
    rfl
  · rw [h.position]
    rfl

theorem seeding_run {t₀ : Track α Unit} (h : t₀.SetUp initial) {rs : List (Request α)}
    (hfull : ∀ r ∈ rs, r.Full) :
    Seeding initial (t₀.store.contents ·) (t₀.history filings rs) (t₀.history Track.served rs)
      (t₀.history Track.discarded rs) (t₀.run rs) := by
  induction rs using List.reverseRecOn with
  | nil => exact h.seeding
  | append_singleton rs r ih =>
    obtain ⟨hfull, hr⟩ := List.forall_mem_append.mp hfull
    have hr := List.forall_mem_singleton.mp hr
    have ih := ih hfull
    rw [run_snoc, history_snoc, history_snoc, history_snoc]
    cases r with
    | schedule e =>
      have hnext : Seeding initial _ _ _ _ ((t₀.run rs).perform (.schedule e)) :=
        ih.schedule (e := (t₀.run rs).numbered e) hr
      have hserved : (t₀.run rs).served (.schedule e) = [] := rfl
      have hdiscarded : (t₀.run rs).discarded (.schedule e) = [] := rfl
      rw [filings_schedule _ hr, hserved, hdiscarded, List.append_nil, List.append_nil]
      exact hnext
    | tick => exact ih.tick h.numbered

/-- The commitments accepted, each for the bucket that it is filed in. -/
def admissions (t : Track α φ) (r : Request α) : List (Commitment α) :=
  (t.accepted r).map (·.admitted t.position)

/-- What is accepted is filed. -/
theorem admissions_filed {t₀ : Track α Unit} {rs : List (Request α)} (hfull : ∀ r ∈ rs, r.Full)
    {e : Commitment α} (he : e ∈ t₀.history admissions rs) :
    ∃ e' ∈ t₀.history filings rs, e.Identified e' := by
  induction rs using List.reverseRecOn with
  | nil => cases he
  | append_singleton rs r ih =>
    obtain ⟨hfull, hr⟩ := List.forall_mem_append.mp hfull
    have hr := List.forall_mem_singleton.mp hr
    rw [history_snoc] at he ⊢
    rcases List.mem_append.mp he with he | he
    · obtain ⟨e', hmem, hid⟩ := ih hfull he
      exact ⟨e', List.mem_append_left _ hmem, hid⟩
    · obtain ⟨c, hc, rfl⟩ := List.mem_map.mp he
      cases r with
      | tick => cases hc
      | schedule e₀ =>
        have hnumbered : c = (t₀.run rs).numbered e₀ := by
          simp only [accepted] at hc
          split at hc
          · exact List.mem_singleton.mp hc
          · cases hc
        rw [filings_schedule _ hr, filing_calm, hnumbered]
        exact ⟨_, List.mem_append_right _ List.mem_cons_self, identified_spec _⟩

/-- Given first buckets: at each of their positions a tick drains the given bucket and discards what
the store holds for the position. At every other position it drains what the store holds, which
is what was there first and what was filed since, and discards nothing. The frames are what the
drained buckets deliver. -/
theorem seeded {t₀ : Track α Unit} (h : t₀.SetUp initial) {rs : List (Request α)}
    (hfull : ∀ r ∈ rs, r.Full) :
    let t := t₀.run rs
    let filed := t₀.history filings rs
    (∀ e ∈ t₀.history admissions rs, ∃ e' ∈ filed, e.Identified e') ∧
      t₀.history Track.served rs = (List.range t.position).map
        (fun p => initial.getD p ⟨p, t₀.store.contents p ++ dueAt p filed⟩) ∧
      t₀.history Track.discarded rs = (List.range t.position).flatMap
        (fun p => if p < initial.length then t₀.store.contents p ++ dueAt p filed else []) ∧
      t₀.history frames rs =
        (t₀.history Track.served rs).map (fun b => (b.deliverWith t₀.frameWidth).value) ∧
      ∀ id, t.store.contents id =
        if id < t.position then [] else t₀.store.contents id ++ dueAt id filed := by
  have hrun := seeding_run h hfull
  exact ⟨fun _ he => admissions_filed hfull he, hrun.served, hrun.discarded, t₀.history_frames rs,
    hrun.contents⟩

/-! ## The smallest loss -/

def paired : Track Nat Unit :=
  let first := (Store.empty ()).make (.empty 0)
  let second := first.2.make (.empty 1)
  .ofTimeline ⟨.ofList [first.1, second.1], .empty⟩ second.2

theorem paired_setUp : paired.SetUp [.empty 0, .empty 1] := by
  refine ⟨⟨⟨.nil, ?_, ?_⟩, rfl, rfl, rfl⟩, rfl, ⟨[0, 1], rfl, ?_, ?_⟩, rfl⟩
  · intro id slot hslot
    cases hslot
  · intro id slot hslot
    cases hslot
  · rfl
  · simp only [List.forall_mem_cons]
    refine ⟨⟨by decide, fun id hid => by cases hid⟩, ⟨by decide, fun id hid => by cases hid⟩, ?_⟩
    exact List.forall_mem_nil _

def errand : List (Request Nat) :=
  [.schedule { deliveryTime := 1, supply := .ofList [3] }, .tick, .tick]

theorem errand_full : ∀ r ∈ errand, r.Full := by simp [errand, Request.Full]

/-- Two ticks drain the two given buckets, so their frames are empty, and the second one discards
what was filed. -/
theorem seeded_paired :
    paired.history Track.served errand = [.empty 0, .empty 1] ∧
      paired.history frames errand = [[], []] ∧
      paired.history Track.discarded errand = dueAt 1 (paired.history filings errand) := by
  obtain ⟨_, hserved, hdiscarded, hframes, _⟩ := seeded paired_setUp errand_full
  have hposition : (paired.run errand).position = 2 := by decide +kernel
  have hnone : dueAt 0 (paired.history filings errand) = [] := by rfl
  rw [hposition] at hserved hdiscarded
  rw [hserved] at hframes
  refine ⟨hserved, hframes, hdiscarded.trans ?_⟩
  show ([] ++ dueAt 0 _) ++ (([] ++ dueAt 1 _) ++ []) = _
  rw [hnone, List.append_nil]
  rfl

/-- The commitment accepted for bucket 1 is drained by no tick: the tick at position 1 discards it.
It is nowhere any more, and it is still counted as pending. -/
theorem seeded_swallows :
    (paired.history admissions errand).map (fun e => (e.mark, e.deliveryTime)) = [(0, 1)] ∧
      (paired.history Track.served errand).flatMap (·.events.map (·.mark)) = [] ∧
      (paired.history Track.discarded errand).map (·.mark) = [0] ∧
      (paired.run errand).live.map (·.mark) = [] ∧ (paired.run errand).pending = 1 := by
  refine ⟨by decide +kernel, by decide +kernel, by decide +kernel, by decide +kernel,
    by decide +kernel⟩

end Track
end BucketClock
