import BucketClock.Proofs.Store.Events
import BucketClock.Proofs.Track.Drain

/-!
The invariant of a track between requests, and what each request does to a track
that has it. Every stored commitment lies in the bucket it is meant for, at or
after the clock; buckets behind the clock are empty and wait to be removed; and
the track counts exactly the commitments in flight.

Main statements: a `Turn` is made by an accepted or refused commitment
(`schedule_turn`), by the retries at the start of a tick (`retryDeferred_turn`)
and by the rest of the tick (`nextFrame_emitted`).
-/

namespace BucketClock.Track

open Commitment (Refiled dueAt survivors spent)

variable {α φ : Type} [Outage φ]

/-- The invariant of a track between requests. -/
structure Sound (t : Track α φ) : Prop where
  ready : t.Ready
  window : t.timeline.window.At t.position
  inRange : t.position ≤ Index.last
  filed : ∀ id, ∀ e ∈ t.store.contents id, e.deliveryTime = id ∧ t.position ≤ id
  drained : ∀ id ∈ t.store.bucketIds, id < t.position → id ∈ t.stale
  stale : ∀ id ∈ t.stale, id < t.position
  begun : ∀ e ∈ t.stranded, e.phase ≠ .full
  pending : t.pending = t.live.length
  counted : t.counters.scheduled = t.live.length + t.counters.retired

theorem Sound.contents_eq_nil {t : Track α φ} (h : t.Sound) {id : Nat} (hid : id < t.position) :
    t.store.contents id = [] := by
  apply List.eq_nil_iff_forall_not_mem.mpr
  intro e he
  exact Nat.not_le_of_lt hid (h.filed id e he).2

/-- What is filed at or after the clock leaves the buckets behind it empty. -/
theorem Sound.contents_filed {t : Track α φ} (h : t.Sound) {filed : List (Commitment α)}
    (hlater : ∀ e ∈ filed, t.position ≤ e.deliveryTime) (id : Nat) :
    t.store.contents id ++ dueAt id filed =
      if id < t.position then [] else t.store.contents id ++ dueAt id filed := by
  split
  · next hid =>
    rw [h.contents_eq_nil hid, Commitment.dueAt_eq_nil, List.append_nil]
    intro e he heq
    exact Nat.not_le_of_lt hid (heq ▸ hlater e he)
  · rfl

/-- The commitments in the bucket at the clock are all that is stored up to it. -/
theorem Sound.dueAt_contents {t : Track α φ} (h : t.Sound) (id : Nat) :
    dueAt id (t.store.contents t.position) =
      if id < t.position + 1 then t.store.contents id else [] := by
  have hdue : ∀ e ∈ t.store.contents t.position, e.deliveryTime = t.position :=
    fun e he => (h.filed _ e he).1
  rcases Nat.lt_trichotomy id t.position with hlt | rfl | hgt
  · rw [if_pos (Nat.lt_succ_of_lt hlt), h.contents_eq_nil hlt]
    exact Commitment.dueAt_eq_nil fun e he heq => Nat.ne_of_gt hlt ((hdue e he).symm.trans heq)
  · rw [if_pos (Nat.lt_succ_self _), Commitment.dueAt_eq_self hdue]
  · rw [if_neg (Nat.not_lt_of_le hgt)]
    exact Commitment.dueAt_eq_nil fun e he heq => Nat.ne_of_lt hgt ((hdue e he).symm.trans heq)

/-- From `t` to `t'` the commitments `out` were taken up, others were filed or held back, and
`gone` were retired; the clock may have moved on past buckets that are empty now. -/
structure Turn (t t' : Track α φ) (out filed held : List (Commitment α)) (gone : Nat) : Prop where
  sound : t'.Sound
  frameWidth : t'.frameWidth = t.frameWidth
  increment : t'.increment = t.increment
  position : t.position ≤ t'.position
  contents : ∀ id, t'.position ≤ id →
    t'.store.contents id = t.store.contents id ++ dueAt id filed
  later : ∀ e ∈ filed, t'.position ≤ e.deliveryTime
  live : (t'.live ++ out).Perm (t.live ++ (filed ++ held))
  retired : t'.counters.retired = t.counters.retired + gone

theorem Sound.turn {t : Track α φ} (h : t.Sound) : Turn t t [] [] [] 0 := by
  refine ⟨h, rfl, rfl, Nat.le_refl _, ?_, ?_, ?_, rfl⟩
  · intro id _
    exact (List.append_nil _).symm
  · intro e he
    cases he
  · exact .refl _

/-- What makes a turn: the commitments `out` left the store with the buckets they lay in, and
`tried` left the list of those held back. -/
structure Move (t t' : Track α φ) (out tried filed held : List (Commitment α)) (gone : Nat) :
    Prop where
  ready : t'.Ready
  window : t'.timeline.window.At t'.position
  inRange : t'.position ≤ Index.last
  frameWidth : t'.frameWidth = t.frameWidth
  increment : t'.increment = t.increment
  position : t.position ≤ t'.position
  contents : ∀ id, t'.store.contents id =
    if id < t'.position then [] else t.store.contents id ++ dueAt id filed
  taken : ∀ id, dueAt id out = if id < t'.position then t.store.contents id else []
  later : ∀ e ∈ filed, t'.position ≤ e.deliveryTime
  drained : ∀ id ∈ t'.store.bucketIds, id < t'.position → id ∈ t'.stale
  stale : ∀ id ∈ t'.stale, id < t'.position
  begun : ∀ e ∈ t'.stranded, e.phase ≠ .full
  stranded : (t'.stranded ++ tried).Perm (t.stranded ++ held)
  pending : t'.pending + (out ++ tried).length = t.pending + (filed ++ held).length
  scheduled : t'.counters.scheduled + t.pending = t.counters.scheduled + t'.pending + gone
  retired : t'.counters.retired = t.counters.retired + gone

theorem Move.live {t t' : Track α φ} {out tried filed held : List (Commitment α)} {gone : Nat}
    (m : Move t t' out tried filed held gone) (h : t.Sound) :
    (t'.live ++ (out ++ tried)).Perm (t.live ++ (filed ++ held)) := by
  have hevents : (t'.store.events ++ out).Perm (t.store.events ++ filed) := by
    apply Store.events_perm h.ready.sane.tidy.orderly m.ready.sane.tidy.orderly
    intro id
    rw [m.contents, m.taken]
    split
    · next hid =>
      have hnone : dueAt id filed = [] := Commitment.dueAt_eq_nil fun e he heq =>
        Nat.not_le_of_lt hid (heq ▸ m.later e he)
      rw [hnone, List.append_nil, List.nil_append]
    · rw [List.append_nil]
  have hstranded := m.stranded
  simp only [← Multiset.coe_eq_coe, Track.live, ← Multiset.coe_add] at hevents hstranded ⊢
  rw [add_add_add_comm, hevents, hstranded, add_add_add_comm]

theorem Move.turn {t t' : Track α φ} {out tried filed held : List (Commitment α)} {gone : Nat}
    (m : Move t t' out tried filed held gone) (h : t.Sound) :
    Turn t t' (out ++ tried) filed held gone := by
  have hlive := (m.live h).length_eq
  have hpending := m.pending
  simp only [List.length_append] at hlive hpending
  have hcounts := And.intro h.pending h.counted
  have hcounts' := And.intro m.scheduled m.retired
  refine ⟨⟨m.ready, m.window, m.inRange, ?_, m.drained, m.stale, m.begun, by omega, by omega⟩,
    m.frameWidth, m.increment, m.position, ?_, m.later, m.live h, m.retired⟩
  · intro id e he
    rw [m.contents] at he
    split at he
    · cases he
    · next hid =>
      have hle := Nat.le_of_not_lt hid
      rcases List.mem_append.mp he with he | he
      · exact ⟨(h.filed id e he).1, hle⟩
      · exact ⟨(Commitment.mem_dueAt.mp he).2, hle⟩
  · intro id hid
    rw [m.contents, if_neg (Nat.not_lt_of_le hid)]

/-- A turn in which the clock stands still and no commitment held back is tried. -/
theorem Sound.stay {t t' : Track α φ} (h : t.Sound) {filed : List (Commitment α)}
    (hready : t'.Ready) (hwindow : t'.timeline.window.At t.position)
    (hposition : t'.position = t.position) (hframeWidth : t'.frameWidth = t.frameWidth)
    (hincrement : t'.increment = t.increment) (hstranded : t'.stranded = t.stranded)
    (hstale : t'.stale = t.stale)
    (hcontents : ∀ id, t'.store.contents id = t.store.contents id ++ dueAt id filed)
    (hids : ∀ id ∈ t'.store.bucketIds, id ∈ t.store.bucketIds ∨ t.position ≤ id)
    (hlater : ∀ e ∈ filed, t.position ≤ e.deliveryTime)
    (hpending : t'.pending = t.pending + filed.length)
    (hscheduled : t'.counters.scheduled = t.counters.scheduled + filed.length)
    (hretired : t'.counters.retired = t.counters.retired) : Turn t t' [] filed [] 0 := by
  have m : Move t t' [] [] filed [] 0 := by
    refine ⟨hready, hposition ▸ hwindow, hposition ▸ h.inRange, hframeWidth, hincrement,
      Nat.le_of_eq hposition.symm, ?_, ?_, hposition ▸ hlater, ?_, ?_, ?_, ?_, ?_, ?_, hretired⟩
    · intro id
      rw [hcontents, hposition]
      exact h.contents_filed hlater id
    · intro id
      rw [hposition]
      split
      · next hid => exact (h.contents_eq_nil hid).symm
      · rfl
    · intro id hid hlt
      rw [hposition] at hlt
      rw [hstale]
      rcases hids id hid with hid | hle
      · exact h.drained id hid hlt
      · exact absurd hlt (Nat.not_lt_of_le hle)
    · rw [hstale, hposition]
      exact h.stale
    · rw [hstranded]
      exact h.begun
    · rw [hstranded]
    · simp only [List.append_nil, List.length_nil, hpending, Nat.add_zero]
    · omega
  exact m.turn h

/-- A store call that files nothing makes a turn without effect. -/
theorem Sound.steady_turn {t : Track α φ} (h : t.Sound) {store : Store α φ} {id : Nat}
    (hsteady : Store.Steady id t.store store) (hid : t.position ≤ id) {window : Window Slot}
    (hwindow : window.At t.position) :
    Turn t { t with store := store, timeline := { t.timeline with window := window } }
      [] [] [] 0 := by
  refine h.stay ⟨hsteady.sane, h.ready.factory⟩ hwindow rfl rfl rfl rfl rfl ?_ ?_ ?_ rfl rfl rfl
  · intro j
    exact (hsteady.contents j).trans (List.append_nil _).symm
  · intro j hj
    rcases hsteady.ids j hj with hj | rfl
    · exact Or.inl hj
    · exact Or.inr hid
  · intro e he
    cases he

/-! ## Accepting a commitment -/

theorem schedule_eq (t : Track α φ) {e : Commitment α} (hfull : e.phase = .full) :
    (t.schedule e).value = (t.place (e.admitted t.position)).value.mapError (·.error) ∧
      (t.schedule e).state = (t.place (e.admitted t.position)).state := by
  simp only [schedule, hfull, Commitment.admitted, true_and]
  split
  · exact ⟨rfl, rfl⟩
  · exact ⟨rfl, rfl⟩

theorem schedule_position (t : Track α φ) (e : Commitment α) :
    (t.schedule e).state.position = t.position := by
  have hplace : ∀ e' : Commitment α, (t.place e').state.position = t.position := by
    intro e'
    simp only [place]
    split
    · rfl
    · split <;> rfl
  unfold schedule
  cases e.phase with
  | exhausted => rfl
  | notEmpty => exact hplace e
  | full =>
    simp only
    split
    · exact hplace _
    · exact hplace e

/-- A full commitment is accepted and filed at or after the clock, or refused without a trace. -/
theorem schedule_turn {t : Track α φ} (h : t.Sound) {e : Commitment α} (hfull : e.phase = .full) :
    (∃ e', (e.admitted t.position).Identified e' ∧ (t.schedule e).value = .ok () ∧
        t.filing (e.admitted t.position) = [e'] ∧ Turn t (t.schedule e).state [] [e'] [] 0) ∨
    ∃ error, (t.schedule e).value = .error error ∧ t.filing (e.admitted t.position) = [] ∧
        Turn t (t.schedule e).state [] [] [] 0 := by
  obtain ⟨hvalue, hstate⟩ := t.schedule_eq hfull
  have hphase : (e.admitted t.position).phase = .full := by
    rw [e.admitted_eq t.position]
    exact hfull
  have hlater := Commitment.le_admitted h.inRange hfull
  rw [hvalue, hstate]
  rcases place_spec h.ready (e.admitted t.position) with
    ⟨id, s, hplaced, hfiling, hfiled, hcounted⟩ | ⟨error, e', s, hplaced, hfiling, hfiled, hcounted⟩
  · left
    cases hfiled with
    | done hsane hid hids hcontents =>
      refine ⟨_, hid, by rw [hplaced]; rfl, hfiling, ?_⟩
      rw [hcounted, counted, if_pos hphase]
      refine h.stay ⟨hsane, h.ready.factory⟩ h.window rfl rfl rfl rfl rfl ?_ ?_ ?_ rfl rfl rfl
      · intro j
        refine (hcontents j).trans ?_
        split
        · next heq => simp [dueAt, heq]
        · next hne => simp [dueAt, Ne.symm hne]
      · intro j hj
        rcases hids j hj with hj | rfl
        · exact Or.inl hj
        · exact Or.inr hlater
      · intro e' he'
        rw [List.mem_singleton.mp he']
        exact hlater
  · right
    cases hfiled with
    | refused hid hsteady =>
      refine ⟨error, by rw [hplaced]; rfl, hfiling, ?_⟩
      rw [hcounted]
      exact h.steady_turn hsteady hlater h.window

/-! ## The retries of a tick -/

/-- A tick begins with the removals: a bucket behind the clock is gone or still waits. -/
theorem Sound.cleared {t : Track α φ} (h : t.Sound) :
    ∃ store stale, t.cleared = { t with store := store, stale := stale } ∧ store.Sane ∧
      (∀ id, store.contents id = t.store.contents id) ∧
      (∀ id ∈ store.bucketIds, id ∈ t.store.bucketIds ∧ (id < t.position → id ∈ stale)) ∧
      ∀ id ∈ stale, id < t.position := by
  have hempty : ∀ id ∈ t.stale, t.store.contents id = [] :=
    fun id hid => h.contents_eq_nil (h.stale id hid)
  have hswept := each_removeBucket_spec (t := { t with stale := [] }) h.ready.sane hempty
  obtain ⟨store, stale, hsame⟩ := hswept.same
  rw [hsame] at hswept
  refine ⟨store, stale, hsame, hswept.sane, hswept.contents, ?_, ?_⟩
  · intro id hid
    have hid' := hswept.stored id hid
    exact ⟨hid', fun hlt => hswept.waiting id hid (h.drained id hid' hlt)⟩
  · intro id hid
    rcases hswept.stale id hid with hid | hid
    · cases hid
    · exact h.stale id hid

/-- A passage of the commitments held back, seen from before the removals. -/
theorem Passage.turn {t t' : Track α φ} {store : Store α φ} {stale : List Nat}
    {filed held : List (Commitment α)} (h : t.Sound)
    (hcontents : ∀ id, store.contents id = t.store.contents id)
    (hids : ∀ id ∈ store.bucketIds, id ∈ t.store.bucketIds ∧ (id < t.position → id ∈ stale))
    (hstale : ∀ id ∈ stale, id < t.position)
    (hp : Passage { t with store := store, stale := stale, stranded := [] } t' filed held 0)
    (hlater : ∀ e ∈ filed ++ held, t.position ≤ e.deliveryTime ∧ e.phase ≠ .full)
    (hlength : filed.length + held.length = t.stranded.length) :
    Turn t t' t.stranded filed held 0 := by
  have hposition : t'.position = t.position := hp.position
  have hstranded : t'.stranded = held := hp.stranded
  have hpending : t'.pending = t.pending := hp.pending
  have hfiled : ∀ e ∈ filed, t.position ≤ e.deliveryTime :=
    fun e he => (hlater e (List.mem_append_left _ he)).1
  have m : Move t t' [] t.stranded filed held 0 := by
    refine ⟨hp.ready, ?_, hposition ▸ h.inRange, hp.frameWidth, hp.increment,
      Nat.le_of_eq hposition.symm, ?_, ?_, hposition ▸ hfiled, ?_, ?_, ?_, ?_, ?_, ?_, ?_⟩
    · rw [hp.timeline, hposition]
      exact h.window
    · intro id
      have hsame := hp.contents id
      simp only [hcontents] at hsame
      rw [hsame, hposition]
      exact h.contents_filed hfiled id
    · intro id
      rw [hposition]
      split
      · next hid => exact (h.contents_eq_nil hid).symm
      · rfl
    · intro id hid hlt
      rw [hposition] at hlt
      rw [hp.stale]
      rcases hp.ids id hid with hid | ⟨e, he, rfl⟩
      · exact (hids id hid).2 hlt
      · exact absurd hlt (Nat.not_lt_of_le (hlater e he).1)
    · rw [hp.stale, hposition]
      exact hstale
    · intro e he
      rw [hstranded] at he
      exact (hlater e (List.mem_append_right _ he)).2
    · rw [hstranded]
      exact List.perm_append_comm
    · rw [hpending, List.nil_append, List.length_append, hlength]
    · rw [hp.counters, hpending]
      rfl
    · rw [hp.counters]
  exact m.turn h

/-- Then it tries the commitments held back: each is filed, or held back again. -/
theorem retryDeferred_turn {t : Track α φ} (h : t.Sound) :
    ∃ held, Refiled (t.stranded.map (·.caughtUp t.position)) t.retryFilings held ∧
      Turn t t.retryDeferred.state t.stranded t.retryFilings held 0 ∧
      t.retryDeferred.state.position = t.position ∧ t.retryDeferred.state.stranded = held := by
  obtain ⟨store, stale, hcleared, hsane, hcontents, hids, hstale⟩ := h.cleared
  have hstate : t.retryDeferred.state =
      (Outcome.each retry t.cleared.stranded { t.cleared with stranded := [] }).state := rfl
  have hready : Ready { t with store := store, stale := stale, stranded := [] } :=
    ⟨hsane, h.ready.factory⟩
  obtain ⟨held, hrefiled, hpassage⟩ := each_retry_spec hready h.begun
  simp only [hstate, retryFilings, hcleared]
  refine ⟨held, hrefiled, ?_, hpassage.position, hpassage.stranded⟩
  refine hpassage.turn h hcontents hids hstale ?_ ?_
  · intro e he
    obtain ⟨_, hmem, _, rfl, _⟩ := hrefiled.origin he
    obtain ⟨e₀, hmem₀, rfl⟩ := List.mem_map.mp hmem
    rw [e₀.caughtUp_eq]
    exact ⟨Nat.le_max_right _ _, h.begun e₀ hmem₀⟩
  · have hlength := hrefiled.length
    rw [List.length_map] at hlength
    exact hlength.symm

/-! ## The rest of a tick -/

/-- How a tick can go on from `r`, its track after the retries: with no frame if nothing is
pending, with an error if the bucket cannot be fetched, and with the drain of the bucket
otherwise. -/
inductive Emitted (r : Track α φ) :
    Except TrackError (Option (List α)) → Track α φ → List (Commitment α) → Prop
  | idle (pending : r.pending = 0) : Emitted r (.ok none) r []
  | refused {error : TrackError} {t' : Track α φ} (pending : r.pending ≠ 0)
      (cause : r.position = Index.last ∨
        ∃ error, (r.store.fetch .empty r.position).value = .error error)
      (turn : Turn r t' [] [] [] 0) (position : t'.position = r.position)
      (stranded : t'.stranded = r.stranded) : Emitted r (.error error) t' []
  | framed {t' : Track α φ} {filed held : List (Commitment α)} (pending : r.pending ≠ 0)
      (inRange : r.position < Index.last)
      (refiled : Refiled ((survivors r.frameWidth (r.store.contents r.position)).map
        (·.onward r.position r.increment)) filed held)
      (turn : Turn r t' (r.store.contents r.position) filed held
        (spent r.frameWidth (r.store.contents r.position)).length)
      (position : t'.position = r.position + 1) (stranded : t'.stranded = r.stranded ++ held) :
      Emitted r (.ok (some ((r.store.contents r.position).flatMap
        fun e => (e.draw r.frameWidth).value))) t' filed

/-- A drain after the fetch of its bucket, seen from before the fetch. -/
theorem Drained.turn {t t' : Track α φ} {store : Store α φ} {window : Window Slot}
    {filed held : List (Commitment α)} {gone : Nat} (h : t.Sound)
    (hsteady : Store.Steady t.position t.store store) (hwindow : window.At (t.position + 1))
    (hlast : t.position < Index.last)
    (hd : Drained { t with store := store, timeline := { t.timeline with window := window } } t'
      filed held gone)
    (hlater : ∀ e ∈ filed ++ held, t.position < e.deliveryTime ∧ e.phase ≠ .full)
    (hlength : (t.store.contents t.position).length = filed.length + held.length + gone) :
    Turn t t' (t.store.contents t.position) filed held gone := by
  have hposition : t'.position = t.position + 1 := hd.position
  have hlater' : ∀ e ∈ filed, t.position + 1 ≤ e.deliveryTime :=
    fun e he => (hlater e (List.mem_append_left _ he)).1
  have hpending : t'.pending + gone = t.pending := by
    have hle := (Store.contents_sublist h.ready.sane.tidy.orderly t.position).length_le
    have hcount := h.pending
    have hsub : t'.pending = t.pending - gone := hd.pending
    rw [live, List.length_append] at hcount
    omega
  have m : Move t t' (t.store.contents t.position) [] filed held gone := by
    refine ⟨hd.ready, ?_, ?_, hd.frameWidth, hd.increment, ?_, ?_, ?_, ?_, ?_, ?_, ?_, ?_, ?_, ?_,
      hd.retired⟩
    · rw [hd.timeline, hposition]
      exact hwindow
    · rw [hposition]
      exact hlast
    · rw [hposition]
      exact Nat.le_succ _
    · intro id
      have hcontents := hd.contents id
      simp only [hsteady.contents] at hcontents
      rw [hcontents, hposition]
      rcases Nat.lt_trichotomy id t.position with hlt | rfl | hgt
      · rw [if_neg (Nat.ne_of_lt hlt), if_pos (Nat.lt_succ_of_lt hlt), h.contents_eq_nil hlt,
          Commitment.dueAt_eq_nil, List.append_nil]
        intro e he
        have hlt' := hlater' e he
        omega
      · rw [if_pos rfl, if_pos (Nat.lt_succ_self _)]
      · rw [if_neg (Nat.ne_of_gt hgt), if_neg (Nat.not_lt_of_le hgt)]
    · intro id
      rw [hposition]
      exact h.dueAt_contents id
    · intro e he
      rw [hposition]
      exact hlater' e he
    · intro id hid hlt
      rw [hposition] at hlt
      rcases Nat.lt_or_eq_of_le (Nat.le_of_lt_succ hlt) with hlt | rfl
      · rcases hd.ids id hid with hgt | hid
        · exact absurd hlt (Nat.lt_asymm hgt)
        · rcases hsteady.ids id hid with hid | rfl
          · exact hd.kept id (h.drained id hid hlt)
          · exact absurd hlt (Nat.lt_irrefl _)
      · exact hd.waiting hid
    · intro id hid
      rw [hposition]
      rcases hd.stale id hid with hid | rfl
      · exact Nat.lt_succ_of_lt (h.stale id hid)
      · exact Nat.lt_succ_self _
    · intro e he
      rw [hd.stranded] at he
      rcases List.mem_append.mp he with he | he
      · exact h.begun e he
      · exact (hlater e (List.mem_append_right _ he)).2
    · rw [hd.stranded, List.append_nil]
    · simp only [List.append_nil, List.length_append]
      omega
    · rw [hd.scheduled]
      show t.counters.scheduled + t.pending = _
      omega
  have hturn := m.turn h
  rw [List.append_nil] at hturn
  exact hturn

/-- What is left of a tick after its retries. -/
theorem Sound.emitted {r : Track α φ} (h : r.Sound) (hpending : r.pending ≠ 0) :
    (∃ error, r.takeBucket.value = .error error ∧
        Emitted r (.error error) r.takeBucket.state []) ∨
      ∃ slot, r.takeBucket.value = .ok slot ∧
        Emitted r (.ok (some (r.takeBucket.state.drain slot).value))
          (r.takeBucket.state.drain slot).state (r.takeBucket.state.drainFilings slot) := by
  obtain ⟨store, window, hstate, hsteady, hcases⟩ := takeBucket_spec h.ready h.window h.inRange
  rw [hstate]
  rcases hcases with ⟨⟨error, hvalue⟩, hwindow, hcause⟩ | ⟨slot, hvalue, hlast, hwindow, hserves⟩
  · left
    have hturn := h.steady_turn hsteady (Nat.le_refl _) hwindow
    exact ⟨error, hvalue, .refused hpending hcause hturn rfl rfl⟩
  · right
    refine ⟨slot, hvalue, ?_⟩
    obtain ⟨hframe, held, hrefiled, hdrained⟩ := drain_spec
      (t := { r with store := store, timeline := { r.timeline with window := window } })
      ⟨hsteady.sane, h.ready.factory⟩ hserves hlast
    rw [hframe]
    simp only [hsteady.contents] at hrefiled hdrained ⊢
    have hlater : ∀ e ∈ drainFilings slot
        { r with store := store, timeline := { r.timeline with window := window } } ++ held,
        r.position < e.deliveryTime ∧ e.phase ≠ .full := by
      intro e he
      obtain ⟨_, hmem, _, rfl, _⟩ := hrefiled.origin he
      obtain ⟨e₀, _, rfl⟩ := List.mem_map.mp hmem
      exact ⟨e₀.lt_onward hlast r.increment, e₀.onward_begun r.position r.increment⟩
    have hlength := hrefiled.length
    rw [List.length_map] at hlength
    refine .framed hpending hlast hrefiled ?_ hdrained.position hdrained.stranded
    apply Drained.turn h hsteady hwindow hlast hdrained hlater
    have hall := (Commitment.spent_survivors_perm r.frameWidth
      (r.store.contents r.position)).length_eq
    rw [List.length_append, List.length_map] at hall
    omega

/-- After its retries a tick yields no frame, fails without effect, or drains its bucket. -/
theorem nextFrame_emitted {t : Track α φ} (h : t.Sound) :
    Emitted t.retryDeferred.state t.nextFrame.value t.nextFrame.state t.settleFilings := by
  obtain ⟨_, _, hturn, _, _⟩ := retryDeferred_turn h
  have hr := hturn.sound
  simp only [nextFrame, settleFilings]
  generalize t.retryDeferred.state = r at *
  by_cases hpending : r.pending = 0
  · rw [if_pos hpending, if_pos hpending]
    exact .idle hpending
  · rw [if_neg hpending, if_neg hpending]
    rcases hr.emitted hpending with ⟨error, hvalue, hemitted⟩ | ⟨slot, hvalue, hemitted⟩
    · simp only [hvalue]
      exact hemitted
    · simp only [hvalue]
      exact hemitted

/-! ## Runs -/

/-- A track that was not used yet has an empty store and nothing in flight. -/
structure Unused (t : Track α φ) : Prop where
  store : t.store = .empty t.store.outage
  timeline : t.timeline = .empty
  position : t.position = 0
  pending : t.pending = 0
  counters : t.counters = {}
  stranded : t.stranded = []
  stale : t.stale = []

omit [Outage φ] in
theorem Opened.unused {t : Track α φ} (h : t.Opened) : t.Unused := by
  induction h with
  | ofStore outage => exact ⟨rfl, rfl, rfl, rfl, rfl, rfl, rfl⟩
  | withName _ _ ih | withFrameWidth _ _ ih | withIncrement _ _ ih | withAudit _ _ ih
  | stamped _ _ ih =>
    exact ⟨ih.store, ih.timeline, ih.position, ih.pending, ih.counters, ih.stranded, ih.stale⟩

omit [Outage φ] in
theorem Opened.live {t : Track α φ} (h : t.Opened) : t.live = [] := by
  rw [Track.live, h.unused.stranded, h.unused.store]
  rfl

theorem Opened.sound {t : Track α φ} (h : t.Opened) (hkeeps : Outage.KeepsEvents t.store.outage) :
    t.Sound := by
  obtain ⟨hstore, htimeline, hposition, hpending, hcounters, hstranded, hstale⟩ := h.unused
  have hnone : ∀ id, t.store.lookup id = none := by
    intro id
    rw [hstore]
    rfl
  have hempty : ∀ slot, (t.store.bucket slot).events = [] := by
    intro slot
    rw [hstore]
    simp [Store.empty, Store.bucket, Bucket.empty]
  have hcontents : ∀ id, t.store.contents id = [] := fun id => Store.contents_of_none (hnone id)
  have hlive := h.live
  refine ⟨⟨⟨⟨?_, ?_, ?_, ?_⟩, hkeeps⟩, ?_⟩, ?_, ?_, ?_, ?_, ?_, ?_, ?_, ?_⟩
  · rw [hstore]
    exact .nil
  · intro id slot hlookup
    rw [hnone] at hlookup
    cases hlookup
  · intro id slot hlookup
    rw [hnone] at hlookup
    cases hlookup
  · intro slot hne
    exact absurd (hempty slot) hne
  · rw [htimeline]
    rfl
  · rw [htimeline, hposition]
    exact ⟨rfl, rfl, rfl⟩
  · rw [hposition]
    exact Nat.zero_le _
  · intro id e he
    rw [hcontents] at he
    cases he
  · intro id _ hlt
    rw [hposition] at hlt
    exact absurd hlt (Nat.not_lt_zero id)
  · intro id hid
    rw [hstale] at hid
    cases hid
  · intro e he
    rw [hstranded] at he
    cases he
  · rw [hpending, hlive]
    rfl
  · rw [hcounters, hlive]
    rfl

/-- A later state of the same track. -/
structure Later (t t' : Track α φ) : Prop where
  sound : t'.Sound
  frameWidth : t'.frameWidth = t.frameWidth
  increment : t'.increment = t.increment

theorem Turn.later_state {t t' : Track α φ} {out filed held : List (Commitment α)} {gone : Nat}
    (h : Turn t t' out filed held gone) : Later t t' :=
  ⟨h.sound, h.frameWidth, h.increment⟩

theorem Later.trans {t t' t'' : Track α φ} (h : Later t t') (h' : Later t' t'') : Later t t'' :=
  ⟨h'.sound, h'.frameWidth.trans h.frameWidth, h'.increment.trans h.increment⟩

/-- Every request keeps the invariant and the settings. -/
theorem Sound.perform {t : Track α φ} (h : t.Sound) {r : Request α} (hfull : r.Full) :
    Later t (t.perform r) := by
  cases r with
  | schedule e =>
    have hfull' : (t.numbered e).phase = .full := hfull
    rcases schedule_turn h hfull' with ⟨_, _, _, _, hturn⟩ | ⟨_, _, _, hturn⟩
    · exact hturn.later_state
    · exact hturn.later_state
  | tick =>
    obtain ⟨_, _, hturn, _, _⟩ := retryDeferred_turn h
    have hemitted := nextFrame_emitted h
    show Later t t.nextFrame.state
    generalize t.nextFrame.value = value, t.nextFrame.state = t', t.settleFilings = filed
      at hemitted ⊢
    cases hemitted with
    | idle _ => exact hturn.later_state
    | refused _ _ hturn' _ _ => exact hturn.later_state.trans hturn'.later_state
    | framed _ _ _ hturn' _ _ => exact hturn.later_state.trans hturn'.later_state

end BucketClock.Track
