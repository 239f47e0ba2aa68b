import BucketClock.Proofs.Store.Harmless
import BucketClock.Proofs.Track.Conservation
import BucketClock.Proofs.Track.Output
import BucketClock.Proofs.Track.Sound

/-!
An empty store and an empty schedule. A store is empty when no bucket is on its
shelf, a schedule when nothing is pending. Where failing calls have no effect
the two come apart only through work that waits on the track: every bucket on
the shelf that holds nothing is behind the clock (`Stocked`), and such a bucket
waits to be removed. So a loop that ticks until the store is empty makes at most
one tick without a frame once removals succeed.

Main statement: `emptiness`.
-/

namespace BucketClock

namespace Track

open Outage (Asked WithoutEffect Removes)
open Store (Bare Consulted)

variable {α φ : Type} [Outage φ]

/-! ## Stores along a run

Filing, removing and fetching go through calls on the store, and nothing else
asks its source of failures. -/

theorem place_store (e : Commitment α) (t : Track α φ) :
    (t.place e).state.store = (t.store.commit t.timeline.factory e).state := by
  simp only [place]
  split
  · rfl
  · split
    · rfl
    · rfl

theorem rollOver_store (e : Commitment α) (t : Track α φ) :
    (t.rollOver e).state.store = (t.store.commit t.timeline.factory e).state := by
  have hplace := place_store e t
  simp only [rollOver]
  split
  · exact hplace
  · split
    · exact hplace
    · exact hplace

/-- What is left of a commitment after its drain is filed, or nothing happens to the store. -/
theorem settle_store (position : Nat) (e : Commitment α) (t : Track α φ) :
    (t.settle position e).state.store = t.store ∨
      ∃ e', (t.settle position e).state.store =
        (t.store.commit t.timeline.factory e').state := by
  simp only [settle]
  split
  · exact Or.inl rfl
  · split
    · exact Or.inr ⟨_, rollOver_store _ t⟩
    · exact Or.inr ⟨_, rollOver_store _ t⟩

theorem removeBucket_store (id : Nat) (t : Track α φ) :
    (t.removeBucket id).state.store = (t.store.remove id).state := by
  simp only [removeBucket]
  split
  · rfl
  · rfl

/-- A drain empties its bucket, deals with the commitments and removes the bucket. -/
theorem drain_store (slot : Slot) (t : Track α φ) :
    ∃ es, (t.drain slot).state.store =
      ((Outcome.each (settle t.position) es { t with
          store := t.store.update slot (t.store.bucket slot).takeEvents.2 }).state.store.remove
        (t.store.bucket slot).id).state :=
  ⟨_, removeBucket_store _ _⟩

theorem takeBucket_consulted (t : Track α φ) : Consulted t.store t.takeBucket.state.store := by
  have htaken : Consulted t.store (t.timeline.take 1 t.store).state.2 :=
    Window.take_invariant (P := Consulted t.store)
      (fun i s hs => hs.trans (Store.fetch_consulted _ i s)) 1 t.timeline.window ⟨rfl, .refl _⟩
  simp only [takeBucket]
  split
  · exact htaken
  · split
    · exact htaken
    · exact htaken

theorem rollOver_asked (e : Commitment α) (t : Track α φ) :
    Asked t.store.outage (t.rollOver e).state.store.outage := by
  rw [rollOver_store]
  exact Store.commit_asked _ e t.store

theorem settle_asked (position : Nat) (e : Commitment α) (t : Track α φ) :
    Asked t.store.outage (t.settle position e).state.store.outage := by
  rcases settle_store position e t with hstore | ⟨e', hstore⟩
  · rw [hstore]
    exact .refl _
  · rw [hstore]
    exact Store.commit_asked _ e' t.store

theorem removeBucket_asked (id : Nat) (t : Track α φ) :
    Asked t.store.outage (t.removeBucket id).state.store.outage := by
  rw [removeBucket_store]
  exact Store.remove_asked id t.store

theorem each_asked {γ : Type} {step : γ → Track α φ → Outcome (Track α φ) Unit}
    (h : ∀ x t, Asked t.store.outage (step x t).state.store.outage) (xs : List γ)
    (t : Track α φ) : Asked t.store.outage (Outcome.each step xs t).state.store.outage :=
  Outcome.each_invariant (P := fun t' => Asked t.store.outage t'.store.outage)
    (fun x _ t' ht' => ht'.trans (h x t')) (.refl _)

theorem retryDeferred_asked (t : Track α φ) :
    Asked t.store.outage t.retryDeferred.state.store.outage :=
  (each_asked removeBucket_asked t.stale { t with stale := [] }).trans
    (each_asked (fun _ t => rollOver_asked _ t) t.cleared.stranded
      { t.cleared with stranded := [] })

theorem drain_asked (slot : Slot) (t : Track α φ) :
    Asked t.store.outage (t.drain slot).state.store.outage := by
  obtain ⟨es, hstore⟩ := drain_store slot t
  have hsettled := each_asked (settle_asked t.position) es
    { t with store := t.store.update slot (t.store.bucket slot).takeEvents.2 }
  rw [hstore]
  exact hsettled.trans (Store.remove_asked _ _)

theorem nextFrame_asked (t : Track α φ) :
    Asked t.store.outage t.nextFrame.state.store.outage := by
  have hretried := retryDeferred_asked t
  have htaken := hretried.trans (takeBucket_consulted t.retryDeferred.state).asked
  simp only [nextFrame]
  split
  · exact hretried
  · split
    · exact htaken
    · exact htaken.trans (drain_asked _ _)

theorem schedule_asked (e : Commitment α) (t : Track α φ) :
    Asked t.store.outage (t.schedule e).state.store.outage := by
  have hplaced : ∀ e', Asked t.store.outage (t.place e').state.store.outage := by
    intro e'
    rw [place_store]
    exact Store.commit_asked _ e' t.store
  unfold schedule
  cases e.phase with
  | exhausted => exact .refl _
  | notEmpty => exact hplaced e
  | full =>
    simp only
    split
    · exact hplaced _
    · exact hplaced e

theorem run_asked (t : Track α φ) (rs : List (Request α)) :
    Asked t.store.outage (t.run rs).store.outage := by
  induction rs generalizing t with
  | nil => exact .refl _
  | cons r rs ih =>
    refine Asked.trans ?_ (ih (t.perform r))
    cases r with
    | schedule e => exact schedule_asked _ t
    | tick => exact nextFrame_asked t

/-! ## Empty buckets on the shelf -/

/-- From `t` to `t'` no bucket came to stand empty on the shelf, and failing calls still have no
effect. -/
structure Spare (t t' : Track α φ) : Prop where
  ready : t'.Ready
  harmless : WithoutEffect t'.store.outage
  bare : ∀ id, t'.store.Bare id → t.store.Bare id

theorem Spare.refl {t : Track α φ} (h : t.Ready) (hharmless : WithoutEffect t.store.outage) :
    Spare t t :=
  ⟨h, hharmless, fun _ hid => hid⟩

theorem Spare.trans {t t' t'' : Track α φ} (h : Spare t t') (h' : Spare t' t'') : Spare t t'' :=
  ⟨h'.ready, h'.harmless, fun id hid => h.bare id (h'.bare id hid)⟩

/-- A step that commits once. -/
theorem Ready.spare_commit {t t' : Track α φ} (h : t.Ready)
    (hharmless : WithoutEffect t.store.outage) {e : Commitment α}
    (hstore : t'.store = (t.store.commit t.timeline.factory e).state)
    (htimeline : t'.timeline = t.timeline) : Spare t t' := by
  rw [h.factory] at hstore
  refine ⟨⟨?_, by rw [htimeline, h.factory]⟩, ?_, ?_⟩
  · have hfiled := Store.commit_spec h.sane e
    rw [hstore]
    generalize (t.store.commit .empty e).value = value, (t.store.commit .empty e).state = s
      at hfiled ⊢
    cases hfiled with
    | done hsane _ _ _ => exact hsane
    | refused _ hsteady => exact hsteady.sane
  · rw [hstore]
    exact hharmless.asked (Store.commit_asked _ e t.store)
  · intro id hid
    rw [hstore] at hid
    exact Store.commit_bare h.sane hharmless hid

theorem Spare.retry {t t' : Track α φ} (h : Spare t t') (e : Commitment α) :
    Spare t (t'.retry e).state :=
  h.trans (h.ready.spare_commit h.harmless (rollOver_store _ t') (retry_timeline e t'))

theorem Spare.settle {t t' : Track α φ} (h : Spare t t') (position : Nat) (e : Commitment α) :
    Spare t (t'.settle position e).state := by
  have htimeline := settle_timeline position e t'
  rcases settle_store position e t' with hstore | ⟨e', hstore⟩
  · refine h.trans ⟨⟨?_, ?_⟩, ?_, ?_⟩
    · rw [hstore]
      exact h.ready.sane
    · rw [htimeline]
      exact h.ready.factory
    · rw [hstore]
      exact h.harmless
    · intro id hid
      rw [hstore] at hid
      exact hid
  · exact h.trans (h.ready.spare_commit h.harmless hstore htimeline)

theorem Spare.each_settle {t t' : Track α φ} (h : Spare t t') (position : Nat)
    (es : List (Commitment α)) : Spare t (Outcome.each (Track.settle position) es t').state :=
  Outcome.each_invariant (P := Spare t) (fun e _ _ ht => ht.settle position e) h

/-- Every empty bucket on the shelf is behind the clock. -/
def Stocked (t : Track α φ) : Prop := ∀ id, t.store.Bare id → id < t.position

theorem Sound.retryDeferred_stocked {t : Track α φ} (h : t.Sound)
    (hharmless : WithoutEffect t.store.outage) (hstocked : t.Stocked) :
    t.retryDeferred.state.Stocked := by
  obtain ⟨_, _, _, hposition, _⟩ := retryDeferred_turn h
  obtain ⟨store, stale, hcleared, hsane, hcontents, hids, _⟩ := h.cleared
  have hasked : Asked t.store.outage t.cleared.store.outage :=
    each_asked removeBucket_asked t.stale { t with stale := [] }
  have hstart : Spare t { t.cleared with stranded := [] } := by
    rw [hcleared] at hasked ⊢
    refine ⟨⟨hsane, h.ready.factory⟩, hharmless.asked hasked, ?_⟩
    rintro id ⟨hstored, hempty⟩
    exact ⟨(hids id hstored).1, (hcontents id).symm.trans hempty⟩
  have hspare : Spare t t.retryDeferred.state :=
    Outcome.each_invariant (P := Spare t) (fun e _ _ ht => ht.retry e) hstart
  intro id hid
  rw [hposition]
  exact hstocked id (hspare.bare id hid)

/-- A drain leaves no bucket empty on the shelf but the one that it drains. -/
theorem drain_bare {t : Track α φ} (h : t.Ready) (hharmless : WithoutEffect t.store.outage)
    {slot : Slot} (hs : t.store.Serves t.position slot) {id : Nat}
    (hid : (t.drain slot).state.store.Bare id) : id = t.position ∨ t.store.Bare id := by
  have hemptied : (t.store.bucket slot).takeEvents.2 = ⟨t.position, []⟩ :=
    congrArg (Bucket.mk · []) hs.own
  obtain ⟨es, hstore⟩ := drain_store slot t
  obtain ⟨htidy, hcleared⟩ := hs.clear h.sane.tidy
  rw [hemptied] at hstore
  have hready : Ready { t with store := t.store.update slot ⟨t.position, []⟩ } :=
    ⟨⟨htidy, h.sane.keeps⟩, h.factory⟩
  have hspare := (Spare.refl hready hharmless).each_settle t.position es
  rw [hstore] at hid
  obtain ⟨hstored, hempty⟩ := hspare.bare id (Store.remove_bare hid)
  rw [hcleared] at hempty
  split at hempty
  · next heq => exact Or.inl heq
  · exact Or.inr ⟨hstored, hempty⟩

theorem Sound.takeBucket_bare {t : Track α φ} (h : t.Sound) {id : Nat}
    (hid : t.takeBucket.state.store.Bare id) : t.store.Bare id := by
  have hshelf := (takeBucket_consulted t).shelf
  obtain ⟨store, window, hstate, hsteady, _⟩ := takeBucket_spec h.ready h.window h.inRange
  rw [hstate] at hshelf hid
  obtain ⟨hstored, hempty⟩ := hid
  rw [Store.bucketIds, hshelf] at hstored
  exact ⟨hstored, (hsteady.contents id).symm.trans hempty⟩

theorem Sound.takeBucket_stocked {t : Track α φ} (h : t.Sound) (hstocked : t.Stocked) :
    t.takeBucket.state.Stocked := by
  obtain ⟨_, _, hstate, _, _⟩ := takeBucket_spec h.ready h.window h.inRange
  intro id hid
  have hlt := hstocked id (h.takeBucket_bare hid)
  rw [hstate]
  exact hlt

theorem Sound.drain_stocked {t : Track α φ} (h : t.Sound)
    (hharmless : WithoutEffect t.store.outage) (hstocked : t.Stocked) {slot : Slot}
    (hvalue : t.takeBucket.value = .ok slot) : (t.takeBucket.state.drain slot).state.Stocked := by
  have hasked := (takeBucket_consulted t).asked
  have hbefore : ∀ id, t.takeBucket.state.store.Bare id → t.store.Bare id :=
    fun _ hid => h.takeBucket_bare hid
  obtain ⟨store, window, hstate, hsteady, hcases⟩ := takeBucket_spec h.ready h.window h.inRange
  rcases hcases with ⟨⟨error, herror⟩, _⟩ | ⟨slot', hslot, hlast, _, hserves⟩
  · rw [herror] at hvalue
    cases hvalue
  · rw [hslot] at hvalue
    cases hvalue
    rw [hstate] at hasked hbefore ⊢
    have hready : Ready { t with store := store, timeline := { t.timeline with window := window } } :=
      ⟨hsteady.sane, h.ready.factory⟩
    obtain ⟨_, _, _, hdrained⟩ := drain_spec hready hserves hlast
    intro id hid
    rw [hdrained.position]
    rcases drain_bare hready (hharmless.asked hasked) hserves hid with rfl | hbare
    · exact Nat.lt_succ_self _
    · exact Nat.lt_succ_of_lt (hstocked id (hbefore id hbare))

theorem Sound.nextFrame_stocked {t : Track α φ} (h : t.Sound)
    (hharmless : WithoutEffect t.store.outage) (hstocked : t.Stocked) :
    t.nextFrame.state.Stocked := by
  obtain ⟨_, _, hturn, _, _⟩ := retryDeferred_turn h
  have hretried := h.retryDeferred_stocked hharmless hstocked
  have hharmless' := hharmless.asked (retryDeferred_asked t)
  simp only [nextFrame]
  split
  · exact hretried
  · split
    · exact hturn.sound.takeBucket_stocked hretried
    · next slot hslot => exact hturn.sound.drain_stocked hharmless' hretried hslot

theorem Sound.schedule_stocked {t : Track α φ} (h : t.Sound)
    (hharmless : WithoutEffect t.store.outage) (hstocked : t.Stocked) {e : Commitment α}
    (hfull : e.phase = .full) : (t.schedule e).state.Stocked := by
  have hstore := place_store (e.admitted t.position) t
  rw [h.ready.factory, ← (t.schedule_eq hfull).2] at hstore
  intro id hid
  rw [hstore] at hid
  rw [schedule_position]
  exact hstocked id (Store.commit_bare h.ready.sane hharmless hid)

/-! ## Runs -/

theorem stocked_run {t₀ : Track α φ} (h : t₀.Opened) (hharmless : WithoutEffect t₀.store.outage)
    {rs : List (Request α)} (hfull : ∀ r ∈ rs, r.Full) : (t₀.run rs).Stocked := by
  induction rs using List.reverseRecOn with
  | nil =>
    rintro id ⟨hstored, _⟩
    have hempty : t₀.store.bucketIds = [] := by
      rw [h.unused.store]
      rfl
    exact absurd hstored (hempty ▸ List.not_mem_nil)
  | append_singleton rs r ih =>
    obtain ⟨hfull, hr⟩ := List.forall_mem_append.mp hfull
    have hr := List.forall_mem_singleton.mp hr
    have hsound := (tally_run h hharmless.keepsEvents hfull).sound
    have hharmless' := hharmless.asked (run_asked t₀ rs)
    have ih := ih hfull
    rw [run_snoc]
    cases r with
    | schedule e => exact hsound.schedule_stocked hharmless' ih hr
    | tick => exact hsound.nextFrame_stocked hharmless' ih

/-- The buckets behind the clock are those that were drained. -/
theorem drained_run {t₀ : Track α φ} (h : t₀.Opened)
    (hkeeps : Outage.KeepsEvents t₀.store.outage) {rs : List (Request α)}
    (hfull : ∀ r ∈ rs, r.Full) :
    (t₀.history drains rs).map (·.bucket) = List.range (t₀.run rs).position := by
  induction rs using List.reverseRecOn with
  | nil =>
    show [] = List.range t₀.position
    rw [h.unused.position]
    rfl
  | append_singleton rs r ih =>
    obtain ⟨hfull, hr⟩ := List.forall_mem_append.mp hfull
    have hsound := (tally_run h hkeeps hfull).sound
    rw [run_snoc, history_snoc, List.map_append, ih hfull]
    cases r with
    | schedule e =>
      show _ = List.range ((t₀.run rs).schedule _).state.position
      rw [schedule_position]
      exact List.append_nil _
    | tick =>
      have hticked := nextFrame_ticked hsound
      show _ = List.range (t₀.run rs).nextFrame.state.position
      generalize (t₀.run rs).frames .tick = handed, (t₀.run rs).drains .tick = drains,
        (t₀.run rs).nextFrame.state = t' at hticked ⊢
      cases hticked with
      | still _ hposition _ =>
        rw [hposition]
        exact List.append_nil _
      | drained _ _ hposition _ =>
        rw [hposition, List.range_succ]
        rfl

/-! ## An empty store and an empty schedule -/

/-- How far an empty store tells that nothing is pending, and the other way round. `drained` are
the buckets that were drained. -/
structure Matched (t : Track α φ) (drained : List Nat) : Prop where
  undeferred : t.hasDeferredWork = false → (t.isEmpty = true ↔ t.pending = 0)
  held : t.isEmpty = true → t.pending = t.stranded.length
  awaiting : t.pending = 0 →
    ∀ b ∈ t.store.stored, b.2.events = [] ∧ b.1 ∈ drained ∧ b.1 ∈ t.stale
  stops : Removes t.store.outage → ∀ n,
    (t.run (List.replicate n .tick)).nextFrame.value = .ok none →
      (t.run (List.replicate (n + 1) .tick)).isEmpty = true

theorem Sound.pending_of_isEmpty {t : Track α φ} (h : t.Sound) (hempty : t.isEmpty = true) :
    t.pending = t.stranded.length := by
  have hnone := (Store.isEmpty_iff t.store).mp hempty
  have hevents : t.store.events = [] := by
    rw [Store.events_eq_flatMap h.ready.sane.tidy.orderly, List.eq_nil_iff_forall_not_mem.mpr hnone]
    rfl
  rw [h.pending, live, hevents, List.nil_append]

/-- With nothing pending every bucket on the shelf is empty and waits to be removed. -/
theorem Sound.awaiting {t : Track α φ} (h : t.Sound) (hstocked : t.Stocked)
    (hpending : t.pending = 0) {id : Nat} (hid : id ∈ t.store.bucketIds) :
    t.store.contents id = [] ∧ id < t.position ∧ id ∈ t.stale := by
  have hlive : t.live = [] := List.eq_nil_of_length_eq_zero (h.pending.symm.trans hpending)
  have hevents : t.store.events = [] := (List.append_eq_nil_iff.mp hlive).1
  have hempty : t.store.contents id = [] :=
    List.sublist_nil.mp (hevents ▸ Store.contents_sublist h.ready.sane.tidy.orderly id)
  have hlt := hstocked id ⟨hid, hempty⟩
  exact ⟨hempty, hlt, h.drained id hid hlt⟩

theorem removeBucket_removes {t : Track α φ} (h : Removes t.store.outage) (id : Nat) :
    (t.removeBucket id).state.stale = t.stale := by
  have hnone := h [] id
  simp only [Outage.after, List.foldl_nil] at hnone
  simp only [removeBucket, Store.remove, hnone]

/-- Once removals succeed none waits after a tick began. -/
theorem retryDeferred_stale {t : Track α φ} (h : Removes t.store.outage) :
    t.retryDeferred.state.stale = [] := by
  have hremoved : t.cleared.stale = [] ∧ Removes t.cleared.store.outage := by
    refine Outcome.each_invariant
      (P := fun t' : Track α φ => t'.stale = [] ∧ Removes t'.store.outage) ?_ ⟨rfl, h⟩
    rintro id _ t' ⟨hstale, hremoves⟩
    exact ⟨(removeBucket_removes hremoves id).trans hstale,
      hremoves.asked (removeBucket_asked id t')⟩
  have hbase := Outcome.each_keeps base retry_base t.cleared.stranded
    { t.cleared with stranded := [] }
  exact (congrArg (·.2.2.1) hbase).trans hremoved.1

/-- Once removals succeed, a tick without a frame leaves the store empty. -/
theorem Sound.isEmpty_of_idle {t : Track α φ} (h : t.Sound)
    (hharmless : WithoutEffect t.store.outage) (hstocked : t.Stocked)
    (hremoves : Removes t.store.outage) (hidle : t.nextFrame.value = .ok none) :
    t.nextFrame.state.isEmpty = true := by
  obtain ⟨_, _, hturn, _, _⟩ := retryDeferred_turn h
  have hretried := h.retryDeferred_stocked hharmless hstocked
  have hstale := retryDeferred_stale hremoves
  have hemitted := nextFrame_emitted h
  rw [hidle] at hemitted
  generalize t.nextFrame.state = t', t.settleFilings = filed at hemitted ⊢
  cases hemitted with
  | idle hpending =>
    apply (Store.isEmpty_iff _).mpr
    intro id hid
    obtain ⟨_, _, hwaits⟩ := hturn.sound.awaiting hretried hpending hid
    rw [hstale] at hwaits
    cases hwaits

theorem Sound.undeferred {t : Track α φ} (h : t.Sound) (hstocked : t.Stocked)
    (hnone : t.hasDeferredWork = false) : t.isEmpty = true ↔ t.pending = 0 := by
  simp only [hasDeferredWork, Bool.or_eq_false_iff, Bool.not_eq_false', List.isEmpty_iff] at hnone
  obtain ⟨hstranded, hstale⟩ := hnone
  constructor
  · intro hempty
    rw [h.pending_of_isEmpty hempty, hstranded]
    rfl
  · intro hpending
    apply (Store.isEmpty_iff _).mpr
    intro id hid
    obtain ⟨_, _, hwaits⟩ := h.awaiting hstocked hpending hid
    rw [hstale] at hwaits
    cases hwaits

/-- An empty store and an empty schedule: if failing calls have no effect, the two differ only by
work that waits on the track, and ticking until the store is empty ends with the first tick
without a frame once removals succeed. -/
theorem emptiness {t₀ : Track α φ} (h : t₀.Opened) (hharmless : WithoutEffect t₀.store.outage)
    {rs : List (Request α)} (hfull : ∀ r ∈ rs, r.Full) :
    (t₀.run rs).Matched ((t₀.history drains rs).map (·.bucket)) := by
  have hsound := (tally_run h hharmless.keepsEvents hfull).sound
  have hstocked := stocked_run h hharmless hfull
  refine ⟨hsound.undeferred hstocked, hsound.pending_of_isEmpty, ?_, ?_⟩
  · intro hpending b hb
    obtain ⟨_, hevents, hid⟩ := mem_stored hsound.ready.sane.tidy hb
    obtain ⟨hempty, hlt, hwaits⟩ := hsound.awaiting hstocked hpending hid
    rw [drained_run h hharmless.keepsEvents hfull]
    exact ⟨hevents.trans hempty, List.mem_range.mpr hlt, hwaits⟩
  · intro hremoves n hidle
    have hfull' : ∀ r ∈ rs ++ List.replicate n .tick, r.Full := by
      intro r hr
      rcases List.mem_append.mp hr with hr | hr
      · exact hfull r hr
      · rw [List.eq_of_mem_replicate hr]
        trivial
    have hsound' := (tally_run h hharmless.keepsEvents hfull').sound
    have hstocked' := stocked_run h hharmless hfull'
    have hharmless' := hharmless.asked (run_asked t₀ (rs ++ List.replicate n .tick))
    rw [run_append] at hsound' hstocked' hharmless'
    rw [List.replicate_succ', run_snoc]
    exact hsound'.isEmpty_of_idle hharmless' hstocked'
      (hremoves.asked (run_asked _ _)) hidle

/-- A track whose store refuses to remove bucket 1 once. -/
def cluttered : Track Nat (List PlannedFailure) :=
  .ofStore (.empty [{ kind := .remove, id := some 1, failure := ⟨.told .backend "refused", .none⟩ }])

def brief : List (Request Nat) :=
  [.schedule { deliveryTime := 1, supply := .ofList [3] }, .tick, .tick]

/-- After the drain of bucket 1 nothing is pending, and the bucket stands on the shelf until the
next tick. -/
theorem emptiness_cluttered :
    (cluttered.run brief).Matched ((cluttered.history drains brief).map (·.bucket)) ∧
      (cluttered.run brief).pending = 0 ∧ (cluttered.run brief).isEmpty = false ∧
      (cluttered.run brief).nextFrame.value = .ok none ∧
      (cluttered.run brief).nextFrame.state.isEmpty = true := by
  have hfull : ∀ r ∈ brief, r.Full := by simp [brief, Request.Full]
  have hmatched := emptiness (.ofStore _ : cluttered.Opened) (withoutEffect_plan (by decide)) hfull
  have hidle : (cluttered.run brief).nextFrame.value = .ok none := by decide +kernel
  have hstops := hmatched.stops (removes_plan (by decide +kernel)) 0 hidle
  exact ⟨hmatched, by decide +kernel, by decide +kernel, hidle, hstops⟩

end Track
end BucketClock
