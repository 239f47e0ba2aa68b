import BucketClock.Proofs.Store.Calm
import BucketClock.Proofs.Track.Drain

/-!
Ticks over a store that never fails, whatever the window of the track holds and
whatever was stored before. A `Course` is what a stretch of a tick did; the
drain of a bucket retires what is exhausted and files the rest in later buckets
(`drain_course`), and then takes bucket `position` off the shelf with whatever
is stored there.
-/

namespace BucketClock.Track

open Commitment (Refiled dueAt survivors spent)
open Store (Undisturbed)

variable {α : Type}

/-- A track over an orderly store whose missing buckets are empty; no work waits on it. -/
structure Calm (t : Track α Unit) : Prop where
  orderly : t.store.Orderly
  factory : t.timeline.factory = Bucket.empty
  stranded : t.stranded = []
  stale : t.stale = []

theorem Calm.cleared {t : Track α Unit} (h : t.Calm) : t.cleared = t := by
  obtain ⟨_, _, _, hstale⟩ := h
  obtain ⟨name, timeline, store, position, horizon, pending, frameWidth, increment, counters,
    stranded, stale, audit, stamp, _, _⟩ := t
  cases hstale
  rfl

/-- The retries of a tick have nothing to do. -/
theorem Calm.retryDeferred {t : Track α Unit} (h : t.Calm) : t.retryDeferred.state = t := by
  obtain ⟨_, _, hstranded, hstale⟩ := h
  obtain ⟨name, timeline, store, position, horizon, pending, frameWidth, increment, counters,
    stranded, stale, audit, stamp, _, _⟩ := t
  cases hstranded
  cases hstale
  rfl

/-- From `t` to `t'` the given commitments were filed, `gone` were retired, and the clock stood
still. -/
structure Course (t t' : Track α Unit) (filed : List (Commitment α)) (gone : Nat) : Prop where
  calm : t'.Calm
  timeline : t'.timeline = t.timeline
  position : t'.position = t.position
  frameWidth : t'.frameWidth = t.frameWidth
  increment : t'.increment = t.increment
  contents : ∀ id, t'.store.contents id = t.store.contents id ++ dueAt id filed
  undisturbed : Undisturbed t.store t'.store
  pending : t'.pending = t.pending - gone
  scheduled : t'.counters.scheduled = t.counters.scheduled

theorem Course.refl {t : Track α Unit} (h : t.Calm) : Course t t [] 0 :=
  ⟨h, rfl, rfl, rfl, rfl, fun _ => (List.append_nil _).symm, .refl _, rfl, rfl⟩

theorem Course.trans {t t' t'' : Track α Unit} {filed filed' : List (Commitment α)}
    {gone gone' : Nat} (h : Course t t' filed gone) (h' : Course t' t'' filed' gone') :
    Course t t'' (filed ++ filed') (gone + gone') := by
  refine ⟨h'.calm, h'.timeline.trans h.timeline, h'.position.trans h.position,
    h'.frameWidth.trans h.frameWidth, h'.increment.trans h.increment, ?_,
    h.undisturbed.trans h'.undisturbed, ?_, h'.scheduled.trans h.scheduled⟩
  · intro id
    rw [h'.contents, h.contents, Commitment.dueAt_append, List.append_assoc]
  · rw [h'.pending, h.pending, Nat.sub_sub]

/-! ## Filing -/

/-- The commitment as a store without failures files it. -/
def identified (t : Track α Unit) (e : Commitment α) : Commitment α :=
  { e with id := some (t.store.identity e) }

theorem filing_calm (t : Track α Unit) (e : Commitment α) : t.filing e = [t.identified e] := by
  rw [filing, Store.commit_ok]
  rfl

theorem identified_spec {t : Track α Unit} (e : Commitment α) : e.Identified (t.identified e) := by
  refine ⟨_, rfl, ?_⟩
  cases hid : e.id with
  | none => exact Or.inl rfl
  | some id => exact Or.inr (by simp [Store.identity, hid])

theorem place_calm {t : Track α Unit} (h : t.Calm) (e : Commitment α) :
    ∃ s, Store.Appended (t.identified e) t.store s ∧ (t.place e).value = .ok () ∧
      (t.place e).state = t.counted e (t.identified e).id s := by
  have hfiled := Store.commit_appends h.orderly e
  refine ⟨_, hfiled, ?_⟩
  simp only [place, h.factory, Store.commit_ok, counted]
  split
  · exact ⟨rfl, rfl⟩
  · exact ⟨rfl, rfl⟩

theorem rollOver_course {t : Track α Unit} (h : t.Calm) {e : Commitment α}
    (hphase : e.phase ≠ .full) : Course t (t.rollOver e).state (t.filing e) 0 := by
  obtain ⟨s, hfiled, hvalue, hstate⟩ := place_calm h e
  rw [filing_calm]
  simp only [rollOver, hvalue, hstate, counted, if_neg hphase]
  exact ⟨⟨hfiled.orderly, h.factory, h.stranded, h.stale⟩, rfl, rfl, rfl, rfl, hfiled.contents_dueAt,
    hfiled.undisturbed, rfl, rfl⟩

theorem settle_course {t : Track α Unit} (h : t.Calm) (position : Nat) (e : Commitment α) :
    Refiled (if e.supply.isExhausted then [] else [e.onward position t.increment])
        (settleFiling position e t) [] ∧
      Course t (settle position e t).state (settleFiling position e t)
        (if e.supply.isExhausted then 1 else 0) := by
  by_cases hexhausted : e.supply.isExhausted = true
  · rw [if_pos hexhausted, if_pos hexhausted, settleFiling, if_pos hexhausted, settle,
      if_pos hexhausted]
    exact ⟨.nil, ⟨h.orderly, h.factory, h.stranded, h.stale⟩, rfl, rfl, rfl, rfl,
      fun _ => (List.append_nil _).symm, .refl _, rfl, rfl⟩
  · rw [if_neg hexhausted, if_neg hexhausted, settleFiling, if_neg hexhausted,
      settle_onward t position hexhausted]
    refine ⟨?_, rollOver_course h (e.onward_begun position t.increment)⟩
    rw [filing_calm]
    exact .filed (identified_spec _) .nil

theorem each_settle_course {t : Track α Unit} (h : t.Calm) (position : Nat)
    (es : List (Commitment α)) :
    Refiled ((es.filter (!·.supply.isExhausted)).map (·.onward position t.increment))
        (Outcome.trace (settle position) (settleFiling position) es t) [] ∧
      Course t (Outcome.each (settle position) es t).state
        (Outcome.trace (settle position) (settleFiling position) es t)
        (es.filter (·.supply.isExhausted)).length := by
  induction es generalizing t with
  | nil => exact ⟨.nil, .refl h⟩
  | cons e es ih =>
    obtain ⟨hrefiled, hcourse⟩ := settle_course h position e
    obtain ⟨hrefiled', hcourse'⟩ := ih hcourse.calm
    rw [hcourse.increment] at hrefiled'
    refine ⟨?_, ?_⟩
    · have hall := hrefiled.append hrefiled'
      cases he : e.supply.isExhausted with
      | true => simpa [he, Outcome.trace] using hall
      | false => simpa [he, Outcome.trace] using hall
    · have hall := hcourse.trans hcourse'
      cases he : e.supply.isExhausted with
      | true =>
        simpa [he, Outcome.trace, Outcome.each, Outcome.after, Nat.add_comm] using hall
      | false => simpa [he, Outcome.trace, Outcome.each, Outcome.after] using hall

/-! ## Taking the next bucket -/

theorem takeBucket_handed {t : Track α Unit} {slot : Slot} {rest : List Slot}
    (h : t.timeline.window.AtHand (slot :: rest) t.position) (hlt : t.position < Index.last) :
    t.takeBucket.value = .ok slot ∧
      ∃ window, t.takeBucket.state = { t with timeline := { t.timeline with window := window } } ∧
        window.AtHand rest (t.position + 1) := by
  obtain ⟨hvalue, window, hstate, hrest⟩ :=
    h.take_cons hlt (fun id s => s.fetch t.timeline.factory id) t.store
  simp only [takeBucket, Timeline.take, hvalue, hstate, List.getLast?_singleton]
  exact ⟨trivial, window, rfl, hrest⟩

theorem takeBucket_fetched {t : Track α Unit} (h : t.Calm)
    (hwindow : t.timeline.window.At t.position) (hlt : t.position < Index.last) :
    ∃ slot store window, t.takeBucket.value = .ok slot ∧
      t.takeBucket.state =
        { t with store := store, timeline := { t.timeline with window := window } } ∧
      store.Orderly ∧ (∀ id, store.contents id = t.store.contents id) ∧
      store.Serves t.position slot ∧ window.At (t.position + 1) := by
  obtain ⟨slot, store, hfetch, hstore, horderly, hcontents, hserves, _, _⟩ :=
    Store.fetch_serves h.orderly t.position
  obtain ⟨hvalue, window, hstate, hwindow'⟩ := hwindow.take_ok hlt hfetch
  rw [hstore] at hstate
  simp only [takeBucket, Timeline.take, h.factory, hvalue, hstate, List.getLast?_singleton]
  exact ⟨slot, store, window, rfl, rfl, horderly, hcontents, hserves, hwindow'⟩

theorem takeBucket_last {t : Track α Unit} {slots : List Slot}
    (h : t.timeline.window.AtHand slots t.position) (hlast : t.position = Index.last) :
    t.takeBucket.value = .error .noBucket ∧
      ∃ window, t.takeBucket.state = { t with timeline := { t.timeline with window := window } } ∧
        window.AtHand slots t.position := by
  rw [hlast] at h
  obtain ⟨hvalue, window, hstate, hwindow⟩ :=
    h.take_last (fun id s => s.fetch t.timeline.factory id) t.store
  rw [← hlast] at hwindow
  simp only [takeBucket, Timeline.take, hvalue, hstate, List.getLast?_nil]
  exact ⟨trivial, window, rfl, hwindow⟩

/-! ## The drain -/

/-- The track once the commitments of the bucket in a slot were dealt with, before the bucket is
removed. -/
def settled {φ : Type} [Outage φ] (slot : Slot) (t : Track α φ) : Track α φ :=
  let moved := ((t.store.bucket slot).deliverWith t.frameWidth).state.takeEvents
  (Outcome.each (settle t.position) moved.1 { t with store := t.store.update slot moved.2 }).state

/-- From `t` to `t'` the bucket in a slot was drained and bucket `position` taken off the shelf, the
given commitments were filed, and `gone` were retired. -/
structure Emptied (t t' : Track α Unit) (slot : Slot) (filed : List (Commitment α)) (gone : Nat) :
    Prop where
  calm : t'.Calm
  timeline : t'.timeline = t.timeline
  position : t'.position = t.position + 1
  frameWidth : t'.frameWidth = t.frameWidth
  increment : t'.increment = t.increment
  contents : ∀ id, t'.store.contents id =
    if id = t.position then [] else t.store.contents id ++ dueAt id filed
  undisturbed : ∀ other, t.store.Aside other → other ≠ slot →
    t'.store.Aside other ∧ t'.store.bucket other = t.store.bucket other
  pending : t'.pending = t.pending - gone
  scheduled : t'.counters.scheduled = t.counters.scheduled

/-- The end of a drain, from the bucket emptied on. -/
theorem Course.emptied {t t₁ : Track α Unit} {slot : Slot} {filed : List (Commitment α)} {gone : Nat}
    (h : Course { t with store := t.store.update slot ⟨t.position, []⟩ } t₁ filed gone)
    (hcleared : ∀ id, (t.store.update slot ⟨t.position, []⟩).contents id =
      if t.store.lookup id = some slot then [] else t.store.contents id)
    (hown : ∀ id, t.store.lookup id = some slot → id = t.position) (items : Nat)
    (payload : Option String) :
    Emptied t
      (record .drain none t.position payload
        { (t₁.removeBucket t.position).state with
          position := (t₁.removeBucket t.position).state.position + 1
          counters := { (t₁.removeBucket t.position).state.counters with
            frames := (t₁.removeBucket t.position).state.counters.frames + 1
            deliveredItems :=
              (t₁.removeBucket t.position).state.counters.deliveredItems + items } })
      slot filed gone := by
  obtain ⟨horderly, hlookup, hcontents⟩ := h.calm.orderly.erase t.position
  refine ⟨⟨horderly, h.calm.factory, h.calm.stranded, h.calm.stale⟩, h.timeline, ?_, h.frameWidth,
    h.increment, ?_, ?_, h.pending, h.scheduled⟩
  · exact congrArg (· + 1) h.position
  · intro id
    refine (hcontents id).trans ?_
    split
    · rfl
    · next hne =>
      rw [h.contents]
      simp only [hcleared]
      rw [if_neg fun heq => hne (hown id heq)]
  · intro other haside hne
    have hstill : (t.store.update slot ⟨t.position, []⟩).Aside other := ⟨haside.made, haside.off⟩
    obtain ⟨haside', hbucket⟩ := h.undisturbed other hstill
    refine ⟨⟨haside'.made, ?_⟩, ?_⟩
    · intro id hid
      have hid' := (hlookup id).symm.trans hid
      split at hid'
      · cases hid'
      · exact haside'.off id hid'
    · refine hbucket.trans ?_
      rw [Store.bucket_update, if_neg hne.symm]

theorem drain_course {t : Track α Unit} (h : t.Calm) {slot : Slot}
    (hown : (t.store.bucket slot).id = t.position) (hlast : t.position < Index.last) :
    let es := (t.store.bucket slot).events
    (t.drain slot).value = es.flatMap (fun e => (e.draw t.frameWidth).value) ∧
      (t.settled slot).store.contents t.position =
        (if t.store.lookup t.position = some slot then [] else t.store.contents t.position) ∧
      Refiled ((survivors t.frameWidth es).map (·.onward t.position t.increment))
        (t.drainFilings slot) [] ∧
      (∀ e ∈ t.drainFilings slot, t.position < e.deliveryTime) ∧
      Emptied t (t.drain slot).state slot (t.drainFilings slot) (spent t.frameWidth es).length := by
  intro es
  obtain ⟨horderly, hcleared⟩ := h.orderly.clear hown
  have hcalm : Calm { t with store := t.store.update slot ⟨t.position, []⟩ } :=
    ⟨horderly, h.factory, h.stranded, h.stale⟩
  obtain ⟨hrefiled, hcourse⟩ := each_settle_course hcalm t.position (es.map (·.drawn t.frameWidth))
  simp only [drain, drainFilings, settled, Bucket.deliverWith, Bucket.takeEvents,
    Bucket.drawFlat_value, Bucket.drawFlat_state, hown]
  have hlater : ∀ e ∈ Outcome.trace (settle t.position) (settleFiling t.position)
      (es.map (·.drawn t.frameWidth)) { t with store := t.store.update slot ⟨t.position, []⟩ },
      t.position < e.deliveryTime := by
    intro e he
    obtain ⟨_, hmem, _, rfl, _⟩ := hrefiled.origin (List.mem_append_left _ he)
    obtain ⟨e₀, _, rfl⟩ := List.mem_map.mp hmem
    exact e₀.lt_onward hlast t.increment
  refine ⟨rfl, ?_, hrefiled, hlater, ?_⟩
  · refine (hcourse.contents t.position).trans ?_
    rw [Commitment.dueAt_eq_nil fun e he => Nat.ne_of_gt (hlater e he), List.append_nil]
    exact hcleared t.position
  · exact hcourse.emptied hcleared
      (fun id hid => (h.orderly.own id slot hid).symm.trans hown) _ _

end BucketClock.Track
