import BucketClock.Proofs.Store.Twin
import BucketClock.Proofs.Track.Books
import BucketClock.Proofs.Track.Interchange
import BucketClock.Proofs.Track.Resubmission

/-!
Twin tracks. Two tracks over stores that never fail are twins when they differ
only in the slots of their buckets, in the wall clock, and in what their audit
trails held before: since then both got the same entries (`AuditTrail.Grown`).
Every request is answered the same way by twins and leaves twins, so they are
told apart by no run (`Twin.runAt`): what is to be seen of them but for the
trails is the same at every step (`Twin.report`).
-/

namespace BucketClock

namespace AuditTrail

/-- The two trails are the given ones after the same further entries, but for readings of the wall
clock. -/
def Grown (a a' b b' : Option AuditTrail) : Prop :=
  ∃ later, b.map timeless = (a.map (recordAll later)).map timeless ∧
    b'.map timeless = (a'.map (recordAll later)).map timeless

/-- Nothing was added yet. -/
theorem Grown.start {a a' b b' : Option AuditTrail} (h : b.map timeless = a.map timeless)
    (h' : b'.map timeless = a'.map timeless) : Grown a a' b b' :=
  ⟨[], by rw [map_recordAll_nil, h], by rw [map_recordAll_nil, h']⟩

theorem Grown.record {a a' b b' : Option AuditTrail} (h : Grown a a' b b') {e e' : AuditEntry}
    (he : e.timeless = e'.timeless) :
    Grown a a' (b.map (·.record e)) (b'.map (·.record e')) := by
  obtain ⟨later, hb, hb'⟩ := h
  refine ⟨later ++ [e], ?_, ?_⟩
  · rw [map_recordAll_append]
    exact timeless_recorded hb rfl
  · rw [map_recordAll_append]
    exact timeless_recorded hb' he.symm

end AuditTrail

namespace Track

variable {α : Type} {a a' : Option AuditTrail} {t t' : Track α Unit}

/-- The same track but for slots, readings of the wall clock, and trails that grew alike. -/
def Twin (a a' : Option AuditTrail) (t t' : Track α Unit) : Prop :=
  ∃ store audit stamp, t' = { t with store := store, audit := audit, stamp := stamp } ∧
    t.store.Twin store ∧ AuditTrail.Grown a a' t.audit audit ∧ t.Calm

theorem Twin.calm (h : Twin a a' t t') : t.Calm ∧ t'.Calm := by
  obtain ⟨store, audit, stamp, rfl, hstore, _, hcalm⟩ := h
  exact ⟨hcalm, hstore.right, hcalm.factory, hcalm.stranded, hcalm.stale⟩

theorem Twin.name (h : Twin a a' t t') : t'.name = t.name := by
  obtain ⟨store, audit, stamp, rfl, _⟩ := h
  rfl

theorem Twin.stats (h : Twin a a' t t') : t.stats = t'.stats := by
  obtain ⟨store, audit, stamp, rfl, _⟩ := h
  rfl

theorem Twin.stored (h : Twin a a' t t') : t.store.stored = t'.store.stored := by
  obtain ⟨store, audit, stamp, rfl, hstore, _⟩ := h
  exact hstore.stored

theorem Twin.audits (h : Twin a a' t t') : AuditTrail.Grown a a' t.audit t'.audit := by
  obtain ⟨store, audit, stamp, rfl, _, haudit, _⟩ := h
  exact haudit

theorem Twin.record (h : Twin a a' t t') (action : AuditAction) (id : Option Nat) (bucket : Nat)
    (payload : Option String) :
    Twin a a' (t.record action id bucket payload) (t'.record action id bucket payload) := by
  obtain ⟨store, audit, stamp, rfl, hstore, haudit, hcalm⟩ := h
  exact ⟨store, _, stamp, rfl, hstore, haudit.record rfl,
    hcalm.orderly, hcalm.factory, hcalm.stranded, hcalm.stale⟩

/-! ## Filing -/

/-- A commit succeeds on both. -/
theorem Twin.place (h : Twin a a' t t') (e : Commitment α) :
    (t.place e).value = .ok () ∧ (t.place e).Agree Eq (Twin a a') (t'.place e) := by
  obtain ⟨hcalm, hcalm'⟩ := h.calm
  obtain ⟨_, _, hvalue, _⟩ := place_calm hcalm e
  obtain ⟨_, _, hvalue', _⟩ := place_calm hcalm' e
  have hboth : Twin a a' (t.place e).state (t'.place e).state ∧
      Note.told (t.place e).notes = Note.told (t'.place e).notes := by
    obtain ⟨store, audit, stamp, rfl, hstore, haudit, _⟩ := h
    obtain ⟨hcommit, hnotes, htwin⟩ := hstore.commit e
    have horderly := htwin.left
    simp only [Track.place, hcalm.factory, ← hcommit, ← hnotes, Store.commit_ok]
    generalize (t.store.commit .empty e).state = s, (store.commit .empty e).state = s'
      at htwin horderly ⊢
    split
    · refine ⟨Twin.record ?_ _ _ _ _, rfl⟩
      exact ⟨s', audit, stamp, rfl, htwin, haudit, horderly, hcalm.factory, hcalm.stranded,
        hcalm.stale⟩
    · refine ⟨Twin.record ?_ _ _ _ _, rfl⟩
      exact ⟨s', audit, stamp, rfl, htwin, haudit, horderly, hcalm.factory, hcalm.stranded,
        hcalm.stale⟩
  exact ⟨hvalue, hvalue.trans hvalue'.symm, hboth.1, hboth.2⟩

theorem Twin.rollOver (h : Twin a a' t t') (e : Commitment α) :
    (t.rollOver e).Agree Eq (Twin a a') (t'.rollOver e) := by
  obtain ⟨hvalue, hplace⟩ := h.place e
  have hvalue' := hplace.value.symm.trans hvalue
  simp only [Track.rollOver, hvalue, hvalue']
  exact ⟨rfl, hplace.state, hplace.told⟩

theorem Twin.schedule (h : Twin a a' t t') (e : Commitment α) :
    (t.schedule e).Agree Eq (Twin a a') (t'.schedule e) := by
  have hfile : ∀ e : Commitment α,
      (⟨(t.place e).value.mapError (·.error), (t.place e).state, (t.place e).notes⟩ :
        Outcome (Track α Unit) (Except TrackError Unit)).Agree Eq (Twin a a')
      ⟨(t'.place e).value.mapError (·.error), (t'.place e).state, (t'.place e).notes⟩ := by
    intro e
    obtain ⟨_, hplace⟩ := h.place e
    exact ⟨congrArg (Except.mapError (·.error)) hplace.value, hplace.state, hplace.told⟩
  have hposition : t'.position = t.position ∧ t'.name = t.name := by
    obtain ⟨_, _, _, rfl, _⟩ := h
    exact ⟨rfl, rfl⟩
  simp only [Track.schedule, hposition.1, hposition.2]
  cases e.phase with
  | exhausted => exact ⟨rfl, h, rfl⟩
  | notEmpty => exact hfile e
  | full =>
    simp only
    split
    · exact (hfile _).after rfl
    · exact hfile e

/-! ## The parts of a tick -/

theorem Calm.retryDeferred_eq (h : t.Calm) : t.retryDeferred = ⟨(), t, []⟩ := by
  obtain ⟨_, _, hstranded, hstale⟩ := h
  obtain ⟨name, timeline, store, position, horizon, pending, frameWidth, increment, counters,
    stranded, stale, audit, stamp, _, _⟩ := t
  cases hstranded
  cases hstale
  rfl

theorem Twin.settle (h : Twin a a' t t') (position : Nat) (e : Commitment α) :
    (t.settle position e).Agree Eq (Twin a a') (t'.settle position e) := by
  have hsame : t'.increment = t.increment ∧ t'.name = t.name := by
    obtain ⟨_, _, _, rfl, _⟩ := h
    exact ⟨rfl, rfl⟩
  simp only [Track.settle, hsame.1, hsame.2]
  split
  · refine ⟨rfl, Twin.record ?_ _ _ _ _, rfl⟩
    obtain ⟨store, audit, stamp, rfl, hstore, haudit, hcalm⟩ := h
    exact ⟨store, audit, stamp, rfl, hstore, haudit, hcalm.orderly, hcalm.factory, hcalm.stranded,
      hcalm.stale⟩
  · split
    · exact (h.rollOver _).after rfl
    · exact (h.rollOver _).after rfl

theorem Twin.settleAll (h : Twin a a' t t') (position : Nat) (es : List (Commitment α)) :
    (Outcome.each (Track.settle position) es t).Agree Eq (Twin a a')
      (Outcome.each (Track.settle position) es t') := by
  refine Outcome.each_agree (X := Eq) ?_ (List.forall₂_same.mpr fun _ _ => rfl) h
  rintro e _ u u' rfl hu
  exact hu.settle position e

theorem Twin.removeBucket (h : Twin a a' t t') (id : Nat) :
    (t.removeBucket id).Agree Eq (Twin a a') (t'.removeBucket id) := by
  obtain ⟨store, audit, stamp, rfl, hstore, haudit, hcalm⟩ := h
  have herased := hstore.erase id
  exact ⟨rfl, ⟨_, audit, stamp, rfl, herased, haudit, herased.left, hcalm.factory, hcalm.stranded,
    hcalm.stale⟩, rfl⟩

/-- The clock moves on by one bucket. -/
theorem Twin.moved (h : Twin a a' t t') (items : Nat) :
    Twin a a'
      { t with
        position := t.position + 1
        counters := { t.counters with
          frames := t.counters.frames + 1
          deliveredItems := t.counters.deliveredItems + items } }
      { t' with
        position := t'.position + 1
        counters := { t'.counters with
          frames := t'.counters.frames + 1
          deliveredItems := t'.counters.deliveredItems + items } } := by
  obtain ⟨store, audit, stamp, rfl, hstore, haudit, hcalm⟩ := h
  exact ⟨store, audit, stamp, rfl, hstore, haudit, hcalm.orderly, hcalm.factory, hcalm.stranded,
    hcalm.stale⟩

/-- The slot holds the bucket that is due. -/
def Due (slot : Slot) (t : Track α Unit) : Prop := t.store.Serves t.position slot

theorem Due.bucket {slot : Slot} (h : t.Due slot) :
    t.store.bucket slot = ⟨t.position, t.store.contents t.position⟩ := by
  rw [← h.events, ← h.own]

theorem Twin.takeBucket (h : Twin a a' t t') (hwindow : t.timeline.window.At t.position)
    (hrange : t.position ≤ Index.last) :
    Twin a a' t.takeBucket.state t'.takeBucket.state ∧
      Note.told t.takeBucket.notes = Note.told t'.takeBucket.notes ∧
      (t.takeBucket.value = .error .noBucket ∧ t'.takeBucket.value = .error .noBucket ∨
        ∃ slot slot', t.takeBucket.value = .ok slot ∧ t'.takeBucket.value = .ok slot' ∧
          t.takeBucket.state.Due slot ∧ t'.takeBucket.state.Due slot') := by
  obtain ⟨store, audit, stamp, rfl, hstore, haudit, hcalm⟩ := h
  rcases Nat.lt_or_eq_of_le hrange with hlt | hlast
  · obtain ⟨slot, slot', hvalue, hvalue', hnotes, htwin, hserves, hserves'⟩ :=
      hstore.fetch t.position
    have htaken := fun {s : Store α Unit} {x : Slot} =>
      hwindow.take_found hlt (fun id (s : Store α Unit) => s.fetch .empty id) (s := s) (x := x)
    simp only [Track.takeBucket, Timeline.take, hcalm.factory, htaken hvalue, htaken hvalue',
      List.getLast?_singleton]
    refine ⟨?_, by rw [hnotes], Or.inr ⟨slot, slot', rfl, rfl, hserves, hserves'⟩⟩
    exact ⟨_, audit, stamp, rfl, htwin, haudit, htwin.left, rfl, hcalm.stranded, hcalm.stale⟩
  · rw [hlast] at hwindow
    simp only [Track.takeBucket, Timeline.take,
      hwindow.take_nothing (fun id (s : Store α Unit) => s.fetch t.timeline.factory id),
      List.getLast?_nil]
    refine ⟨?_, trivial, Or.inl ⟨trivial, trivial⟩⟩
    exact ⟨store, audit, stamp, rfl, hstore, haudit, hcalm.orderly, hcalm.factory, hcalm.stranded,
      hcalm.stale⟩

theorem Twin.drain (h : Twin a a' t t') {slot slot' : Slot} (hdue : t.Due slot)
    (hdue' : t'.Due slot') : (t.drain slot).Agree Eq (Twin a a') (t'.drain slot') := by
  obtain ⟨store, audit, stamp, rfl, hstore, haudit, hcalm⟩ := h
  have hbucket := hdue.bucket
  have hbucket' : store.bucket slot' = ⟨t.position, t.store.contents t.position⟩ :=
    hdue'.bucket.trans (by rw [hstore.contents])
  have hemptied := hstore.emptied hdue hdue'
  have hstart : Twin a a' { t with store := t.store.update slot ⟨t.position, []⟩ } { t with
      store := store.update slot' ⟨t.position, []⟩, audit := audit, stamp := stamp } :=
    ⟨_, audit, stamp, rfl, hemptied, haudit, hemptied.left, hcalm.factory, hcalm.stranded,
      hcalm.stale⟩
  simp only [Track.drain, hbucket, hbucket', Bucket.deliverWith, Bucket.takeEvents]
  have hsettled := hstart.settleAll t.position
    (Bucket.drawFlat t.frameWidth (t.store.contents t.position)).state
  have hremoved := hsettled.state.removeBucket t.position
  refine ⟨rfl, (hremoved.state.moved _).record _ _ _ _, ?_⟩
  simp only [Note.told_append, hsettled.told, hremoved.told, hremoved.state.name]

theorem Twin.nextFrame (h : Twin a a' t t') (hrunning : t.Running) :
    t.nextFrame.Agree Eq (Twin a a') t'.nextFrame := by
  obtain ⟨hcalm, hcalm'⟩ := h.calm
  have htaken := h.takeBucket hrunning.window hrunning.inRange
  have hpending : t'.pending = t.pending := by
    obtain ⟨_, _, _, rfl, _⟩ := h
    rfl
  simp only [Track.nextFrame, hcalm.retryDeferred_eq, hcalm'.retryDeferred_eq, hpending]
  split
  · exact ⟨rfl, h, rfl⟩
  · obtain ⟨hstate, htold, hanswer⟩ := htaken
    rcases hanswer with ⟨hvalue, hvalue'⟩ | ⟨slot, slot', hvalue, hvalue', hdue, hdue'⟩
    · simp only [hvalue, hvalue', List.nil_append]
      exact ⟨rfl, hstate, htold⟩
    · simp only [hvalue, hvalue', List.nil_append]
      have hdrained := hstate.drain hdue hdue'
      refine ⟨by simp only [hdrained.value], hdrained.state, ?_⟩
      simp only [Note.told_append, htold, hdrained.told]

/-! ## Runs -/

def Report.unaudited (r : Report α) : Report α := { r with audit := none }

def runAt (t : Track α Unit) (qs : List (Timed α)) : Track α Unit := qs.foldl performAt t

theorem Twin.stamped (h : Twin a a' t t') (stamp stamp' : Nat) :
    Twin a a' { t with stamp := stamp } { t' with stamp := stamp' } := by
  obtain ⟨store, audit, _, rfl, hstore, haudit, hcalm⟩ := h
  exact ⟨store, audit, stamp', rfl, hstore, haudit, hcalm.orderly, hcalm.factory, hcalm.stranded,
    hcalm.stale⟩

theorem Running.stamped (h : t.Running) (stamp : Nat) :
    ({ t with stamp := stamp } : Track α Unit).Running :=
  ⟨⟨h.calm.orderly, h.calm.factory, h.calm.stranded, h.calm.stale⟩, h.window, h.inRange⟩

theorem Running.performAt (h : t.Running) (q : Timed α) : (t.performAt q).Running :=
  (h.stamped q.stamp).perform q.request

theorem Twin.numbered (h : Twin a a' t t') (e : Commitment α) : t'.numbered e = t.numbered e := by
  obtain ⟨_, _, _, rfl, _⟩ := h
  rfl

theorem Twin.seen (h : Twin a a' t t')
    (answer : Except TrackError Unit ⊕ Except TrackError (Option (List α)))
    {notes notes' : List Note} (htold : Note.told notes = Note.told notes') :
    (t.seen answer notes).unaudited = (t'.seen answer notes').unaudited := by
  simp only [Track.seen, Report.unaudited, htold, h.stats, h.stored]

/-- Twins report the same of a request, whenever it is made, but for their trails. -/
theorem Twin.report (h : Twin a a' t t') (hrunning : t.Running) {q q' : Timed α}
    (hq : q.request = q'.request) :
    (t.report q).unaudited = (t'.report q').unaudited ∧
      Twin a a' (t.performAt q) (t'.performAt q') := by
  have hstamped := h.stamped q.stamp q'.stamp
  simp only [Track.report, Track.performAt, ← hq]
  cases q.request with
  | tick =>
    have htick := hstamped.nextFrame (hrunning.stamped q.stamp)
    refine ⟨?_, htick.state⟩
    simp only [← htick.value]
    exact htick.state.seen _ htick.told
  | schedule e =>
    have hschedule := hstamped.schedule (Track.numbered { t with stamp := q.stamp } e)
    simp only [Track.perform, hstamped.numbered e, ← hschedule.value]
    exact ⟨hschedule.state.seen _ hschedule.told, hschedule.state⟩

theorem Twin.runAt (h : Twin a a' t t') (hrunning : t.Running) {qs qs' : List (Timed α)}
    (hqs : List.Forall₂ (fun q q' => q.request = q'.request) qs qs') :
    (t.reports qs).map Report.unaudited = (t'.reports qs').map Report.unaudited ∧
      Twin a a' (t.runAt qs) (t'.runAt qs') := by
  induction hqs generalizing t t' with
  | nil => exact ⟨rfl, h⟩
  | cons hq _ ih =>
    obtain ⟨hreport, htwin⟩ := h.report hrunning hq
    obtain ⟨hreports, hrun⟩ := ih htwin (hrunning.performAt _)
    refine ⟨?_, hrun⟩
    rw [Track.reports, Track.reports, List.map_cons, List.map_cons, hreport, hreports]

end Track
end BucketClock
