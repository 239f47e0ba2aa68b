import BucketClock.Proofs.Store.Alike
import BucketClock.Proofs.Track.Sound

/-!
Supplies are interchangeable. A track does not look into a supply between the
moment it accepts the commitment and the first draw, and from then on it only
sees what supplies that are alike have in common. So two tracks that are the
same but for supplies that are alike answer every request the same way and stay
so (`Alike.schedule`, `Alike.nextFrame`), whatever store calls fail on the way.

Main statement: two runs of the same requests report the same at every step, if
their supplies can hand out the same items (`interchange`).
-/

namespace BucketClock

/-! ## Audit trails without their timestamps -/

def AuditEntry.timeless (a : AuditEntry) : AuditEntry := { a with createdAt := 0 }

namespace AuditTrail

def timeless (t : AuditTrail) : Nat × List AuditEntry :=
  (t.capacity, t.entries.map AuditEntry.timeless)

theorem capacity_record (t : AuditTrail) (e : AuditEntry) : (t.record e).capacity = t.capacity := by
  have hdrop : t.dropOldest.capacity = t.capacity := by
    unfold dropOldest
    split
    · rfl
    · split
      · rfl
      · rfl
  simp only [record]
  split
  · rfl
  · split
    · exact hdrop
    · rfl

theorem timeless_record {t t' : AuditTrail} (h : t.timeless = t'.timeless) {e e' : AuditEntry}
    (he : e.timeless = e'.timeless) : (t.record e).timeless = (t'.record e').timeless := by
  obtain ⟨hcapacity, hentries⟩ := Prod.mk.inj h
  have hlength : t.entries.length = t'.entries.length := by
    have hlengths := congrArg List.length hentries
    rwa [List.length_map, List.length_map] at hlengths
  simp only [timeless, capacity_record, entries_record, ← hcapacity, ← hlength]
  refine Prod.ext rfl ?_
  simp only
  split
  · exact hentries
  · split
    · simp only [List.map_append, List.map_tail, hentries, List.map_singleton, he]
    · simp only [List.map_append, hentries, List.map_singleton, he]

/-- The same entry is made in two trails, or in neither. -/
theorem timeless_recorded {a a' : Option AuditTrail} (h : a.map timeless = a'.map timeless)
    {e e' : AuditEntry} (he : e.timeless = e'.timeless) :
    (a.map (·.record e)).map timeless = (a'.map (·.record e')).map timeless := by
  cases a with
  | none =>
    cases a' with
    | none => rfl
    | some t' => cases h
  | some t =>
    cases a' with
    | none => cases h
    | some t' => exact congrArg some (timeless_record (Option.some.inj h) he)

end AuditTrail

namespace Track

variable {α φ : Type}

/-! ## Tracks that are alike -/

/-- The same track, but for supplies that are alike and for readings of the wall clock. -/
def Alike (t t' : Track α φ) : Prop :=
  ∃ store stranded audit stamp,
    t' = { t with store := store, stranded := stranded, audit := audit, stamp := stamp } ∧
    t.store.Alike store ∧ List.Forall₂ Commitment.Alike t.stranded stranded ∧
    t.audit.map AuditTrail.timeless = audit.map AuditTrail.timeless ∧
    ∀ id, (t.timeline.factory id).Alike (t.timeline.factory id)

theorem Alike.stats {t t' : Track α φ} (h : t.Alike t') : t.stats = t'.stats := by
  obtain ⟨store, stranded, audit, stamp, rfl, _, hstranded, _, _⟩ := h
  simp only [Track.stats, hstranded.length_eq]

theorem Alike.record {t t' : Track α φ} (h : t.Alike t') (action : AuditAction) (id : Option Nat)
    (bucket : Nat) (payload : Option String) :
    (t.record action id bucket payload).Alike (t'.record action id bucket payload) := by
  obtain ⟨store, stranded, audit, stamp, rfl, hstore, hstranded, haudit, hfactory⟩ := h
  exact ⟨store, stranded, _, stamp, rfl, hstore, hstranded,
    AuditTrail.timeless_recorded haudit rfl, hfactory⟩

theorem Alike.name {t t' : Track α φ} (h : t.Alike t') : t'.name = t.name := by
  obtain ⟨store, stranded, audit, stamp, rfl, _⟩ := h
  rfl

theorem Alike.position {t t' : Track α φ} (h : t.Alike t') : t'.position = t.position := by
  obtain ⟨store, stranded, audit, stamp, rfl, _⟩ := h
  rfl

theorem Alike.increment {t t' : Track α φ} (h : t.Alike t') : t'.increment = t.increment := by
  obtain ⟨store, stranded, audit, stamp, rfl, _⟩ := h
  rfl

variable [Outage φ]

/-! ## Filing -/

open Store (Answered)

theorem Alike.place {t t' : Track α φ} (h : t.Alike t') {e e' : Commitment α} (he : e.Alike e') :
    (t.place e).Agree Answered Alike (t'.place e') := by
  have hbucket := he.deliveryTime
  have hphase := he.phase
  obtain ⟨store, stranded, audit, stamp, rfl, hstore, hstranded, haudit, hfactory⟩ := h
  have hcommit := hstore.commit hfactory he
  simp only [Track.place, hbucket, hphase]
  generalize t.store.commit t.timeline.factory e = o, store.commit t.timeline.factory e' = o'
    at hcommit ⊢
  obtain ⟨value, s, notes⟩ := o
  obtain ⟨value', s', notes'⟩ := o'
  obtain ⟨hvalue, hstate, htold⟩ := hcommit
  simp only at hvalue hstate htold ⊢
  have halike : ({ t with store := s } : Track α φ).Alike { t with
      store := s', stranded := stranded, audit := audit, stamp := stamp } :=
    ⟨s', stranded, audit, stamp, rfl, hstate, hstranded, haudit, hfactory⟩
  cases hvalue with
  | refused error hevent => exact ⟨.refused error hevent, halike, htold⟩
  | filed id =>
    simp only
    split
    · refine ⟨.filed _, Alike.record ?_ _ _ _ _, ?_⟩
      · exact ⟨s', stranded, audit, stamp, rfl, hstate, hstranded, haudit, hfactory⟩
      · simp only [Note.told_append, htold]
    · refine ⟨.filed _, Alike.record ?_ _ _ _ _, ?_⟩
      · exact ⟨s', stranded, audit, stamp, rfl, hstate, hstranded, haudit, hfactory⟩
      · simp only [Note.told_append, htold]

theorem Alike.rollOver {t t' : Track α φ} (h : t.Alike t') {e e' : Commitment α}
    (he : e.Alike e') : (t.rollOver e).Agree Eq Alike (t'.rollOver e') := by
  have hplace := h.place he
  simp only [Track.rollOver]
  generalize t.place e = o, t'.place e' = o' at hplace ⊢
  obtain ⟨value, u, notes⟩ := o
  obtain ⟨value', u', notes'⟩ := o'
  obtain ⟨hvalue, hstate, htold⟩ := hplace
  simp only at hvalue hstate htold ⊢
  cases hvalue with
  | filed x => exact ⟨rfl, hstate, htold⟩
  | refused error hevent =>
    obtain ⟨store, stranded, audit, stamp, rfl, hstore, hstranded, haudit, hfactory⟩ := hstate
    cases hevent with
    | none =>
      refine ⟨rfl, ⟨store, stranded, audit, stamp, rfl, hstore, hstranded, haudit, hfactory⟩, ?_⟩
      simp only [Note.told_append, htold]
    | some hback =>
      refine ⟨rfl, ⟨store, _, audit, stamp, rfl, hstore, ?_, haudit, hfactory⟩, ?_⟩
      · exact List.rel_append hstranded (.cons hback .nil)
      · simp only [Note.told_append, htold, hback.id, hback.deliveryTime]

theorem Alike.removeBucket {t t' : Track α φ} (h : t.Alike t') (id : Nat) :
    (t.removeBucket id).Agree Eq Alike (t'.removeBucket id) := by
  obtain ⟨store, stranded, audit, stamp, rfl, hstore, hstranded, haudit, hfactory⟩ := h
  have hremove := hstore.remove id
  simp only [Track.removeBucket, ← hremove.value]
  split
  · refine ⟨rfl, ?_, hremove.told⟩
    exact ⟨_, stranded, audit, stamp, rfl, hremove.state, hstranded, haudit, hfactory⟩
  · refine ⟨rfl, ?_, ?_⟩
    · exact ⟨_, stranded, audit, stamp, rfl, hremove.state, hstranded, haudit, hfactory⟩
    · simp only [Note.told_append, hremove.told]

/-! ## The parts of a tick -/

theorem Alike.retry {t t' : Track α φ} (h : t.Alike t') {e e' : Commitment α} (he : e.Alike e') :
    (t.retry e).Agree Eq Alike (t'.retry e') := by
  simp only [Track.retry, he.deliveryTime, h.position]
  split
  · exact h.rollOver (he.retarget _)
  · exact h.rollOver he

theorem Alike.retryDeferred {t t' : Track α φ} (h : t.Alike t') :
    t.retryDeferred.Agree Eq Alike t'.retryDeferred := by
  obtain ⟨store, stranded, audit, stamp, rfl, hstore, hstranded, haudit, hfactory⟩ := h
  have hfrom : ({ t with stale := [] } : Track α φ).Alike { t with
      stale := [], store := store, stranded := stranded, audit := audit, stamp := stamp } :=
    ⟨store, stranded, audit, stamp, rfl, hstore, hstranded, haudit, hfactory⟩
  have hsame : List.Forall₂ Eq t.stale t.stale := List.forall₂_eq_eq_eq ▸ rfl
  have hremoved : (Outcome.each Track.removeBucket t.stale { t with stale := [] }).Agree Eq Alike
      (Outcome.each Track.removeBucket t.stale { t with
        stale := [], store := store, stranded := stranded, audit := audit, stamp := stamp }) := by
    refine Outcome.each_agree ?_ hsame hfrom
    rintro id _ u u' rfl hu
    exact hu.removeBucket id
  simp only [Track.retryDeferred]
  generalize Outcome.each Track.removeBucket t.stale { t with stale := [] } = o,
    Outcome.each Track.removeBucket t.stale { t with
      stale := [], store := store, stranded := stranded, audit := audit, stamp := stamp } = o'
    at hremoved ⊢
  obtain ⟨_, u, notes⟩ := o
  obtain ⟨_, u', notes'⟩ := o'
  obtain ⟨_, hstate, htold⟩ := hremoved
  obtain ⟨store', stranded', audit', stamp', rfl, hstore', hstranded', haudit', hfactory'⟩ := hstate
  have hcleared : ({ u with stranded := [] } : Track α φ).Alike { u with
      store := store', stranded := [], audit := audit', stamp := stamp' } :=
    ⟨store', [], audit', stamp', rfl, hstore', .nil, haudit', hfactory'⟩
  exact (Outcome.each_agree (fun _ _ _ _ he hu => hu.retry he) hstranded' hcleared).after htold

theorem Alike.takeBucket {t t' : Track α φ} (h : t.Alike t') :
    t.takeBucket.Agree Eq Alike t'.takeBucket := by
  obtain ⟨store, stranded, audit, stamp, rfl, hstore, hstranded, haudit, hfactory⟩ := h
  have htake := Window.take_agree (fun id s s' (hs : s.Alike s') => hs.fetch hfactory id) 1
    t.timeline.window hstore
  simp only [Track.takeBucket, Timeline.take]
  generalize t.timeline.window.take (fun id s => s.fetch t.timeline.factory id) 1 t.store = o,
    t.timeline.window.take (fun id s => s.fetch t.timeline.factory id) 1 store = o' at htake ⊢
  obtain ⟨value, ⟨window, s⟩, notes⟩ := o
  obtain ⟨value', ⟨window', s'⟩, notes'⟩ := o'
  obtain ⟨rfl, ⟨rfl, hstate⟩, htold⟩ := htake
  simp only at hstate htold ⊢
  have halike : ({ t with store := s, timeline := { t.timeline with window := window } } :
      Track α φ).Alike { t with
        store := s', timeline := { t.timeline with window := window },
        stranded := stranded, audit := audit, stamp := stamp } :=
    ⟨s', stranded, audit, stamp, rfl, hstate, hstranded, haudit, hfactory⟩
  cases value with
  | error error => exact ⟨rfl, halike, htold⟩
  | ok slots =>
    simp only
    split
    · exact ⟨rfl, halike, htold⟩
    · exact ⟨rfl, halike, htold⟩

theorem Alike.settle {t t' : Track α φ} (h : t.Alike t') (position : Nat) {e e' : Commitment α}
    (he : e.Level e') : (t.settle position e).Agree Eq Alike (t'.settle position e') := by
  have hexhausted : e'.supply.isExhausted = e.supply.isExhausted := by
    obtain ⟨supply, rfl, hs⟩ := he
    exact hs.exhausted.symm
  obtain ⟨hvalue, hnotes, hstate⟩ :=
    Commitment.Level.nextDelivery (he.withPhase .notEmpty) position t.increment
  simp only [Track.settle, hexhausted, h.increment, h.name, he.id]
  split
  · refine ⟨rfl, Alike.record ?_ _ _ _ _, rfl⟩
    obtain ⟨store, stranded, audit, stamp, rfl, hstore, hstranded, haudit, hfactory⟩ := h
    exact ⟨store, stranded, audit, stamp, rfl, hstore, hstranded, haudit, hfactory⟩
  · simp only [← hvalue, ← hnotes]
    split
    · exact (h.rollOver (hstate.alike.retarget _)).after rfl
    · exact (h.rollOver (hstate.alike.retarget _)).after rfl

omit [Outage φ] in
/-- The clock moves on by one bucket. -/
theorem Alike.moved {t t' : Track α φ} (h : t.Alike t') (items : Nat) :
    ({ t with
      position := t.position + 1
      counters := { t.counters with
        frames := t.counters.frames + 1
        deliveredItems := t.counters.deliveredItems + items } } : Track α φ).Alike
    { t' with
      position := t'.position + 1
      counters := { t'.counters with
        frames := t'.counters.frames + 1
        deliveredItems := t'.counters.deliveredItems + items } } := by
  obtain ⟨store, stranded, audit, stamp, rfl, hstore, hstranded, haudit, hfactory⟩ := h
  exact ⟨store, stranded, audit, stamp, rfl, hstore, hstranded, haudit, hfactory⟩

theorem Alike.drain {t t' : Track α φ} (h : t.Alike t') (slot : Slot) :
    (t.drain slot).Agree Eq Alike (t'.drain slot) := by
  obtain ⟨store, stranded, audit, stamp, rfl, hstore, hstranded, haudit, hfactory⟩ := h
  have hbucket := hstore.bucket slot
  have hdelivered := Bucket.drawFlat_agree t.frameWidth hbucket.events
  have hemptied : ({ t with store := t.store.update slot ⟨(t.store.bucket slot).id, []⟩ } :
      Track α φ).Alike { t with
        store := store.update slot ⟨(t.store.bucket slot).id, []⟩,
        stranded := stranded, audit := audit, stamp := stamp } :=
    ⟨_, stranded, audit, stamp, rfl, hstore.update slot ⟨rfl, .nil⟩, hstranded, haudit, hfactory⟩
  have hsettled := Outcome.each_agree (fun _ _ _ _ he hu => hu.settle t.position he)
    hdelivered.state hemptied
  have hremoved := hsettled.state.removeBucket (t.store.bucket slot).id
  simp only [Track.drain, Bucket.deliverWith, Bucket.takeEvents, ← hbucket.id, ← hdelivered.value]
  refine ⟨rfl, (hremoved.state.moved _).record _ _ _ _, ?_⟩
  simp only [Note.told_append, hdelivered.told, hsettled.told, hremoved.told,
    ← hremoved.state.name]

theorem Alike.nextFrame {t t' : Track α φ} (h : t.Alike t') :
    t.nextFrame.Agree Eq Alike t'.nextFrame := by
  have hretried := h.retryDeferred
  have htaken := hretried.state.takeBucket
  have hpending : t'.retryDeferred.state.pending = t.retryDeferred.state.pending := by
    obtain ⟨store, stranded, audit, stamp, heq, _⟩ := hretried.state
    rw [heq]
  simp only [Track.nextFrame, hpending, ← htaken.value]
  split
  · exact ⟨rfl, hretried.state, hretried.told⟩
  · split
    · refine ⟨rfl, htaken.state, ?_⟩
      simp only [Note.told_append, hretried.told, htaken.told]
    · next slot _ =>
      have hdrained := htaken.state.drain slot
      refine ⟨by simp only [hdrained.value], hdrained.state, ?_⟩
      simp only [Note.told_append, hretried.told, htaken.told, hdrained.told]

theorem Alike.schedule {t t' : Track α φ} (h : t.Alike t') {e e' : Commitment α}
    (he : e.Alike e') : (t.schedule e).Agree Eq Alike (t'.schedule e') := by
  have hfile : ∀ {e e' : Commitment α}, e.Alike e' →
      (⟨(t.place e).value.mapError (·.error), (t.place e).state, (t.place e).notes⟩ :
        Outcome (Track α φ) (Except TrackError Unit)).Agree Eq Alike
      ⟨(t'.place e').value.mapError (·.error), (t'.place e').state, (t'.place e').notes⟩ := by
    intro e e' he
    obtain ⟨hvalue, hstate, htold⟩ := h.place he
    refine ⟨?_, hstate, htold⟩
    generalize (t.place e).value = value, (t'.place e').value = value' at hvalue ⊢
    cases hvalue with
    | filed x => rfl
    | refused error hevent => rfl
  simp only [Track.schedule, he.phase, he.id, he.deliveryTime, h.position, h.name]
  cases e.phase with
  | exhausted => exact ⟨rfl, h, rfl⟩
  | notEmpty => exact hfile he
  | full =>
    simp only
    split
    · exact (hfile (he.retarget _)).after rfl
    · exact hfile he

/-! ## Runs -/

structure Timed (α : Type) where
  stamp : Nat
  request : Request α

/-- What is to be seen after a request: the answer to it; what it told, and that is also what
policies were asked; the statistics of the track and its audit trail; and under each bucket id the
identities of the commitments that are stored there. -/
structure Report (α : Type) where
  answer : Except TrackError Unit ⊕ Except TrackError (Option (List α))
  told : List Note
  stats : TrackStats
  audit : Option (Nat × List AuditEntry)
  buckets : List (Nat × List (Option Nat))

omit [Outage φ] in
def seen (t : Track α φ) (answer : Except TrackError Unit ⊕ Except TrackError (Option (List α)))
    (notes : List Note) : Report α where
  answer := answer
  told := Note.told notes
  stats := t.stats
  audit := t.audit.map AuditTrail.timeless
  buckets := t.store.stored.map fun b => (b.1, b.2.eventIds)

def report (t : Track α φ) (q : Timed α) : Report α :=
  let t := { t with stamp := q.stamp }
  match q.request with
  | .schedule e =>
    let o := t.schedule (t.numbered e)
    o.state.seen (.inl o.value) o.notes
  | .tick =>
    let o := t.nextFrame
    o.state.seen (.inr o.value) o.notes

def performAt (t : Track α φ) (q : Timed α) : Track α φ :=
  ({ t with stamp := q.stamp } : Track α φ).perform q.request

def reports (t : Track α φ) : List (Timed α) → List (Report α)
  | [] => []
  | q :: qs => t.report q :: (t.performAt q).reports qs

/-- The same request, but for supplies that nobody drew from and that can hand out the same items,
however they were built. -/
inductive Request.Interchangeable : Request α → Request α → Prop
  | schedule {e e' : Commitment α}
      (h : e.Like (fun s s' => ∃ items, s.Built items ∧ s'.Built items) e') :
      Interchangeable (.schedule e) (.schedule e')
  | tick : Interchangeable .tick .tick

omit [Outage φ] in
theorem Alike.stamped {t t' : Track α φ} (h : t.Alike t') (stamp stamp' : Nat) :
    ({ t with stamp := stamp } : Track α φ).Alike { t' with stamp := stamp' } := by
  obtain ⟨store, stranded, audit, _, rfl, hstore, hstranded, haudit, hfactory⟩ := h
  exact ⟨store, stranded, audit, stamp', rfl, hstore, hstranded, haudit, hfactory⟩

omit [Outage φ] in
theorem Alike.numbered {t t' : Track α φ} (h : t.Alike t') {e e' : Commitment α}
    (he : e.Alike e') : (t.numbered e).Alike (t'.numbered e') := by
  obtain ⟨store, stranded, audit, stamp, rfl, _⟩ := h
  obtain ⟨supply, rfl, hs⟩ := he
  exact ⟨supply, rfl, hs⟩

omit [Outage φ] in
theorem Alike.seen {t t' : Track α φ} (h : t.Alike t')
    (answer : Except TrackError Unit ⊕ Except TrackError (Option (List α))) {notes notes' : List Note}
    (htold : Note.told notes = Note.told notes') : t.seen answer notes = t'.seen answer notes' := by
  have hstats := h.stats
  obtain ⟨store, stranded, audit, stamp, rfl, hstore, _, haudit, _⟩ := h
  simp only [Track.seen, htold, hstats, haudit, hstore.stored]

/-- Requests that are interchangeable are reported the same, and leave tracks that are alike. -/
theorem Alike.report {t t' : Track α φ} (h : t.Alike t') {q q' : Timed α}
    (hq : q.request.Interchangeable q'.request) :
    t.report q = t'.report q' ∧ (t.performAt q).Alike (t'.performAt q') := by
  have hstamped := h.stamped q.stamp q'.stamp
  simp only [Track.report, performAt]
  generalize q.request = r, q'.request = r' at hq ⊢
  cases hq with
  | tick =>
    have htick := hstamped.nextFrame
    refine ⟨?_, htick.state⟩
    simp only [← htick.value]
    exact htick.state.seen _ htick.told
  | schedule he =>
    have halike := he.imp fun s s' hs => hs.choose_spec.1.alike hs.choose_spec.2
    have hschedule := hstamped.schedule (hstamped.numbered halike)
    refine ⟨?_, hschedule.state⟩
    simp only [← hschedule.value]
    exact hschedule.state.seen _ hschedule.told

theorem Alike.reports {t t' : Track α φ} (h : t.Alike t') {qs qs' : List (Timed α)}
    (hqs : List.Forall₂ (fun q q' => q.request.Interchangeable q'.request) qs qs') :
    t.reports qs = t'.reports qs' := by
  induction hqs generalizing t t' with
  | nil => rfl
  | cons hq _ ih =>
    obtain ⟨hreport, hnext⟩ := h.report hq
    rw [Track.reports, Track.reports, hreport, ih hnext]

omit [Outage φ] in
theorem Opened.alike {t : Track α φ} (h : t.Opened) : t.Alike t := by
  obtain ⟨hstore, htimeline, _, _, _, hstranded, _⟩ := h.unused
  refine ⟨t.store, t.stranded, t.audit, t.stamp, rfl, ⟨t.store.buckets, rfl, ?_⟩, ?_, rfl, ?_⟩
  · intro slot
    have hempty : t.store.bucket slot = .empty 0 := by
      rw [hstore]
      simp [Store.empty, Store.bucket]
    rw [hempty]
    exact Bucket.empty_alike 0
  · rw [hstranded]
    exact .nil
  · rw [htimeline]
    exact Bucket.empty_alike

/-- Supplies are interchangeable, whatever store calls fail on the way: two runs of the same
requests, at whatever times, report the same at every step if the commitments differ only in how
their supplies were built. -/
theorem interchange {t₀ : Track α φ} (h : t₀.Opened) {qs qs' : List (Timed α)}
    (hqs : List.Forall₂ (fun q q' => q.request.Interchangeable q'.request) qs qs') :
    t₀.reports qs = t₀.reports qs' :=
  h.alike.reports hqs

/-- Two commitments for bucket 1, the second with nothing to hand out, and three ticks. -/
def errands (first second : Supply Nat) (stamp : Nat) : List (Timed Nat) :=
  [⟨stamp, .schedule { deliveryTime := 0, supply := first, policy := some (.byRemaining 1) }⟩,
    ⟨stamp + 1, .schedule { deliveryTime := 1, supply := second }⟩,
    ⟨stamp + 2, .tick⟩, ⟨stamp + 3, .tick⟩, ⟨stamp + 4, .tick⟩]

/-- With the items at hand or brought by suppliers, the troubled track holds the first commitment
back after its first item, and hands out the second item in the tick that follows. -/
theorem interchange_troubled :
    troubled.reports (errands (.ofList [1, 2]) (.ofList []) 0) =
        troubled.reports (errands (.lazy 2 [1, 2, 9]) (.deferred []) 700) ∧
      (troubled.reports (errands (.ofList [1, 2]) (.ofList []) 0)).map (·.answer) =
        [.inl (.ok ()), .inl (.ok ()), .inr (.ok (some [])), .inr (.ok (some [1])),
          .inr (.ok (some [2]))] ∧
      (Supply.ofList ([] : List Nat)).phase = .exhausted ∧
      (Supply.deferred ([] : List Nat)).phase = .full := by
  refine ⟨interchange troubled_opened ?_, by rfl, rfl, rfl⟩
  have hfirst : (Supply.ofList [1, 2]).Built [1, 2] ∧ (Supply.lazy 2 [1, 2, 9]).Built [1, 2] :=
    ⟨.ofList (by decide), .lazy (by decide) rfl⟩
  have hsecond : (Supply.ofList ([] : List Nat)).Built [] ∧
      (Supply.deferred ([] : List Nat)).Built [] := ⟨.ofList (by decide), .deferred (by decide)⟩
  refine .cons (.schedule ⟨_, rfl, _, hfirst⟩) (.cons (.schedule ⟨_, rfl, _, hsecond⟩) ?_)
  exact .cons .tick (.cons .tick (.cons .tick .nil))

end Track
end BucketClock
