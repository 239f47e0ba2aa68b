import BucketClock.Proofs.Track.Books
import BucketClock.Proofs.Track.Interchange

/-!
Auditing is observation. Taking the audit trail away from a track commutes with
every operation (`serve_unaudited`), so a run on an audited track is the run on
the same track without a trail, and its trail got what the run reported
(`serveAll_audit`). Of a list of entries a trail keeps the last ones, as many as
it has room for (`entries_recordAll`), and all copies of a handle on it read the
same (`Handle.recordAll_place`).

Main statement: `auditing`.
-/

namespace BucketClock

namespace Outcome

variable {σ τ β γ δ : Type}

def onState (f : σ → τ) (o : Outcome σ β) : Outcome τ β := ⟨o.value, f o.state, o.notes⟩

/-- A loop commutes with a view of the state if its steps do. -/
theorem each_onState {f : σ → τ} {step : γ → σ → Outcome σ Unit} {step' : γ → τ → Outcome τ Unit}
    (h : ∀ x s, step' x (f s) = (step x s).onState f) (xs : List γ) (s : σ) :
    each step' xs (f s) = (each step xs s).onState f := by
  induction xs generalizing s with
  | nil => rfl
  | cons x xs ih =>
    simp only [each, h]
    exact congrArg (Outcome.after (step x s).notes) (ih (step x s).state)

/-- What is seen of a loop is seen through such a view as well. -/
theorem trace_onState {f : σ → τ} {step : γ → σ → Outcome σ Unit} {step' : γ → τ → Outcome τ Unit}
    {see : γ → σ → List δ} {see' : γ → τ → List δ}
    (h : ∀ x s, step' x (f s) = (step x s).onState f) (hsee : ∀ x s, see' x (f s) = see x s)
    (xs : List γ) (s : σ) : trace step' see' xs (f s) = trace step see xs s := by
  induction xs generalizing s with
  | nil => rfl
  | cons x xs ih =>
    simp only [trace, h, hsee]
    exact congrArg (see x s ++ ·) (ih (step x s).state)

end Outcome

/-! ## What a trail keeps -/

namespace AuditTrail

theorem recordAll_append (log later : List AuditEntry) (t : AuditTrail) :
    t.recordAll (log ++ later) = (t.recordAll log).recordAll later := List.foldl_append

theorem capacity_recordAll (log : List AuditEntry) (t : AuditTrail) :
    (t.recordAll log).capacity = t.capacity := by
  induction log generalizing t with
  | nil => rfl
  | cons e log ih => exact (ih (t.record e)).trans (t.capacity_record e)

/-- A trail keeps the newest entries, as many as it has room for. -/
theorem entries_recordAll (capacity : Nat) (log : List AuditEntry) :
    ((empty capacity).recordAll log).entries = log.drop (log.length - capacity) := by
  induction log using List.reverseRecOn with
  | nil => simp [recordAll, empty, entries]
  | append_singleton log e ih =>
    have hcapacity : ((empty capacity).recordAll log).capacity = capacity :=
      capacity_recordAll log (empty capacity)
    have hlength : (log ++ [e]).length = log.length + 1 := List.length_append
    have hrecord : (empty capacity).recordAll (log ++ [e]) =
        ((empty capacity).recordAll log).record e := recordAll_append log [e] _
    rw [hrecord, entries_record, hcapacity, ih, List.length_drop, hlength]
    by_cases hzero : capacity = 0
    · rw [if_pos hzero, hzero, Nat.sub_zero, Nat.sub_zero, List.drop_length, ← hlength,
        List.drop_length]
    · rw [if_neg hzero]
      by_cases hfull : capacity ≤ log.length
      · -- the trail is full: the oldest entry makes room
        have hgone : log.length + 1 - capacity = log.length - capacity + 1 := by omega
        rw [if_pos (by omega), List.tail_drop, hgone, List.drop_append_of_le_length (by omega)]
      · have hnone : log.length - capacity = 0 := by omega
        have hnone' : log.length + 1 - capacity = 0 := by omega
        rw [if_neg (by omega), hnone, hnone', List.drop_zero, List.drop_zero]

/-- Trails in their places. -/
abbrev Shelved := Nat → AuditTrail

/-- A handle on the trail in a place. A copy of it is a handle on the same place. -/
structure Handle where
  place : Nat

namespace Handle

def record (h : Handle) (trails : Shelved) (e : AuditEntry) : Shelved :=
  fun place => if place = h.place then (trails place).record e else trails place

def recordAll (h : Handle) (log : List AuditEntry) (trails : Shelved) : Shelved :=
  log.foldl h.record trails

def entries (h : Handle) (trails : Shelved) : List AuditEntry := (trails h.place).entries

/-- What is recorded with a handle reaches the trail in its place and no other. -/
theorem recordAll_place (h : Handle) (log : List AuditEntry) (trails : Shelved) (place : Nat) :
    h.recordAll log trails place =
      if place = h.place then (trails place).recordAll log else trails place := by
  induction log generalizing trails with
  | nil => exact (ite_self _).symm
  | cons e log ih =>
    refine (ih (h.record trails e)).trans ?_
    by_cases hplace : place = h.place
    · rw [if_pos hplace, if_pos hplace, record, if_pos hplace]
      rfl
    · rw [if_neg hplace, if_neg hplace, record, if_neg hplace]

end Handle
end AuditTrail

/-! ## Books without a trail -/

namespace Books

variable {α : Type}

def unaudited (b : Books) : Books := { b with audit := none }

theorem post_unaudited (b : Books) (p : Posting α) :
    b.unaudited.post p = (b.post p).unaudited := by
  simp only [post, counted, unaudited]
  cases p.action <;> rfl

theorem entry_unaudited (b : Books) (p : Posting α) : b.unaudited.entry p = b.entry p := by
  simp only [entry, counted, unaudited]
  cases p.action <;> rfl

/-- What is entered does not depend on where it is entered. -/
theorem log_unaudited (b : Books) (ps : List (Posting α)) : b.unaudited.log ps = b.log ps := by
  induction ps generalizing b with
  | nil => rfl
  | cons p ps ih => rw [log, log, entry_unaudited, post_unaudited, ih]

end Books

namespace Track

variable {α φ : Type}

def unaudited (t : Track α φ) : Track α φ := { t with audit := none }

theorem eq_withAudit {t : Track α φ} {trail : AuditTrail} (h : t.audit = some trail) :
    t = t.unaudited.withAudit trail := by
  obtain ⟨name, timeline, store, position, horizon, pending, frameWidth, increment, counters,
    stranded, stale, audit, stamp, _, _⟩ := t
  cases h
  rfl

variable [Outage φ]

/-! ## Taking the trail away -/

theorem place_unaudited (e : Commitment α) (t : Track α φ) :
    t.unaudited.place e = (t.place e).onState unaudited := by
  simp only [place, unaudited]
  split
  · rfl
  · split
    · rfl
    · rfl

theorem rollOver_unaudited (e : Commitment α) (t : Track α φ) :
    t.unaudited.rollOver e = (t.rollOver e).onState unaudited := by
  simp only [rollOver, place_unaudited, Outcome.onState]
  split
  · rfl
  · split
    · rfl
    · rfl

theorem removeBucket_unaudited (id : Nat) (t : Track α φ) :
    t.unaudited.removeBucket id = (t.removeBucket id).onState unaudited := by
  simp only [removeBucket, unaudited]
  split
  · rfl
  · rfl

theorem retry_unaudited (e : Commitment α) (t : Track α φ) :
    t.unaudited.retry e = (t.retry e).onState unaudited :=
  rollOver_unaudited _ t

theorem cleared_unaudited (t : Track α φ) : t.unaudited.cleared = t.cleared.unaudited :=
  congrArg Outcome.state
    (Outcome.each_onState removeBucket_unaudited t.stale { t with stale := [] })

theorem retryDeferred_unaudited (t : Track α φ) :
    t.unaudited.retryDeferred = t.retryDeferred.onState unaudited := by
  have hremoved := Outcome.each_onState removeBucket_unaudited t.stale { t with stale := [] }
  have hretried := Outcome.each_onState retry_unaudited t.cleared.stranded
    { t.cleared with stranded := [] }
  have hfirst : Outcome.each removeBucket t.unaudited.stale { t.unaudited with stale := [] } =
      (Outcome.each removeBucket t.stale { t with stale := [] }).onState unaudited := hremoved
  simp only [retryDeferred, hfirst]
  exact congrArg (Outcome.after _) hretried

theorem takeBucket_unaudited (t : Track α φ) :
    t.unaudited.takeBucket = t.takeBucket.onState unaudited := by
  simp only [takeBucket, unaudited]
  split
  · rfl
  · split
    · rfl
    · rfl

theorem settle_unaudited (position : Nat) (e : Commitment α) (t : Track α φ) :
    t.unaudited.settle position e = (t.settle position e).onState unaudited := by
  have hincrement : t.unaudited.increment = t.increment := rfl
  have hname : t.unaudited.name = t.name := rfl
  simp only [settle, rollOver_unaudited, hincrement, hname]
  split
  · rfl
  · split
    · rfl
    · rfl

theorem drain_unaudited (slot : Slot) (t : Track α φ) :
    t.unaudited.drain slot = (t.drain slot).onState unaudited := by
  have hsettled := fun (es : List (Commitment α)) (s : Store α φ) =>
    Outcome.each_onState (settle_unaudited t.position) es { t with store := s }
  unfold drain
  -- the loop over the drained commitments, as it stands in the drain without a trail
  have hloop : ∀ (es : List (Commitment α)) (s : Store α φ),
      Outcome.each (settle t.unaudited.position) es { t.unaudited with store := s } =
        (Outcome.each (settle t.position) es { t with store := s }).onState unaudited := hsettled
  simp only [hloop, Outcome.onState, removeBucket_unaudited]
  rfl

theorem nextFrame_unaudited (t : Track α φ) :
    t.unaudited.nextFrame = t.nextFrame.onState unaudited := by
  have hpending : ∀ u : Track α φ, u.unaudited.pending = u.pending := fun _ => rfl
  simp only [nextFrame, retryDeferred_unaudited, Outcome.onState, takeBucket_unaudited, hpending]
  split
  · rfl
  · split
    · rfl
    · simp only [drain_unaudited, Outcome.onState]

theorem schedule_unaudited (e : Commitment α) (t : Track α φ) :
    t.unaudited.schedule e = (t.schedule e).onState unaudited := by
  have hposition : t.unaudited.position = t.position := rfl
  have hname : t.unaudited.name = t.name := rfl
  simp only [schedule, place_unaudited, hposition, hname]
  split
  · rfl
  · rfl
  · split
    · rfl
    · rfl

/-! ## What is posted without a trail -/

theorem retryFilings_unaudited (t : Track α φ) : t.unaudited.retryFilings = t.retryFilings := by
  rw [retryFilings, cleared_unaudited]
  exact Outcome.trace_onState retry_unaudited (fun _ _ => rfl) t.cleared.stranded
    { t.cleared with stranded := [] }

theorem drainPostings_unaudited (slot : Slot) (t : Track α φ) :
    t.unaudited.drainPostings slot = t.drainPostings slot := by
  let delivered := (t.store.bucket slot).deliverWith t.frameWidth
  have hsee : ∀ (e : Commitment α) (u : Track α φ),
      settlePosting t.position e u.unaudited = settlePosting t.position e u := fun _ _ => rfl
  have hsettled := Outcome.trace_onState (settle_unaudited t.position) hsee
    delivered.state.takeEvents.1
    { t with store := t.store.update slot delivered.state.takeEvents.2 }
  exact congrArg (· ++ [.drained t.position delivered.value.length]) hsettled

theorem settlePostings_unaudited (t : Track α φ) :
    t.unaudited.settlePostings = t.settlePostings := by
  have hpending : ∀ u : Track α φ, u.unaudited.pending = u.pending := fun _ => rfl
  simp only [settlePostings, retryDeferred_unaudited, Outcome.onState, takeBucket_unaudited,
    hpending, drainPostings_unaudited]

theorem postings_unaudited (t : Track α φ) (r : Request α) :
    t.unaudited.postings r = t.postings r := by
  cases r with
  | schedule e => rfl
  | tick => simp only [postings, retryFilings_unaudited, settlePostings_unaudited]

/-! ## Runs -/

abbrev Answer (α : Type) := Except TrackError Unit ⊕ Except TrackError (Option (List α))

/-- The outcome of a request that is made at a reading of the wall clock. -/
def serve (t : Track α φ) (q : Timed α) : Outcome (Track α φ) (Answer α) :=
  let t := { t with stamp := q.stamp }
  match q.request with
  | .schedule e =>
    let o := t.schedule (t.numbered e)
    ⟨.inl o.value, o.state, o.notes⟩
  | .tick =>
    let o := t.nextFrame
    ⟨.inr o.value, o.state, o.notes⟩

def serveAll (t : Track α φ) : List (Timed α) → Outcome (Track α φ) (List (Answer α))
  | [] => ⟨[], t, []⟩
  | q :: qs =>
    let o := t.serve q
    let later := o.state.serveAll qs
    ⟨o.value :: later.value, later.state, o.notes ++ later.notes⟩

/-- The entries that a track makes in the course of a run, whether it has a trail for them or
not. -/
def reported (t : Track α φ) : List (Timed α) → List AuditEntry
  | [] => []
  | q :: qs =>
    let now := { t with stamp := q.stamp }
    now.books.log (now.postings q.request) ++ (t.serve q).state.reported qs

theorem serve_unaudited (t : Track α φ) (q : Timed α) :
    t.unaudited.serve q = (t.serve q).onState unaudited := by
  have hschedule := fun e => schedule_unaudited e { t with stamp := q.stamp }
  have hframe := nextFrame_unaudited { t with stamp := q.stamp }
  unfold serve
  cases q.request with
  | schedule e =>
    exact congrArg (fun o => (⟨.inl o.value, o.state, o.notes⟩ : Outcome (Track α φ) (Answer α)))
      (hschedule _)
  | tick =>
    exact congrArg (fun o => (⟨.inr o.value, o.state, o.notes⟩ : Outcome (Track α φ) (Answer α)))
      hframe

theorem serveAll_unaudited (t : Track α φ) (qs : List (Timed α)) :
    t.unaudited.serveAll qs = (t.serveAll qs).onState unaudited := by
  induction qs generalizing t with
  | nil => rfl
  | cons q qs ih => simp only [serveAll, serve_unaudited, Outcome.onState, ih]

theorem reported_unaudited (t : Track α φ) (qs : List (Timed α)) :
    t.unaudited.reported qs = t.reported qs := by
  induction qs generalizing t with
  | nil => rfl
  | cons q qs ih =>
    have hpostings := postings_unaudited { t with stamp := q.stamp } q.request
    have hlog := Books.log_unaudited ({ t with stamp := q.stamp } : Track α φ).books
      (({ t with stamp := q.stamp } : Track α φ).postings q.request)
    simp only [reported, serve_unaudited, Outcome.onState, ih]
    refine congrArg (· ++ (t.serve q).state.reported qs) (Eq.trans ?_ hlog)
    exact congrArg (Books.log _) hpostings

/-- A request posts what it reports. -/
theorem serve_audit (t : Track α φ) (q : Timed α) :
    (t.serve q).state.audit = t.audit.map (.recordAll
      (({ t with stamp := q.stamp } : Track α φ).books.log
        (({ t with stamp := q.stamp } : Track α φ).postings q.request))) := by
  have hbooks := perform_books { t with stamp := q.stamp } q.request
  have hstate : (t.serve q).state = ({ t with stamp := q.stamp } : Track α φ).perform q.request := by
    unfold serve
    cases q.request <;> rfl
  have haudit := congrArg Books.audit hbooks
  rw [Books.audit_log] at haudit
  rw [hstate]
  exact haudit

/-- A trail gets what is reported, and nothing else. -/
theorem serveAll_audit (t : Track α φ) (qs : List (Timed α)) :
    (t.serveAll qs).state.audit = t.audit.map (.recordAll (t.reported qs)) := by
  induction qs generalizing t with
  | nil => exact (AuditTrail.map_recordAll_nil t.audit).symm
  | cons q qs ih =>
    have hrest := ih (t.serve q).state
    rw [serve_audit, ← AuditTrail.map_recordAll_append] at hrest
    exact hrest

/-- The run of an audited track: that without a trail, and the trail with what was reported. -/
theorem serveAll_withAudit (trail : AuditTrail) (t : Track α φ) (qs : List (Timed α)) :
    (t.withAudit trail).serveAll qs =
      (t.unaudited.serveAll qs).onState (withAudit (trail.recordAll (t.reported qs))) := by
  have hsame : (t.withAudit trail).unaudited = t.unaudited := rfl
  have hreported : (t.withAudit trail).reported qs = t.reported qs := by
    rw [← reported_unaudited, hsame, reported_unaudited]
  have haudit := serveAll_audit (t.withAudit trail) qs
  rw [hreported] at haudit
  rw [← hsame, serveAll_unaudited]
  exact congrArg (Outcome.mk _ · _) (eq_withAudit haudit)

/-- What an audit trail of a given capacity is to the run of some requests on a track. -/
structure Observed (t : Track α φ) (qs : List (Timed α)) (capacity : Nat) : Prop where
  /-- With the trail, requests are answered as without one, and the track comes to the same state
  but for the trail. -/
  bounded : (t.withAudit (.empty capacity)).serveAll qs =
    (t.unaudited.serveAll qs).onState
      (withAudit ((AuditTrail.empty capacity).recordAll (t.reported qs)))
  /-- So it is with a trail that never lacks room, and that one holds all that was reported. -/
  unbounded : ∀ room, (t.reported qs).length ≤ room →
    (t.withAudit (.empty room)).serveAll qs = (t.unaudited.serveAll qs).onState
      (withAudit ((AuditTrail.empty room).recordAll (t.reported qs))) ∧
    ((AuditTrail.empty room).recordAll (t.reported qs)).entries = t.reported qs
  /-- After every entry the trail holds the newest ones, whichever copy of the handle on it is
  read. -/
  newest : ∀ made later, t.reported qs = made ++ later →
    ∀ (trails : AuditTrail.Shelved) (handle copy : AuditTrail.Handle),
      trails handle.place = .empty capacity → copy.place = handle.place →
      handle.recordAll made trails copy.place = (AuditTrail.empty capacity).recordAll made ∧
      copy.entries (handle.recordAll made trails) = made.drop (made.length - capacity) ∧
      (copy.entries (handle.recordAll made trails)).length = min capacity made.length ∧
      (copy.entries (handle.recordAll made trails)).length ≤ capacity

/-- Auditing is observation: whatever store calls fail on the way, a run is the same with a trail
of any capacity, with one that never lacks room, and without a trail; and at every point the trail
holds the newest entries, as many as it has room for. -/
theorem auditing (t : Track α φ) (qs : List (Timed α)) (capacity : Nat) :
    Observed t qs capacity := by
  refine ⟨serveAll_withAudit _ t qs, ?_, ?_⟩
  · intro room hroom
    refine ⟨serveAll_withAudit _ t qs, ?_⟩
    rw [AuditTrail.entries_recordAll, Nat.sub_eq_zero_of_le hroom, List.drop_zero]
  · intro made later _ trails handle copy hempty hcopy
    have htrail : handle.recordAll made trails copy.place =
        (AuditTrail.empty capacity).recordAll made := by
      rw [handle.recordAll_place, if_pos hcopy, hcopy, hempty]
    have hread : copy.entries (handle.recordAll made trails) =
        made.drop (made.length - capacity) := by
      rw [AuditTrail.Handle.entries, htrail, AuditTrail.entries_recordAll]
    rw [hread, List.length_drop]
    exact ⟨htrail, rfl, by omega, by omega⟩

end Track
end BucketClock
