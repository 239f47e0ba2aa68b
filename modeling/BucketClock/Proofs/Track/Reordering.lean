import BucketClock.Proofs.Track.Twin

/-!
The order of submissions. Commitments that are full and have identities of their
own may be submitted in any order, as long as those that end up in one bucket
keep theirs: the buckets hold the same in the same order, the statistics are the
same, and no run afterwards can tell in which order the commitments came. Only
the audit trail can, by the order of their entries.

What a series of submissions does is put in closed form (`submitAll_spec`), in
which a permutation shows in the entries alone; that makes twins of the two
tracks (`Submitted.twin`).

Main statement: `reordering`.
-/

namespace BucketClock

/-- The second list is the first in another order, in which elements with one key keep theirs. -/
structure Reordered {β : Type} (key : β → Nat) (xs xs' : List β) : Prop where
  perm : xs.Perm xs'
  order : ∀ k, xs.filter (key · = k) = xs'.filter (key · = k)

namespace AuditTrail

/-- Adding entries does not depend on the wall clock of what a trail held. -/
theorem timeless_recordAll {a a' : Option AuditTrail} (h : a.map timeless = a'.map timeless)
    (log : List AuditEntry) :
    (a.map (recordAll log)).map timeless = (a'.map (recordAll log)).map timeless := by
  induction log generalizing a a' with
  | nil => rw [map_recordAll_nil, map_recordAll_nil, h]
  | cons e log ih =>
    have hcons := map_recordAll_append [e] log
    rw [List.singleton_append] at hcons
    rw [hcons, hcons]
    exact ih (timeless_recorded h rfl)

end AuditTrail

namespace Track

open AuditTrail (recordAll timeless)
open Commitment (dueAt)

/-! ## Submissions -/

structure Submission (α : Type) where
  stamp : Nat
  event : Commitment α

section

variable {α φ : Type} [Outage φ]

def submit (t : Track α φ) (q : Submission α) : Outcome (Track α φ) (Except TrackError Unit) :=
  ({ t with stamp := q.stamp } : Track α φ).schedule q.event

def submitAll (t : Track α φ) :
    List (Submission α) → Outcome (Track α φ) (List (Except TrackError Unit))
  | [] => ⟨[], t, []⟩
  | q :: qs =>
    let o := t.submit q
    let r := o.state.submitAll qs
    ⟨o.value :: r.value, r.state, o.notes ++ r.notes⟩

end

variable {α : Type} {t t' t'' u u' : Track α Unit} {fs gs : List (Commitment α)}

def scheduleEntry (t : Track α Unit) (f : Commitment α) : AuditEntry :=
  ⟨t.name, .schedule, f.id, f.deliveryTime, t.position, 0, none⟩

/-- From `t` to `t'` the given commitments were filed as they are and counted as scheduled. -/
structure Submitted (fs : List (Commitment α)) (t t' : Track α Unit) : Prop where
  same : ∃ store audit stamp, t' = { t with
    store := store
    audit := audit
    stamp := stamp
    pending := t.pending + fs.length
    horizon := (fs.map (·.deliveryTime)).foldl max t.horizon
    counters := { t.counters with scheduled := t.counters.scheduled + fs.length } }
  orderly : t'.store.Orderly
  contents : ∀ id, t'.store.contents id = t.store.contents id ++ dueAt id fs
  ids : ∀ id, id ∈ t'.store.bucketIds ↔ id ∈ fs.map (·.deliveryTime) ∨ id ∈ t.store.bucketIds
  nextId : t'.store.nextId = t.store.nextId
  audit : t'.audit.map timeless = (t.audit.map (recordAll (fs.map t.scheduleEntry))).map timeless

theorem Submitted.refl (h : t.store.Orderly) : Submitted [] t t := by
  refine ⟨⟨t.store, t.audit, t.stamp, rfl⟩, h, fun _ => (List.append_nil _).symm, ?_, rfl, ?_⟩
  · intro id
    simp
  · rw [List.map_nil, AuditTrail.map_recordAll_nil]

theorem Submitted.trans (h : Submitted fs t t') (h' : Submitted gs t' t'') :
    Submitted (fs ++ gs) t t'' := by
  have hentry : t'.scheduleEntry = t.scheduleEntry := by
    obtain ⟨_, _, _, rfl⟩ := h.same
    rfl
  refine ⟨?_, h'.orderly, ?_, ?_, h'.nextId.trans h.nextId, ?_⟩
  · obtain ⟨_, _, _, hsame⟩ := h.same
    obtain ⟨store, audit, stamp, hsame'⟩ := h'.same
    refine ⟨store, audit, stamp, ?_⟩
    rw [hsame', hsame]
    simp only [List.length_append, List.map_append, List.foldl_append, Nat.add_assoc]
  · intro id
    rw [h'.contents, h.contents, Commitment.dueAt_append, List.append_assoc]
  · intro id
    rw [h'.ids, h.ids, List.map_append, List.mem_append]
    tauto
  · rw [h'.audit, AuditTrail.timeless_recordAll h.audit, hentry, List.map_append,
      AuditTrail.map_recordAll_append]

theorem Submitted.position (h : Submitted fs t t') : t'.position = t.position := by
  obtain ⟨_, _, _, rfl⟩ := h.same
  rfl

theorem Submitted.calm (h : Submitted fs t t') (hcalm : t.Calm) : t'.Calm := by
  have horderly := h.orderly
  obtain ⟨_, _, _, rfl⟩ := h.same
  exact ⟨horderly, hcalm.factory, hcalm.stranded, hcalm.stale⟩

theorem Submitted.running (h : Submitted fs t t') (hrunning : t.Running) : t'.Running := by
  refine ⟨h.calm hrunning.calm, ?_, ?_⟩
  · obtain ⟨_, _, _, rfl⟩ := h.same
    exact hrunning.window
  · rw [h.position]
    exact hrunning.inRange

theorem place_counted (h : t.Calm) (e : Commitment α) :
    (t.place e).value = .ok () ∧
      (t.place e).state =
        t.counted e (some (t.store.identity e)) (t.store.commit .empty e).state := by
  simp only [place, h.factory, Store.commit_ok, counted]
  split
  · exact ⟨rfl, rfl⟩
  · exact ⟨rfl, rfl⟩

theorem place_submitted (h : t.Calm) {f : Commitment α} (hfull : f.phase = .full)
    (hid : f.id ≠ none) : (t.place f).value = .ok () ∧ Submitted [f] t (t.place f).state := by
  obtain ⟨hvalue, hstate⟩ := place_counted h f
  obtain ⟨id, hsome⟩ := Option.ne_none_iff_exists'.mp hid
  have hidentity : some (t.store.identity f) = f.id := by rw [Store.identity, hsome]; rfl
  have hfiled := Store.commit_appends h.orderly f
  obtain ⟨hids, hnext, _⟩ := Store.commit_calm h.orderly f
  rw [hidentity] at hstate hfiled
  rw [if_neg hid] at hnext
  rw [hstate, counted, if_pos hfull]
  refine ⟨hvalue, ⟨_, _, _, rfl⟩, hfiled.orderly, hfiled.contents_dueAt, ?_, hnext, ?_⟩
  · intro id
    rw [List.map_singleton, List.mem_singleton]
    exact hids id
  · exact AuditTrail.timeless_recorded rfl rfl

/-- The reading of the wall clock before is of no account. -/
theorem Submitted.unstamped {stamp : Nat} (h : Submitted fs { t with stamp := stamp } t') :
    Submitted fs t t' := by
  obtain ⟨⟨store, audit, stamp', hsame⟩, horderly, hcontents, hids, hnext, haudit⟩ := h
  exact ⟨⟨store, audit, stamp', hsame⟩, horderly, hcontents, hids, hnext, haudit⟩

/-- A full commitment with an identity is filed as it is admitted. -/
theorem submit_spec (h : t.Calm) {q : Submission α} (hfull : q.event.phase = .full)
    (hid : q.event.id ≠ none) :
    (t.submit q).value = .ok () ∧
      Submitted [q.event.admitted t.position] t (t.submit q).state := by
  have hcalm : ({ t with stamp := q.stamp } : Track α Unit).Calm :=
    ⟨h.orderly, h.factory, h.stranded, h.stale⟩
  have hadmitted := q.event.admitted_eq t.position
  obtain ⟨hplaced, hfiled⟩ := place_submitted hcalm (f := q.event.admitted t.position)
    (by rw [hadmitted, hfull]) (by rw [hadmitted]; exact hid)
  obtain ⟨hvalue, hstate⟩ := schedule_eq { t with stamp := q.stamp } hfull
  rw [submit, hvalue, hstate]
  exact ⟨congrArg (Except.mapError (·.error)) hplaced, hfiled.unstamped⟩

theorem submitAll_spec (h : t.Calm) {qs : List (Submission α)}
    (hqs : ∀ q ∈ qs, q.event.phase = .full ∧ q.event.id ≠ none) :
    (t.submitAll qs).value = qs.map (fun _ => .ok ()) ∧
      Submitted ((qs.map (·.event)).map (·.admitted t.position)) t (t.submitAll qs).state := by
  induction qs generalizing t with
  | nil => exact ⟨rfl, .refl h.orderly⟩
  | cons q qs ih =>
    obtain ⟨⟨hfull, hid⟩, hrest⟩ := List.forall_mem_cons.mp hqs
    obtain ⟨hvalue, hfirst⟩ := submit_spec h hfull hid
    obtain ⟨hvalues, hlast⟩ := ih (hfirst.calm h) hrest
    rw [hfirst.position] at hlast
    refine ⟨?_, hfirst.trans hlast⟩
    simp only [submitAll, List.map_cons, hvalue, hvalues]

/-! ## Two orders -/

/-- A permutation that keeps the order in every bucket makes twins. -/
theorem Submitted.twin (h : Submitted fs t u) (h' : Submitted gs t u') (hcalm : t.Calm)
    (hperm : fs.Perm gs) (hdue : ∀ id, dueAt id fs = dueAt id gs) :
    Twin (t.audit.map (recordAll (fs.map t.scheduleEntry)))
      (t.audit.map (recordAll (gs.map t.scheduleEntry))) u u' := by
  have hcalm' := h.calm hcalm
  have hids : ∀ id, id ∈ fs.map (·.deliveryTime) ↔ id ∈ gs.map (·.deliveryTime) :=
    fun id => (hperm.map _).mem_iff
  have hstore : u.store.Twin u'.store := by
    refine ⟨h.orderly, h'.orderly, ?_, ?_, h.nextId.trans h'.nextId.symm⟩
    · intro id
      rw [h.contents, h'.contents, hdue]
    · intro id
      rw [h.ids, h'.ids, hids]
  have hhorizon : (gs.map (·.deliveryTime)).foldl max t.horizon =
      (fs.map (·.deliveryTime)).foldl max t.horizon :=
    (hperm.map _).symm.foldl_eq _
  refine ⟨u'.store, u'.audit, u'.stamp, ?_, hstore, .start h.audit h'.audit, hcalm'⟩
  obtain ⟨_, _, _, hsame⟩ := h.same
  obtain ⟨_, _, _, hsame'⟩ := h'.same
  rw [hsame', hsame, hhorizon, hperm.length_eq]

theorem dueAt_admitted {position : Nat} (h : position ≤ Index.last) {es : List (Commitment α)}
    (hes : ∀ e ∈ es, e.phase = .full) (id : Nat) :
    dueAt id (es.map (·.admitted position)) =
      (es.filter fun e => max e.deliveryTime (Index.next position) = id).map
        (·.admitted position) := by
  rw [dueAt, List.filter_map]
  refine congrArg (List.map _) (List.filter_congr fun e he => ?_)
  rw [Function.comp_apply, admitted_bucket h, if_pos (hes e he)]

/-- In every state of a track over a store that never fails, whatever was stored before and
whatever other hands did to it, commitments that are full and have identities may be submitted in
any order that keeps the order of those for one bucket, the one a commitment asks for or the next,
whichever is later. All of them are accepted either way. From then on the two tracks are the same in
what is stored, and in which order, and in their statistics; every later run reports the same on
both, at whatever times; and the trails got the same entries, but for the order of those of the
submissions. -/
theorem reordering {t₀ : Track α Unit} (h : t₀.Hosted) (horderly : t₀.store.Orderly)
    (as : List (Action α)) {qs qs' : List (Submission α)}
    (hfresh : ∀ q ∈ qs, q.event.phase = .full ∧ q.event.id ≠ none)
    (hreordered : Reordered (fun e => max e.deliveryTime (Index.next (t₀.actAll as).position))
      (qs.map (·.event)) (qs'.map (·.event))) :
    let t := t₀.actAll as
    let o := t.submitAll qs
    let o' := t.submitAll qs'
    let entries := ((qs.map (·.event)).map (·.admitted t.position)).map t.scheduleEntry
    let entries' := ((qs'.map (·.event)).map (·.admitted t.position)).map t.scheduleEntry
    o.value = qs.map (fun _ => .ok ()) ∧ o'.value = qs'.map (fun _ => .ok ()) ∧
      entries.Perm entries' ∧
      ∀ rs rs' : List (Timed α), List.Forall₂ (fun r r' => r.request = r'.request) rs rs' →
        let v := o.state.runAt rs
        let v' := o'.state.runAt rs'
        (o.state.reports rs).map Report.unaudited = (o'.state.reports rs').map Report.unaudited ∧
          v.store.stored = v'.store.stored ∧ v.stats = v'.stats ∧
          AuditTrail.Grown (t.audit.map (recordAll entries)) (t.audit.map (recordAll entries'))
            v.audit v'.audit := by
  intro t o o' entries entries'
  have hrunning : t.Running := (h.running horderly).actAll as
  have hfresh' : ∀ q ∈ qs', q.event.phase = .full ∧ q.event.id ≠ none := by
    intro q hq
    have hmem := hreordered.perm.mem_iff.mpr (List.mem_map_of_mem (f := (·.event)) hq)
    obtain ⟨q₁, hq₁, heq⟩ := List.mem_map.mp hmem
    rw [← heq]
    exact hfresh q₁ hq₁
  have hfull : ∀ {qs : List (Submission α)}, (∀ q ∈ qs, q.event.phase = .full ∧ q.event.id ≠ none) →
      ∀ e ∈ qs.map (·.event), e.phase = .full := by
    intro qs hqs e he
    obtain ⟨q, hq, rfl⟩ := List.mem_map.mp he
    exact (hqs q hq).1
  have hperm := hreordered.perm.map (·.admitted t.position)
  have hdue : ∀ id, dueAt id ((qs.map (·.event)).map (·.admitted t.position)) =
      dueAt id ((qs'.map (·.event)).map (·.admitted t.position)) := by
    intro id
    rw [dueAt_admitted hrunning.inRange (hfull hfresh),
      dueAt_admitted hrunning.inRange (hfull hfresh'), hreordered.order]
  obtain ⟨hvalue, hsubmitted⟩ := submitAll_spec hrunning.calm hfresh
  obtain ⟨hvalue', hsubmitted'⟩ := submitAll_spec hrunning.calm hfresh'
  refine ⟨hvalue, hvalue', hperm.map _, ?_⟩
  intro rs rs' hrs v v'
  have htwin := hsubmitted.twin hsubmitted' hrunning.calm hperm hdue
  obtain ⟨hreports, hlater⟩ := htwin.runAt (hsubmitted.running hrunning) hrs
  exact ⟨hreports, hlater.stored, hlater.stats, hlater.audits⟩

/-- A track with a trail. A commitment is drawn from once and waits in bucket 2, where the clock
is. -/
def engaged : List (Action Nat) :=
  [.ask (.schedule { deliveryTime := 1, supply := .ofList [1, 2] }), .ask .tick, .ask .tick]

def bookings : List (Submission Nat) :=
  [⟨10, { id := some 7, deliveryTime := 0, supply := .ofList [3, 4] }⟩,
    ⟨11, { id := some 8, deliveryTime := 5, supply := .ofList [5] }⟩,
    ⟨12, { id := some 9, deliveryTime := 3, supply := .ofList [6] }⟩]

/-- The second of them comes first, and at other times. -/
def rebookings : List (Submission Nat) :=
  [⟨20, { id := some 8, deliveryTime := 5, supply := .ofList [5] }⟩,
    ⟨25, { id := some 7, deliveryTime := 0, supply := .ofList [3, 4] }⟩,
    ⟨26, { id := some 9, deliveryTime := 3, supply := .ofList [6] }⟩]

/-- Whichever was booked first, the second tick from then on hands out both items of bucket 3 in the
same order, and only the trails differ. -/
theorem reordering_bookings :
    let t₀ : Track Nat Unit := (ofStore (.empty ())).withAudit (.empty 100)
    let t := t₀.actAll engaged
    let u := (t.submitAll bookings).state
    let u' := (t.submitAll rebookings).state
    let rs : List (Timed Nat) := [⟨30, .tick⟩, ⟨31, .tick⟩]
    t₀.Hosted ∧ t.position = 2 ∧ u.store.stored.map (·.1) = [2, 3, 5] ∧
      (u.runAt rs).store.stored = (u'.runAt rs).store.stored ∧
      u.history frames (rs.map (·.request)) = [[2], [3, 6]] ∧
      (u.reports rs).map Report.unaudited = (u'.reports rs).map Report.unaudited ∧
      u.audit.map (fun a => a.entries.map (·.eventId)) =
        some [some 1, none, some 1, none, some 7, some 8, some 9] ∧
      u'.audit.map (fun a => a.entries.map (·.eventId)) =
        some [some 1, none, some 1, none, some 8, some 7, some 9] := by
  intro t₀ t u u' rs
  have hhosted : t₀.Hosted := .withAudit _ (.ofStore _)
  have horderly : t₀.store.Orderly := (Store.sturdy_empty Outage.keepsEvents_unit).orderly
  have hfresh : ∀ q ∈ bookings, q.event.phase = .full ∧ q.event.id ≠ none := by
    decide
  have hreordered : Reordered (fun e => max e.deliveryTime (Index.next t.position))
      (bookings.map (·.event)) (rebookings.map (·.event)) := by
    have hnext : Index.next t.position = 3 := by decide +kernel
    refine ⟨.swap _ _ _, fun k => ?_⟩
    rw [hnext]
    -- no bucket but 3 gets more than one booking
    by_cases hthree : 3 = k
    · subst hthree
      rfl
    · simp only [bookings, rebookings, List.map_cons, List.map_nil, List.filter_cons]
      simp [hthree]
  obtain ⟨_, _, _, hlater⟩ := reordering hhosted horderly engaged hfresh hreordered
  have hrs : List.Forall₂ (fun r r' => r.request = r'.request) rs rs := .cons rfl (.cons rfl .nil)
  obtain ⟨hreports, hstored, _, _⟩ := hlater rs rs hrs
  exact ⟨hhosted, by decide +kernel, by decide +kernel, hstored, by decide +kernel,
    hreports, by decide +kernel, by decide +kernel⟩

end Track
end BucketClock
