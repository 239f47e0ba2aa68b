import BucketClock.Proofs.Store.Sturdy
import BucketClock.Proofs.Track.Emptiness

/-!
Refused commitments. A track that refuses a commitment is as it was before but
for its store, whatever the timeline holds and the factory makes. In the store
no bucket made before has changed, and the stored buckets are the same; only a
save that took effect before it failed may leave a bucket more, the one that the
factory made. If the factory made it under another id than it was asked for, it
may also stand in place of a stored one.

Main statement: `schedule_rejected`.
-/

namespace BucketClock.Track

open Outage (firstFailure)

variable {α φ : Type} [Outage φ]

/-! ## Stores along a run

Every request keeps a store sturdy. -/

theorem place_sturdy {t : Track α φ} (h : t.store.Sturdy) (e : Commitment α) :
    (t.place e).state.store.Sturdy := by
  rw [place_store]
  exact h.commit _ e

theorem rollOver_sturdy {t : Track α φ} (h : t.store.Sturdy) (e : Commitment α) :
    (t.rollOver e).state.store.Sturdy := by
  rw [rollOver_store]
  exact h.commit _ e

theorem settle_sturdy {t : Track α φ} (h : t.store.Sturdy) (position : Nat) (e : Commitment α) :
    (t.settle position e).state.store.Sturdy := by
  rcases settle_store position e t with hstore | ⟨e', hstore⟩
  · rw [hstore]
    exact h
  · rw [hstore]
    exact h.commit _ e'

theorem removeBucket_sturdy {t : Track α φ} (h : t.store.Sturdy) (id : Nat) :
    (t.removeBucket id).state.store.Sturdy := by
  rw [removeBucket_store]
  exact h.remove id

theorem each_sturdy {γ : Type} {step : γ → Track α φ → Outcome (Track α φ) Unit}
    (hstep : ∀ x t, t.store.Sturdy → (step x t).state.store.Sturdy) (xs : List γ)
    {t : Track α φ} (h : t.store.Sturdy) : (Outcome.each step xs t).state.store.Sturdy :=
  Outcome.each_invariant (P := fun t => t.store.Sturdy) (fun x _ t ht => hstep x t ht) h

theorem cleared_sturdy {t : Track α φ} (h : t.store.Sturdy) : t.cleared.store.Sturdy :=
  each_sturdy (fun id _ ht => removeBucket_sturdy ht id) t.stale (t := { t with stale := [] }) h

theorem retryDeferred_sturdy {t : Track α φ} (h : t.store.Sturdy) :
    t.retryDeferred.state.store.Sturdy :=
  each_sturdy (fun _ _ ht => rollOver_sturdy ht _) t.cleared.stranded
    (t := { t.cleared with stranded := [] }) (cleared_sturdy h)

theorem takeBucket_sturdy {t : Track α φ} (h : t.store.Sturdy) :
    t.takeBucket.state.store.Sturdy := by
  have htaken : (t.timeline.take 1 t.store).state.2.Sturdy :=
    Window.take_invariant (P := Store.Sturdy) (fun i _ hs => hs.fetch _ i) 1 t.timeline.window h
  simp only [takeBucket]
  split
  · exact htaken
  · split
    · exact htaken
    · exact htaken

theorem drain_sturdy {t : Track α φ} (h : t.store.Sturdy) (slot : Slot) :
    (t.drain slot).state.store.Sturdy := by
  have hemptied : (t.store.update slot (t.store.bucket slot).takeEvents.2).Sturdy := h.update rfl
  obtain ⟨es, hstore⟩ := drain_store slot t
  rw [hstore]
  exact (each_sturdy (fun e _ ht => settle_sturdy ht t.position e) es
    (t := { t with store := t.store.update slot (t.store.bucket slot).takeEvents.2 })
    hemptied).remove _

theorem nextFrame_sturdy {t : Track α φ} (h : t.store.Sturdy) :
    t.nextFrame.state.store.Sturdy := by
  have hretried := retryDeferred_sturdy h
  have htaken := takeBucket_sturdy hretried
  simp only [nextFrame]
  split
  · exact hretried
  · split
    · exact htaken
    · exact drain_sturdy htaken _

/-- A commitment that is not exhausted is placed where it is admitted. -/
theorem schedule_place (t : Track α φ) {e : Commitment α} (h : e.phase ≠ .exhausted) :
    (t.schedule e).value = (t.place (e.admitted t.position)).value.mapError (·.error) ∧
      (t.schedule e).state = (t.place (e.admitted t.position)).state := by
  cases hphase : e.phase with
  | exhausted => exact absurd hphase h
  | full => exact t.schedule_eq hphase
  | notEmpty =>
    have hadmitted : e.admitted t.position = e := by simp [Commitment.admitted, hphase]
    rw [hadmitted]
    simp only [schedule, hphase]
    exact ⟨trivial, trivial⟩

theorem schedule_exhausted (t : Track α φ) {e : Commitment α} (h : e.phase = .exhausted) :
    t.schedule e = ⟨.error (.exhausted e.id), t, []⟩ := by
  simp only [schedule, h]

theorem schedule_sturdy {t : Track α φ} (h : t.store.Sturdy) (e : Commitment α) :
    (t.schedule e).state.store.Sturdy := by
  by_cases hphase : e.phase = .exhausted
  · rw [t.schedule_exhausted hphase]
    exact h
  · rw [(t.schedule_place hphase).2]
    exact place_sturdy h _

theorem run_sturdy {t : Track α φ} (h : t.store.Sturdy) (rs : List (Request α)) :
    (t.run rs).store.Sturdy := by
  induction rs generalizing t with
  | nil => exact h
  | cons r rs ih =>
    apply ih (t := t.perform r)
    cases r with
    | schedule e => exact schedule_sturdy h _
    | tick => exact nextFrame_sturdy h

/-! ## Refusals -/

def destination (e : Commitment α) (t : Track α φ) : Nat := (e.admitted t.position).deliveryTime

def scheduleCalls (e : Commitment α) (t : Track α φ) : List StoreCall :=
  t.store.commitCalls t.timeline.factory (e.admitted t.position)

/-- What is left of a submission of `e` that was refused with `error`. -/
structure Rejected (t : Track α φ) (e : Commitment α) (error : TrackError) : Prop where
  same : (t.schedule e).state = { t with store := (t.schedule e).state.store }
  exhausted : e.phase = .exhausted → t.schedule e = ⟨.error (.exhausted e.id), t, []⟩
  failure : e.phase ≠ .exhausted →
    ∃ f, firstFailure t.store.outage (t.scheduleCalls e) = some f ∧ error = f.error ∧
      (f.effect = .none → (t.schedule e).state.store.stored = t.store.stored)
  stored : (t.schedule e).state.store.stored = t.store.stored ∨
    firstFailure t.store.outage (t.scheduleCalls e).dropLast = none ∧
      t.store.lookup (t.destination e) = none ∧
      Store.Restocked (t.destination e) (t.timeline.factory (t.destination e)) t.store.stored
        (t.schedule e).state.store.stored
  buckets : ∀ slot < t.store.nextSlot,
    (t.schedule e).state.store.bucket slot = t.store.bucket slot
  contents : t.timeline.factory = Bucket.empty →
    ∀ id, (t.schedule e).state.store.contents id = t.store.contents id
  nextId : t.store.nextId ≤ (t.schedule e).state.store.nextId

theorem place_error {t : Track α φ} {e : Commitment α} {refusal : Store.Refusal α}
    (h : (t.place e).value = .error refusal) :
    (t.store.commit t.timeline.factory e).value = .error refusal ∧
      (t.place e).state = { t with store := (t.store.commit t.timeline.factory e).state } := by
  simp only [place] at h ⊢
  cases hv : (t.store.commit t.timeline.factory e).value with
  | error refusal' =>
    rw [hv] at h
    cases h
    exact ⟨rfl, rfl⟩
  | ok id =>
    rw [hv] at h
    simp only at h
    split at h
    · cases h
    · cases h

theorem schedule_refused {t : Track α φ} (h : t.store.Sturdy) {e : Commitment α}
    {error : TrackError} (hvalue : (t.schedule e).value = .error error) : Rejected t e error := by
  by_cases hphase : e.phase = .exhausted
  · have hschedule := t.schedule_exhausted hphase
    have hstate : (t.schedule e).state = t := by rw [hschedule]
    constructor
    case exhausted => exact fun _ => hschedule
    case failure => exact fun hne => absurd hphase hne
    case stored => exact Or.inl (by rw [hstate])
    case nextId => exact Nat.le_of_eq (by rw [hstate])
    all_goals simp [hstate]
  · obtain ⟨hplaced, hstate⟩ := t.schedule_place hphase
    rw [hplaced] at hvalue
    cases hplace : (t.place (e.admitted t.position)).value with
    | ok u =>
      rw [hplace] at hvalue
      cases hvalue
    | error refusal =>
      rw [hplace] at hvalue
      cases hvalue
      obtain ⟨hcommit, hsame⟩ := place_error hplace
      have hcommitted := Store.commit_committed h.orderly h.keeps t.timeline.factory
        (e.admitted t.position)
      rw [hcommit] at hcommitted
      obtain ⟨f, hcalls, herror, hnextId, hbuckets, hstored⟩ := hcommitted.stored h.orderly
      have hstore : (t.schedule e).state.store =
          (t.store.commit t.timeline.factory (e.admitted t.position)).state := by
        rw [hstate, hsame]
      rw [← hstore] at hcommitted hnextId hbuckets hstored
      refine ⟨?_, fun h => absurd h hphase, fun _ => ⟨f, hcalls, herror, ?_⟩, ?_, hbuckets, ?_,
        hnextId⟩
      · rw [hstate, hsame]
      · intro hnone
        rcases hstored with hstored | ⟨heffect, _⟩
        · exact hstored
        · rw [hnone] at heffect
          cases heffect
      · exact hstored.imp_right And.right
      · intro hfactory id
        rw [hfactory] at hcommitted
        exact (hcommitted.contents h.orderly id).trans (List.append_nil _)

/-- A submission that is refused is undone: in every state that requests lead to, from any track
over an orderly store whose failing saves keep their commitments, and for every commitment. -/
theorem schedule_rejected {t₀ : Track α φ} (h : t₀.store.Sturdy) (rs : List (Request α))
    {e : Commitment α} {error : TrackError}
    (hvalue : ((t₀.run rs).schedule e).value = .error error) : Rejected (t₀.run rs) e error :=
  schedule_refused (run_sturdy h rs) hvalue

/-- A store that stores the second bucket it is handed, and reports the save as failed. -/
def hasty : Track Nat (List PlannedFailure) :=
  .ofStore (.empty
    [{ kind := .save, skip := 1, failure := ⟨.told .backend "timeout", .applied⟩ }])

/-- The second commitment is refused. Its bucket is on the shelf and holds nothing. -/
theorem schedule_rejected_hasty :
    Rejected (hasty.run [.schedule { deliveryTime := 1, supply := .ofList [3] }])
        { deliveryTime := 2, supply := .ofList [4] } (.told .backend "timeout") ∧
      ((hasty.run [.schedule { deliveryTime := 1, supply := .ofList [3] },
        .schedule { deliveryTime := 2, supply := .ofList [4] }]).store.stored.map
          fun b => (b.1, b.2.events.length)) = [(1, 1), (2, 0)] :=
  ⟨schedule_rejected (Store.sturdy_empty (keepsEvents_plan (by decide))) _ (by decide +kernel),
    by decide +kernel⟩

/-- A track whose missing buckets are made with one commitment in them, over a store that reports
the first save as failed. -/
def prefilled : Track String (List PlannedFailure) :=
  .ofTimeline ⟨.ofList [], fun id => ⟨id, [{ deliveryTime := id, supply := .ofList ["x"] }]⟩⟩
    (.empty [{ kind := .save, failure := ⟨.told .backend "transient", .applied⟩ }])

/-- A track whose missing buckets are made under the id after the one asked for, over a store that
reports the second save as failed. -/
def misnamed : Track String (List PlannedFailure) :=
  .ofTimeline ⟨.ofList [], fun id => .empty (id + 1)⟩
    (.empty [{ kind := .save, skip := 1, failure := ⟨.told .backend "transient", .applied⟩ }])

/-- The bucket left by a refused submission need not be empty, as it is as the factory made it. It
need not be one more either: under the id of a stored bucket it stands in its place, and the
commitment in that one is not stored any more. -/
theorem schedule_leaves_goods :
    ((prefilled.schedule { deliveryTime := 1, supply := .single "a" }).value =
        .error (.told .backend "transient") ∧
      prefilled.store.stored.map (·.1) = [] ∧
      ((prefilled.schedule { deliveryTime := 1, supply := .single "a" }).state.store.stored.map
        fun b => (b.1, b.2.events.map (·.supply.remaining))) = [(1, [some 1])]) ∧
    let t := misnamed.run [.schedule { deliveryTime := 1, supply := .single "a" }]
    (t.schedule { deliveryTime := 1, supply := .single "b" }).value =
        .error (.told .backend "transient") ∧
      (t.store.stored.map fun b => (b.1, b.2.events.map (·.supply.remaining))) = [(2, [some 1])] ∧
      ((t.schedule { deliveryTime := 1, supply := .single "b" }).state.store.stored.map
        fun b => (b.1, b.2.events.map (·.supply.remaining))) = [(2, [])] := by
  refine ⟨⟨by decide +kernel, by decide +kernel, by decide +kernel⟩, ?_⟩
  exact ⟨by decide +kernel, by decide +kernel, by decide +kernel⟩

end BucketClock.Track
