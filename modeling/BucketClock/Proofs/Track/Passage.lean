import BucketClock.Proofs.Store.Commit
import BucketClock.Proofs.Track.Run
import Mathlib.Algebra.GroupWithZero.Nat

/-!
What happens to commitments within a tick. A `Passage` is what a stretch of a
tick did to a track: what it filed, held back and retired. Passages compose
(`Passage.trans`), so a loop over commitments is a passage as soon as its step
is one (`each_passage`).
-/

namespace BucketClock

namespace Track

open Commitment (Refiled dueAt)

variable {α φ : Type} [Outage φ]

/-- A track whose store is in order and whose missing buckets are empty. -/
structure Ready (t : Track α φ) : Prop where
  sane : t.store.Sane
  factory : t.timeline.factory = Bucket.empty

/-- From `t` to `t'` the given commitments were filed and held back, `gone` were retired, and
the clock stood still. -/
structure Passage (t t' : Track α φ) (filed held : List (Commitment α)) (gone : Nat) : Prop where
  ready : t'.Ready
  timeline : t'.timeline = t.timeline
  position : t'.position = t.position
  frameWidth : t'.frameWidth = t.frameWidth
  increment : t'.increment = t.increment
  contents : ∀ id, t'.store.contents id = t.store.contents id ++ dueAt id filed
  ids : ∀ id ∈ t'.store.bucketIds,
    id ∈ t.store.bucketIds ∨ ∃ e ∈ filed ++ held, e.deliveryTime = id
  stranded : t'.stranded = t.stranded ++ held
  stale : t'.stale = t.stale
  pending : t'.pending = t.pending - gone
  counters : t'.counters = { t.counters with
    rollovers := t.counters.rollovers + filed.length
    rolloverFailures := t.counters.rolloverFailures + held.length
    retired := t.counters.retired + gone }

theorem Passage.refl {t : Track α φ} (h : t.Ready) : Passage t t [] [] 0 := by
  refine ⟨h, rfl, rfl, rfl, rfl, ?_, fun id hid => Or.inl hid, ?_, rfl, rfl, rfl⟩
  · intro id
    exact (List.append_nil _).symm
  · exact (List.append_nil _).symm

theorem Passage.trans {t t' t'' : Track α φ} {filed filed' held held' : List (Commitment α)}
    {gone gone' : Nat} (h : Passage t t' filed held gone) (h' : Passage t' t'' filed' held' gone') :
    Passage t t'' (filed ++ filed') (held ++ held') (gone + gone') := by
  refine ⟨h'.ready, h'.timeline.trans h.timeline, h'.position.trans h.position,
    h'.frameWidth.trans h.frameWidth, h'.increment.trans h.increment, ?_, ?_, ?_,
    h'.stale.trans h.stale, ?_, ?_⟩
  · intro id
    rw [h'.contents, h.contents, Commitment.dueAt_append, List.append_assoc]
  · intro id hid
    rcases h'.ids id hid with hid | ⟨e, he, rfl⟩
    · rcases h.ids id hid with hid | ⟨e, he, rfl⟩
      · exact Or.inl hid
      · refine Or.inr ⟨e, ?_, rfl⟩
        simp only [List.mem_append] at he ⊢
        rcases he with he | he
        · exact Or.inl (Or.inl he)
        · exact Or.inr (Or.inl he)
    · refine Or.inr ⟨e, ?_, rfl⟩
      simp only [List.mem_append] at he ⊢
      rcases he with he | he
      · exact Or.inl (Or.inr he)
      · exact Or.inr (Or.inr he)
  · rw [h'.stranded, h.stranded, List.append_assoc]
  · rw [h'.pending, h.pending, Nat.sub_sub]
  · rw [h'.counters, h.counters]
    simp only [List.length_append, Nat.add_assoc]

/-! ## Filing once -/

/-- The track after `e` was filed under an identity: it is counted as scheduled if it is full, and
as rolled over if it is not. -/
def counted (e : Commitment α) (id : Option Nat) (s : Store α φ) (t : Track α φ) : Track α φ :=
  if e.phase = .full then
    record .schedule id e.deliveryTime none { t with
      store := s
      pending := t.pending + 1
      counters := { t.counters with scheduled := t.counters.scheduled + 1 }
      horizon := max t.horizon e.deliveryTime }
  else
    record .rollover id e.deliveryTime none { t with
      store := s
      counters := { t.counters with rollovers := t.counters.rollovers + 1 }
      horizon := max t.horizon e.deliveryTime }

/-- Placing a commitment files it and counts it, or hands it back and touches the store only. -/
theorem place_spec {t : Track α φ} (h : t.Ready) (e : Commitment α) :
    (∃ id s, (t.place e).value = .ok () ∧ t.filing e = [{ e with id := id }] ∧
        Store.Filed e t.store (.ok id) s ∧ (t.place e).state = t.counted e id s) ∨
    (∃ error e' s, (t.place e).value = .error ⟨error, some e'⟩ ∧ t.filing e = [] ∧
        Store.Filed e t.store (.error ⟨error, some e'⟩) s ∧
        (t.place e).state = { t with store := s }) := by
  have hcommit := Store.commit_spec h.sane e
  simp only [place, filing, h.factory]
  cases hv : (t.store.commit .empty e).value with
  | ok id =>
    left
    rw [hv] at hcommit
    refine ⟨id, _, ?_, rfl, hcommit, ?_⟩
    · simp only
      split <;> rfl
    · simp only [counted]
      split <;> rfl
  | error refusal =>
    right
    rw [hv] at hcommit
    obtain ⟨error, event⟩ := refusal
    cases hevent : event with
    | none =>
      rw [hevent] at hcommit
      cases hcommit
    | some e' =>
      rw [hevent] at hcommit
      exact ⟨error, e', _, rfl, rfl, hcommit, rfl⟩

theorem rollOver_spec {t : Track α φ} (h : t.Ready) (e : Commitment α) (hphase : e.phase ≠ .full) :
    ∃ held, Refiled [e] (t.filing e) held ∧ Passage t (t.rollOver e).state (t.filing e) held 0 := by
  simp only [rollOver]
  rcases place_spec h e with ⟨id, s, hvalue, hfiling, hfiled, hstate⟩ |
    ⟨error, e', s, hvalue, hfiling, hfiled, hstate⟩
  · refine ⟨[], ?_, ?_⟩
    · cases hfiled with
      | done _ hid _ _ =>
        rw [hfiling]
        exact .filed hid .nil
    · rw [hvalue, hfiling]
      simp only [hstate, counted, if_neg hphase]
      cases hfiled with
      | done hsane _ hids hcontents =>
        refine ⟨⟨hsane, h.factory⟩, rfl, rfl, rfl, rfl, ?_, ?_, ?_, rfl, rfl, rfl⟩
        · intro j
          refine (hcontents j).trans ?_
          split
          · next heq =>
            rw [Commitment.dueAt_eq_self]
            intro e' he'
            rw [List.mem_singleton.mp he', heq]
          · next hne =>
            rw [Commitment.dueAt_eq_nil, List.append_nil]
            intro e' he'
            rw [List.mem_singleton.mp he']
            exact fun heq => hne heq.symm
        · intro j hj
          rcases hids j hj with hj | rfl
          · exact Or.inl hj
          · exact Or.inr ⟨_, List.mem_append_left _ List.mem_cons_self, rfl⟩
        · exact (List.append_nil _).symm
  · cases hfiled with
    | refused hid hsteady =>
      refine ⟨[e'], ?_, ?_⟩
      · rw [hfiling]
        exact .held hid .nil
      · rw [hvalue, hfiling]
        simp only [hstate]
        refine ⟨⟨hsteady.sane, h.factory⟩, rfl, rfl, rfl, rfl, ?_, ?_, rfl, rfl, rfl, rfl⟩
        · intro j
          exact (hsteady.contents j).trans (List.append_nil _).symm
        · intro j hj
          rcases hsteady.ids j hj with hj | rfl
          · exact Or.inl hj
          · obtain ⟨id, rfl, _⟩ := hid
            exact Or.inr ⟨_, List.mem_cons_self, rfl⟩

/-! ## Filing in a loop -/

/-- A loop is a passage if its step is one. Element `x` has the commitments `target x` filed
again and retires `gone x`. -/
theorem each_passage {γ : Type} {step : γ → Track α φ → Outcome (Track α φ) Unit}
    {see : γ → Track α φ → List (Commitment α)} {target : γ → List (Commitment α)} {gone : γ → Nat}
    {position increment : Nat} {xs : List γ}
    (hstep : ∀ x ∈ xs, ∀ t, t.Ready → t.position = position → t.increment = increment →
      ∃ held, Refiled (target x) (see x t) held ∧
        Passage t (step x t).state (see x t) held (gone x))
    {t : Track α φ} (h : t.Ready) (hposition : t.position = position)
    (hincrement : t.increment = increment) :
    ∃ held, Refiled (xs.flatMap target) (Outcome.trace step see xs t) held ∧
      Passage t (Outcome.each step xs t).state (Outcome.trace step see xs t) held
        (xs.map gone).sum := by
  induction xs generalizing t with
  | nil => exact ⟨[], .nil, .refl h⟩
  | cons x xs ih =>
    obtain ⟨held, hrefiled, hpassage⟩ := hstep x List.mem_cons_self t h hposition hincrement
    obtain ⟨held', hrefiled', hpassage'⟩ := ih (fun y hy => hstep y (List.mem_cons_of_mem _ hy))
      hpassage.ready (hpassage.position.trans hposition) (hpassage.increment.trans hincrement)
    refine ⟨held ++ held', ?_, ?_⟩
    · rw [List.flatMap_cons]
      exact hrefiled.append hrefiled'
    · rw [List.map_cons, List.sum_cons]
      exact hpassage.trans hpassage'

/-- Trying the commitments held back again. -/
theorem each_retry_spec {t : Track α φ} (h : t.Ready) {es : List (Commitment α)}
    (hphase : ∀ e ∈ es, e.phase ≠ .full) :
    ∃ held, Refiled (es.map (·.caughtUp t.position)) (Outcome.trace retry retryFiling es t) held ∧
      Passage t (Outcome.each retry es t).state (Outcome.trace retry retryFiling es t) held 0 := by
  have hstep : ∀ e ∈ es, ∀ t' : Track α φ, t'.Ready → t'.position = t.position →
      t'.increment = t.increment → ∃ held, Refiled [e.caughtUp t.position] (retryFiling e t') held ∧
        Passage t' (retry e t').state (retryFiling e t') held 0 := by
    intro e he t' h' hposition _
    have hphase' : (e.caughtUp t.position).phase ≠ .full := by
      simp only [Commitment.caughtUp]
      split <;> exact hphase e he
    rw [retryFiling, retry, hposition]
    exact rollOver_spec h' _ hphase'
  obtain ⟨held, hrefiled, hpassage⟩ := each_passage hstep h rfl rfl
  rw [← List.map_eq_flatMap] at hrefiled
  rw [List.sum_eq_zero (by simp)] at hpassage
  exact ⟨held, hrefiled, hpassage⟩

theorem passage_retire {t : Track α φ} (h : t.Ready) (id : Option Nat) (position : Nat) :
    Passage t (record .retire id position none { t with
      pending := t.pending - 1
      counters := { t.counters with retired := t.counters.retired + 1 } }) [] [] 1 := by
  refine ⟨⟨h.sane, h.factory⟩, rfl, rfl, rfl, rfl, ?_, fun id hid => Or.inl hid, ?_, rfl, rfl, rfl⟩
  · intro id
    exact (List.append_nil _).symm
  · exact (List.append_nil _).symm

/-- What a drain does not exhaust is filed again as it goes on. -/
theorem settle_onward (t : Track α φ) (position : Nat) {e : Commitment α}
    (h : ¬ e.supply.isExhausted = true) :
    (settle position e t).state = (t.rollOver (e.onward position t.increment)).state := by
  rw [settle, if_neg h, Commitment.onward]
  simp only
  split
  · rfl
  · rfl

theorem settle_spec {t : Track α φ} (h : t.Ready) (position : Nat) (e : Commitment α) :
    ∃ held, Refiled (if e.supply.isExhausted then [] else [e.onward position t.increment])
        (settleFiling position e t) held ∧
      Passage t (settle position e t).state (settleFiling position e t) held
        (if e.supply.isExhausted then 1 else 0) := by
  by_cases hexhausted : e.supply.isExhausted = true
  · refine ⟨[], ?_, ?_⟩
    · rw [if_pos hexhausted, settleFiling, if_pos hexhausted]
      exact .nil
    · rw [settleFiling, if_pos hexhausted, if_pos hexhausted, settle, if_pos hexhausted]
      exact passage_retire h e.id position
  · rw [settleFiling, if_neg hexhausted, if_neg hexhausted, if_neg hexhausted,
      settle_onward t position hexhausted]
    exact rollOver_spec h _ (e.onward_begun position t.increment)

/-- What becomes of the commitments of a drained bucket: the exhausted ones are retired, and the
others are filed again. -/
theorem each_settle_spec {t : Track α φ} (h : t.Ready) (position : Nat) (es : List (Commitment α)) :
    ∃ held, Refiled ((es.filter (!·.supply.isExhausted)).map (·.onward position t.increment))
        (Outcome.trace (settle position) (settleFiling position) es t) held ∧
      Passage t (Outcome.each (settle position) es t).state
        (Outcome.trace (settle position) (settleFiling position) es t) held
        (es.filter (·.supply.isExhausted)).length := by
  have hstep : ∀ e ∈ es, ∀ t' : Track α φ, t'.Ready → t'.position = t.position →
      t'.increment = t.increment →
      ∃ held, Refiled (if e.supply.isExhausted then [] else [e.onward position t.increment])
          (settleFiling position e t') held ∧
        Passage t' (settle position e t').state (settleFiling position e t') held
          (if e.supply.isExhausted then 1 else 0) := by
    intro e _ t' h' _ hincrement
    rw [← hincrement]
    exact settle_spec h' position e
  obtain ⟨held, hrefiled, hpassage⟩ := each_passage hstep h rfl rfl
  refine ⟨held, ?_, ?_⟩
  · rw [Commitment.map_filter_unexhausted]
    exact hrefiled
  · have hgone : (es.filter (·.supply.isExhausted)).length =
        (es.map fun e => if e.supply.isExhausted then 1 else 0).sum := by
      clear hstep hrefiled hpassage
      induction es with
      | nil => rfl
      | cons e es ih => cases he : e.supply.isExhausted <;> simp [he, ih, Nat.add_comm]
    rw [hgone]
    exact hpassage

end Track
end BucketClock
