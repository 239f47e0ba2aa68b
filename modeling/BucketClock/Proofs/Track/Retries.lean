import BucketClock.Proofs.Track.Atomic
import BucketClock.Proofs.Track.TickOutcome

/-!
Rollovers that failed. A commitment that the store refuses is handed back and
held on the track with the bucket that was chosen for it. Every tick begins by
trying each commitment held back once more, in order, in its bucket or in the
current one if that has passed; those that are refused again keep their order
and stay ahead of what the same tick holds back.

Main statements: `retryDeferred_notes` and `retryDeferred_refiled` for the
retries, `nextFrame_holds` for what a tick leaves on the list.
-/

namespace BucketClock

/-! ## What notes tell -/

namespace Note

def lookedUp? : Note → Option Nat
  | .called (.get id) _ => some id
  | _ => none

def consulted? : Note → Option Rollover
  | .consulted _ r => some r
  | _ => none

end Note

namespace Store

variable {α φ : Type} [Outage φ]

/-- A commit looks one bucket up and asks no policy. -/
theorem commit_notes (factory : Nat → Bucket α) (e : Commitment α) (s : Store α φ) :
    (s.commit factory e).notes.filterMap Note.lookedUp? = [e.deliveryTime] ∧
      (s.commit factory e).notes.filterMap Note.consulted? = [] := by
  have hfetch : ∃ reply, (s.fetch factory e.deliveryTime).notes =
      [.called (.get e.deliveryTime) reply] := by
    simp only [fetch, get]
    cases (Outage.meet s.outage (.get e.deliveryTime)).1 with
    | some f => exact ⟨_, rfl⟩
    | none =>
      simp only
      split
      · exact ⟨_, rfl⟩
      · exact ⟨_, rfl⟩
      · exact ⟨_, rfl⟩
  have hassign : ∀ s : Store α φ, ∃ reply, (s.assign e).notes =
      [.called (.assign e.deliveryTime) reply] := by
    intro s
    simp only [assign]
    split
    · exact ⟨_, rfl⟩
    · exact ⟨_, rfl⟩
  have hsave : ∀ (slot : Slot) (s : Store α φ), ∃ id reply, (s.save slot).notes =
      [.called (.save id) reply] := by
    intro slot s
    simp only [save]
    split
    · exact ⟨_, _, rfl⟩
    · exact ⟨_, _, rfl⟩
  have hlookedUp : ∀ (slot : Slot) (s : Store α φ),
      (s.save slot).notes.filterMap Note.lookedUp? = [] := by
    intro slot s
    obtain ⟨id, reply, hsaved⟩ := hsave slot s
    rw [hsaved]
    rfl
  have hconsulted : ∀ (slot : Slot) (s : Store α φ),
      (s.save slot).notes.filterMap Note.consulted? = [] := by
    intro slot s
    obtain ⟨id, reply, hsaved⟩ := hsave slot s
    rw [hsaved]
    rfl
  obtain ⟨reply, hfetched⟩ := hfetch
  obtain ⟨reply', hassigned⟩ := hassign (s.fetch factory e.deliveryTime).state
  simp only [commit, hfetched, hassigned]
  split
  · exact ⟨rfl, rfl⟩
  · split
    · exact ⟨rfl, rfl⟩
    · split
      · simp only [List.filterMap_append, hlookedUp, hconsulted]
        exact ⟨rfl, rfl⟩
      · simp only [List.filterMap_append, hlookedUp, hconsulted]
        exact ⟨rfl, rfl⟩

end Store

namespace Track

open Commitment (Refiled)

variable {α φ : Type} [Outage φ]

/-! ## Commitments handed back -/

def handedBack (e : Commitment α) (t : Track α φ) : List (Commitment α) :=
  match (t.store.commit t.timeline.factory e).value with
  | .ok _ => []
  | .error refusal => refusal.event.toList

def retryHeld (e : Commitment α) (t : Track α φ) : List (Commitment α) :=
  t.handedBack (e.caughtUp t.position)

def settleHeld (position : Nat) (e : Commitment α) (t : Track α φ) : List (Commitment α) :=
  if e.supply.isExhausted then [] else t.handedBack (e.onward position t.increment)

def retriesHeld (t : Track α φ) : List (Commitment α) :=
  Outcome.trace retry retryHeld t.cleared.stranded { t.cleared with stranded := [] }

def drainHeld (slot : Slot) (t : Track α φ) : List (Commitment α) :=
  let moved := ((t.store.bucket slot).deliverWith t.frameWidth).state.takeEvents
  Outcome.trace (settle t.position) (settleHeld t.position) moved.1
    { t with store := t.store.update slot moved.2 }

def settlesHeld (t : Track α φ) : List (Commitment α) :=
  let retried := t.retryDeferred.state
  if retried.pending = 0 then []
  else
    match retried.takeBucket.value with
    | .error _ => []
    | .ok slot => retried.takeBucket.state.drainHeld slot

theorem place_holds (e : Commitment α) (t : Track α φ) :
    (t.place e).state.stranded = t.stranded ∧
      (t.place e).value = match (t.store.commit t.timeline.factory e).value with
        | .ok _ => .ok ()
        | .error refusal => .error refusal := by
  simp only [place]
  split
  · next refusal hv =>
    rw [hv]
    exact ⟨rfl, rfl⟩
  · next id hv =>
    rw [hv]
    split
    · exact ⟨rfl, rfl⟩
    · exact ⟨rfl, rfl⟩

theorem rollOver_holds (e : Commitment α) (t : Track α φ) :
    (t.rollOver e).state.stranded = t.stranded ++ t.handedBack e := by
  obtain ⟨hstranded, hvalue⟩ := place_holds e t
  simp only [rollOver, handedBack]
  cases hv : (t.store.commit t.timeline.factory e).value with
  | ok id =>
    rw [hv] at hvalue
    rw [hvalue, List.append_nil]
    exact hstranded
  | error refusal =>
    rw [hv] at hvalue
    rw [hvalue]
    obtain ⟨error, event⟩ := refusal
    cases event with
    | none => exact hstranded.trans (List.append_nil _).symm
    | some e' => exact congrArg (· ++ [e']) hstranded

theorem settle_holds (position : Nat) (e : Commitment α) (t : Track α φ) :
    (t.settle position e).state.stranded = t.stranded ++ settleHeld position e t := by
  by_cases hexhausted : e.supply.isExhausted = true
  · rw [settle, if_pos hexhausted, settleHeld, if_pos hexhausted, List.append_nil]
    rfl
  · rw [settle_onward t position hexhausted, settleHeld, if_neg hexhausted]
    exact rollOver_holds _ t

theorem removeBucket_holds (id : Nat) (t : Track α φ) :
    (t.removeBucket id).state.stranded = t.stranded := by
  obtain ⟨_, _, hsame⟩ := removeBucket_same id t
  rw [hsame]

theorem cleared_stranded (t : Track α φ) : t.cleared.stranded = t.stranded :=
  Outcome.each_keeps stranded removeBucket_holds t.stale { t with stale := [] }

/-- After the retries of a tick exactly what was refused again is held back. -/
theorem retryDeferred_holds (t : Track α φ) : t.retryDeferred.state.stranded = t.retriesHeld :=
  Outcome.each_appends stranded (fun _ t => rollOver_holds _ t) t.cleared.stranded
    { t.cleared with stranded := [] }

theorem takeBucket_holds (t : Track α φ) : t.takeBucket.state.stranded = t.stranded := by
  obtain ⟨_, _, hsame⟩ := takeBucket_same t
  rw [hsame]

theorem drain_holds (slot : Slot) (t : Track α φ) :
    (t.drain slot).state.stranded = t.stranded ++ t.drainHeld slot :=
  (removeBucket_holds _ _).trans (Outcome.each_appends stranded (settle_holds t.position) _ _)

/-- What a tick holds back anew stands behind what it tried again. -/
theorem nextFrame_holds (t : Track α φ) :
    t.nextFrame.state.stranded = t.retriesHeld ++ t.settlesHeld := by
  simp only [nextFrame, settlesHeld]
  split
  · exact (retryDeferred_holds t).trans (List.append_nil _).symm
  · cases hvalue : t.retryDeferred.state.takeBucket.value with
    | error error =>
      exact (takeBucket_holds _).trans ((retryDeferred_holds t).trans (List.append_nil _).symm)
    | ok slot =>
      refine (drain_holds slot _).trans ?_
      rw [takeBucket_holds, retryDeferred_holds]

/-! ## The calls of the retries -/

theorem place_notes (e : Commitment α) (t : Track α φ) :
    (t.place e).notes.filterMap Note.lookedUp? = [e.deliveryTime] ∧
      (t.place e).notes.filterMap Note.consulted? = [] := by
  obtain ⟨hlookedUp, hconsulted⟩ := Store.commit_notes t.timeline.factory e t.store
  simp only [place]
  split
  · exact ⟨hlookedUp, hconsulted⟩
  · split
    all_goals
      simp only [List.filterMap_append, hlookedUp, hconsulted]
      exact ⟨rfl, rfl⟩

theorem rollOver_notes (e : Commitment α) (t : Track α φ) :
    (t.rollOver e).notes.filterMap Note.lookedUp? = [e.deliveryTime] ∧
      (t.rollOver e).notes.filterMap Note.consulted? = [] := by
  obtain ⟨hlookedUp, hconsulted⟩ := t.place_notes e
  simp only [rollOver]
  split
  · exact ⟨hlookedUp, hconsulted⟩
  · split
    all_goals
      simp only [List.filterMap_append, hlookedUp, hconsulted]
      exact ⟨rfl, rfl⟩

theorem removeBucket_notes (id : Nat) (t : Track α φ) :
    (t.removeBucket id).notes.filterMap Note.lookedUp? = [] ∧
      (t.removeBucket id).notes.filterMap Note.consulted? = [] := by
  have hremove : ∃ reply, (t.store.remove id).notes = [.called (.remove id) reply] := by
    simp only [Store.remove]
    split
    · exact ⟨_, rfl⟩
    · exact ⟨_, rfl⟩
  obtain ⟨reply, hremove⟩ := hremove
  simp only [removeBucket]
  split
  · simp only [hremove]
    exact ⟨rfl, rfl⟩
  · simp only [hremove]
    exact ⟨rfl, rfl⟩

theorem each_removeBucket_notes (ids : List Nat) (t : Track α φ) :
    (Outcome.each removeBucket ids t).notes.filterMap Note.lookedUp? = [] ∧
      (Outcome.each removeBucket ids t).notes.filterMap Note.consulted? = [] := by
  induction ids generalizing t with
  | nil => exact ⟨rfl, rfl⟩
  | cons id ids ih =>
    obtain ⟨hlookedUp, hconsulted⟩ := removeBucket_notes id t
    obtain ⟨hlookedUp', hconsulted'⟩ := ih (t.removeBucket id).state
    simp only [Outcome.each, Outcome.after, List.filterMap_append, hlookedUp, hconsulted,
      hlookedUp', hconsulted']
    exact ⟨rfl, rfl⟩

theorem retry_position (e : Commitment α) (t : Track α φ) :
    (t.retry e).state.position = t.position :=
  congrArg (·.2.1) (retry_base e t)

theorem each_retry_notes (es : List (Commitment α)) (t : Track α φ) :
    (Outcome.each retry es t).notes.filterMap Note.lookedUp? =
        es.map (fun e => max e.deliveryTime t.position) ∧
      (Outcome.each retry es t).notes.filterMap Note.consulted? = [] := by
  induction es generalizing t with
  | nil => exact ⟨rfl, rfl⟩
  | cons e es ih =>
    have hbucket : (e.caughtUp t.position).deliveryTime = max e.deliveryTime t.position := by
      rw [e.caughtUp_eq]
    obtain ⟨hlookedUp, hconsulted⟩ := rollOver_notes (e.caughtUp t.position) t
    obtain ⟨hlookedUp', hconsulted'⟩ := ih (t.retry e).state
    rw [retry_position] at hlookedUp'
    rw [hbucket] at hlookedUp
    have hnotes : (Outcome.each retry (e :: es) t).notes =
        (t.rollOver (e.caughtUp t.position)).notes ++
          (Outcome.each retry es (t.retry e).state).notes := rfl
    rw [hnotes, List.filterMap_append, List.filterMap_append, hlookedUp, hlookedUp', hconsulted,
      hconsulted']
    exact ⟨rfl, rfl⟩

theorem removeBucket_position (id : Nat) (t : Track α φ) :
    (t.removeBucket id).state.position = t.position := by
  obtain ⟨_, _, hsame⟩ := removeBucket_same id t
  rw [hsame]

theorem cleared_position (t : Track α φ) : t.cleared.position = t.position :=
  Outcome.each_keeps position removeBucket_position t.stale { t with stale := [] }

/-- The retries of a tick look up one bucket for each commitment held back, and ask no policy. -/
theorem retryDeferred_notes (t : Track α φ) :
    t.retryDeferred.notes.filterMap Note.lookedUp? =
        t.stranded.map (fun e => max e.deliveryTime t.position) ∧
      t.retryDeferred.notes.filterMap Note.consulted? = [] := by
  have hnotes : t.retryDeferred.notes =
      (Outcome.each removeBucket t.stale { t with stale := [] }).notes ++
        (Outcome.each retry t.cleared.stranded { t.cleared with stranded := [] }).notes := rfl
  obtain ⟨hlookedUp, hconsulted⟩ := each_removeBucket_notes t.stale { t with stale := [] }
  obtain ⟨hlookedUp', hconsulted'⟩ :=
    each_retry_notes t.cleared.stranded { t.cleared with stranded := [] }
  have hposition : ({ t.cleared with stranded := [] } : Track α φ).position = t.position :=
    cleared_position t
  rw [cleared_stranded, hposition] at hlookedUp'
  rw [hnotes, List.filterMap_append, List.filterMap_append, hlookedUp, hconsulted,
    cleared_stranded, hlookedUp', ← cleared_stranded t, hconsulted']
  exact ⟨rfl, rfl⟩

/-- A tick begins with its retries. -/
theorem nextFrame_notes (t : Track α φ) :
    ∃ rest, t.nextFrame.notes = t.retryDeferred.notes ++ rest := by
  simp only [nextFrame]
  split
  · exact ⟨[], (List.append_nil _).symm⟩
  · split
    · exact ⟨_, rfl⟩
    · exact ⟨_, List.append_assoc _ _ _⟩

/-! ## Each is filed or held again -/

/-- From `u` to `t` commitments were filed one by one. -/
structure Filing (u t : Track α φ) : Prop where
  sturdy : t.store.Sturdy
  base : t.base = u.base
  settings : t.settings = u.settings

theorem Filing.refl {u : Track α φ} (h : u.store.Sturdy) : Filing u u := ⟨h, rfl, rfl⟩

theorem Filing.position {u t : Track α φ} (h : Filing u t) : t.position = u.position :=
  congrArg (·.2.1) h.base

theorem Filing.timeline {u t : Track α φ} (h : Filing u t) : t.timeline = u.timeline :=
  congrArg (·.1) h.base

theorem Filing.increment {u t : Track α φ} (h : Filing u t) : t.increment = u.increment :=
  congrArg (·.2) h.settings

theorem Filing.rollOver {u t : Track α φ} (h : Filing u t) (e : Commitment α) :
    Filing u (t.rollOver e).state :=
  ⟨rollOver_sturdy h.sturdy e, (rollOver_base e t).trans h.base,
    (rollOver_settings e t).trans h.settings⟩

theorem Filing.settle {u t : Track α φ} (h : Filing u t) (position : Nat) (e : Commitment α) :
    Filing u (t.settle position e).state := by
  by_cases hexhausted : e.supply.isExhausted = true
  · rw [Track.settle, if_pos hexhausted]
    exact ⟨h.sturdy, h.base, h.settings⟩
  · rw [settle_onward t position hexhausted]
    exact h.rollOver _

theorem rollOver_refiled {t : Track α φ} (h : t.store.Sturdy) (e : Commitment α) :
    Refiled [e] (t.filing e) (t.handedBack e) := by
  have hcommitted := Store.commit_committed h.orderly h.keeps t.timeline.factory e
  simp only [filing, handedBack]
  generalize (t.store.commit t.timeline.factory e).value = value,
    (t.store.commit t.timeline.factory e).state = s at hcommitted
  cases hcommitted with
  | done _ hid _ _ _ _ => exact .filed hid .nil
  | failed _ hid _ _ _ _ => exact .held hid .nil

/-- A loop files each commitment or hands it back, in order, if its step does. -/
theorem each_refiled {step : Commitment α → Track α φ → Outcome (Track α φ) Unit}
    {see held : Commitment α → Track α φ → List (Commitment α)}
    {target : Commitment α → List (Commitment α)} {u : Track α φ}
    (hkeeps : ∀ e t, Filing u t → Filing u (step e t).state)
    (hstep : ∀ e t, Filing u t → Refiled (target e) (see e t) (held e t))
    (es : List (Commitment α)) {t : Track α φ} (h : Filing u t) :
    Refiled (es.flatMap target) (Outcome.trace step see es t) (Outcome.trace step held es t) := by
  induction es generalizing t with
  | nil => exact .nil
  | cons e es ih =>
    rw [List.flatMap_cons]
    exact (hstep e t h).append (ih (hkeeps e t h))

theorem each_retry_refiled {u : Track α φ} (h : u.store.Sturdy) (es : List (Commitment α)) :
    Refiled (es.map (·.caughtUp u.position)) (Outcome.trace retry retryFiling es u)
      (Outcome.trace retry retryHeld es u) := by
  rw [List.map_eq_flatMap]
  refine each_refiled (fun _ _ ht => ht.rollOver _) ?_ es (.refl h)
  intro e t ht
  rw [retryFiling, retryHeld, ht.position]
  exact rollOver_refiled ht.sturdy _

theorem each_settle_refiled {u : Track α φ} (h : u.store.Sturdy) (position : Nat)
    (es : List (Commitment α)) :
    Refiled ((es.filter (!·.supply.isExhausted)).map (·.onward position u.increment))
      (Outcome.trace (settle position) (settleFiling position) es u)
      (Outcome.trace (settle position) (settleHeld position) es u) := by
  rw [Commitment.map_filter_unexhausted]
  refine each_refiled (fun e _ ht => ht.settle position e) ?_ es (.refl h)
  intro e t ht
  rw [settleFiling, settleHeld, ht.increment]
  split
  · exact .nil
  · exact rollOver_refiled ht.sturdy _

/-- Trying the commitments held back: each is filed or held again. -/
theorem retryDeferred_refiled {t : Track α φ} (h : t.store.Sturdy) :
    Refiled (t.stranded.map (·.caughtUp t.position)) t.retryFilings t.retriesHeld := by
  have hrefiled := each_retry_refiled (u := { t.cleared with stranded := [] }) (cleared_sturdy h)
    t.cleared.stranded
  have hposition : ({ t.cleared with stranded := [] } : Track α φ).position = t.position :=
    cleared_position t
  rw [hposition] at hrefiled
  rw [← cleared_stranded t]
  exact hrefiled

/-! ## Where they are filed -/

/-- Where missing buckets are made empty, what is filed stands behind what its bucket holds. -/
theorem rollOver_contents {t : Track α φ} (h : t.store.Sturdy)
    (hfactory : t.timeline.factory = Bucket.empty) (e : Commitment α) (id : Nat) :
    (t.rollOver e).state.store.contents id =
      t.store.contents id ++ Commitment.dueAt id (t.filing e) := by
  rw [rollOver_store, filing, hfactory]
  exact (Store.commit_committed h.orderly h.keeps .empty e).contents h.orderly id

theorem each_retry_contents {u : Track α φ} (h : u.store.Sturdy)
    (hfactory : u.timeline.factory = Bucket.empty) (es : List (Commitment α)) (id : Nat) :
    (Outcome.each retry es u).state.store.contents id = u.store.contents id ++
      Commitment.dueAt id (Outcome.trace retry retryFiling es u) := by
  rw [Commitment.dueAt, Outcome.trace_hom (f := List.filter _) rfl List.filter_append]
  refine Outcome.each_appends_of (P := Filing u) (fun t => t.store.contents id)
    (fun _ _ ht => ht.rollOver _) ?_ es (.refl h)
  intro e t ht
  exact rollOver_contents ht.sturdy (ht.timeline ▸ hfactory) _ id

end Track
end BucketClock
