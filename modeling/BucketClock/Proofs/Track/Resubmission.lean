import BucketClock.Proofs.Track.Atomic
import BucketClock.Proofs.Track.Seeded
import BucketClock.Proofs.Track.RetryLaw

/-!
Commitments handed in again. Whoever holds a stored bucket can take commitments
out of it, and later submit them again, when the clock has moved on. Over a
store that never fails a track accepts every commitment that is not exhausted. A
full one is filed in a bucket after the clock. One that was drawn from before is
filed in the bucket it asks for, even if that has passed.

What is filed at the clock or after it is drained by the tick that gets there
(`Running.awaited`); what is filed behind the clock stays where it is
(`Running.behind`).

Main statement: `resubmission`. A commitment filed behind the clock is shown by
`resubmission_behind`.
-/

namespace BucketClock

/-! ## Orderly stores in other hands -/

namespace Store

variable {α φ : Type}

/-- Storing a slot that was made. -/
theorem Orderly.put {s : Store α φ} (h : s.Orderly) {slot : Slot} (hmade : slot < s.nextSlot) :
    (s.put slot).Orderly := by
  have hlookup : ∀ j, (s.put slot).lookup j =
      if j = (s.bucket slot).id then some slot else s.lookup j :=
    fun j => Shelf.find?_insert _ j slot s.shelf
  refine ⟨Shelf.keys_insert_sorted h.sorted _ _, ?_, ?_⟩
  · intro j i hi
    rw [hlookup] at hi
    split at hi
    · rw [← Option.some.inj hi]
      exact hmade
    · exact h.made j i hi
  · intro j i hi
    rw [hlookup] at hi
    split at hi
    · next heq =>
      rw [← Option.some.inj hi, heq]
      rfl
    · exact h.own j i hi

theorem Orderly.add {s : Store α φ} (h : s.Orderly) (b : Bucket α) : (s.add b).Orderly := by
  have hmade : (s.make b).2.Orderly := by
    refine h.kept rfl (Nat.le_succ _) fun i hi => ?_
    rw [bucket_make, if_neg (Nat.ne_of_gt hi)]
  exact hmade.put (Nat.lt_succ_self _)

/-- Changing what is filed in a bucket. -/
theorem Orderly.alter {s : Store α φ} (h : s.Orderly) (slot : Slot)
    (events : List (Commitment α)) :
    (s.update slot { s.bucket slot with events := events }).Orderly := by
  refine h.kept rfl (Nat.le_refl _) fun i _ => ?_
  rw [bucket_update]
  split
  · next heq => rw [heq]
  · rfl

end Store

namespace Track

open Commitment (dueAt)

variable {α : Type}

/-! ## What is done with a track and its store -/

/-- A request, or what the holder of a bucket or of the store does besides the track: change what
is filed in a bucket, store a bucket it holds or a new one, or remove one. -/
inductive Action (α : Type)
  | ask (r : Request α)
  | alter (slot : Slot) (events : List (Commitment α))
  | keep (slot : Slot)
  | add (b : Bucket α)
  | remove (id : Nat)

def act (t : Track α Unit) : Action α → Track α Unit
  | .ask r => t.perform r
  | .alter slot events =>
    { t with store := t.store.update slot { t.store.bucket slot with events := events } }
  | .keep slot => if slot < t.store.nextSlot then { t with store := t.store.put slot } else t
  | .add b => { t with store := t.store.add b }
  | .remove id => { t with store := t.store.erase id }

def actAll (t : Track α Unit) (as : List (Action α)) : Track α Unit := as.foldl act t

/-- A track over a store that never fails, with its window at the clock. -/
structure Running (t : Track α Unit) : Prop where
  calm : t.Calm
  window : t.timeline.window.At t.position
  inRange : t.position ≤ Index.last

theorem Hosted.running {t : Track α Unit} (h : t.Hosted) (horderly : t.store.Orderly) :
    t.Running := by
  induction h with
  | ofStore s => exact ⟨⟨horderly, rfl, rfl, rfl⟩, ⟨rfl, rfl, rfl⟩, Nat.zero_le _⟩
  | withName _ _ ih | withFrameWidth _ _ ih | withIncrement _ _ ih | withAudit _ _ ih
  | stamped _ _ ih =>
    obtain ⟨⟨horderly, hfactory, hstranded, hstale⟩, hwindow, hrange⟩ := ih horderly
    exact ⟨⟨horderly, hfactory, hstranded, hstale⟩, hwindow, hrange⟩

/-- The store may be exchanged for another orderly one. -/
theorem Running.withStore {t : Track α Unit} (h : t.Running) {s : Store α Unit}
    (hs : s.Orderly) : Running { t with store := s } :=
  ⟨⟨hs, h.calm.factory, h.calm.stranded, h.calm.stale⟩, h.window, h.inRange⟩

/-! ## One tick -/

/-- How a tick ends: with nothing pending or no bucket left it changes no contents, and otherwise
it drains the bucket at the clock and adds what it files to later buckets. -/
inductive Ticks (t : Track α Unit) : Prop
  | still (frameless : ∀ frame, t.nextFrame.value ≠ .ok (some frame))
      (position : t.nextFrame.state.position = t.position)
      (store : t.nextFrame.state.store = t.store)
  | framed {frame : List α} {filed : List (Commitment α)}
      (value : t.nextFrame.value = .ok (some frame))
      (position : t.nextFrame.state.position = t.position + 1)
      (contents : ∀ id, t.nextFrame.state.store.contents id =
        if id = t.position then [] else t.store.contents id ++ dueAt id filed)

theorem Running.tick {t : Track α Unit} (h : t.Running) :
    t.nextFrame.state.Running ∧ Ticks t := by
  obtain ⟨hcalm, hwindow, hrange⟩ := h
  by_cases hpending : t.pending = 0
  · obtain ⟨hvalue, hstate, _, _, _⟩ := hcalm.tick_idle hpending
    rw [hstate]
    refine ⟨⟨hcalm, hwindow, hrange⟩, .still ?_ (by rw [hstate]) (by rw [hstate])⟩
    intro frame hframe
    rw [hvalue] at hframe
    cases hframe
  · rcases Nat.lt_or_eq_of_le hrange with hlt | hlast
    · obtain ⟨slot, store, window, hvalue, hstate, horderly, hcontents, hserves, hwindow'⟩ :=
        takeBucket_fetched hcalm hwindow hlt
      obtain ⟨hframe, hnext, _, _, _⟩ := hcalm.tick_drains hpending hvalue
      rw [hstate] at hnext
      have hcalm' : Calm { t with store := store, timeline := { t.timeline with window := window } } :=
        ⟨horderly, hcalm.factory, hcalm.stranded, hcalm.stale⟩
      obtain ⟨_, _, _, _, hemptied⟩ := drain_course hcalm' hserves.own hlt
      rw [← hnext] at hemptied
      have hposition : t.nextFrame.state.position = t.position + 1 := hemptied.position
      have hdrained := hemptied.contents
      simp only [hcontents] at hdrained
      refine ⟨⟨hemptied.calm, ?_, ?_⟩, .framed hframe hposition hdrained⟩
      · rw [hemptied.timeline, hposition]
        exact hwindow'
      · rw [hposition]
        exact hlt
    · obtain ⟨hvalue, window, hstate, hwindow'⟩ := takeBucket_last hwindow.atHand hlast
      obtain ⟨hframe, hnext, _, _, _⟩ := hcalm.tick_refused hpending hvalue
      rw [hstate] at hnext
      rw [hnext]
      refine ⟨⟨⟨hcalm.orderly, hcalm.factory, hcalm.stranded, hcalm.stale⟩, hwindow'.at, hrange⟩,
        .still ?_ (by rw [hnext]) (by rw [hnext])⟩
      intro frame hsome
      rw [hframe] at hsome
      cases hsome

/-! ## Every reachable state -/

/-- A commitment that is not exhausted is accepted and filed where it is admitted. -/
theorem Running.schedule {t : Track α Unit} (h : t.Running) {e : Commitment α}
    (hphase : e.phase ≠ .exhausted) :
    (t.schedule e).value = .ok () ∧ (t.schedule e).state.Running ∧
      (t.schedule e).state.position = t.position ∧
      Store.Appended (t.identified (e.admitted t.position)) t.store (t.schedule e).state.store := by
  obtain ⟨hcalm, hwindow, hrange⟩ := h
  obtain ⟨s, hfiled, hvalue, hstate⟩ := place_calm hcalm (e.admitted t.position)
  obtain ⟨hvalue', hstate'⟩ := t.schedule_place hphase
  have hcounted : (t.schedule e).state = t.counted (e.admitted t.position)
      (t.identified (e.admitted t.position)).id s := hstate'.trans hstate
  rw [hcounted, hvalue', hvalue]
  simp only [counted]
  split
  · exact ⟨rfl, ⟨⟨hfiled.orderly, hcalm.factory, hcalm.stranded, hcalm.stale⟩, hwindow, hrange⟩,
      rfl, hfiled⟩
  · exact ⟨rfl, ⟨⟨hfiled.orderly, hcalm.factory, hcalm.stranded, hcalm.stale⟩, hwindow, hrange⟩,
      rfl, hfiled⟩

theorem Running.perform {t : Track α Unit} (h : t.Running) (r : Request α) :
    (t.perform r).Running := by
  cases r with
  | tick => exact h.tick.1
  | schedule e =>
    by_cases hphase : e.phase = .exhausted
    · rw [Track.perform, t.schedule_exhausted (e := t.numbered e) hphase]
      exact h
    · exact (h.schedule (e := t.numbered e) hphase).2.1

theorem Running.act {t : Track α Unit} (h : t.Running) (a : Action α) : (t.act a).Running := by
  have horderly := h.calm.orderly
  cases a with
  | ask r => exact h.perform r
  | alter slot events => exact h.withStore (horderly.alter slot events)
  | keep slot =>
    by_cases hmade : slot < t.store.nextSlot
    · rw [Track.act, if_pos hmade]
      exact h.withStore (horderly.put hmade)
    · rw [Track.act, if_neg hmade]
      exact h
  | add b => exact h.withStore (horderly.add b)
  | remove id => exact h.withStore (horderly.erase id).1

theorem Running.actAll {t : Track α Unit} (h : t.Running) (as : List (Action α)) :
    (t.actAll as).Running := by
  induction as generalizing t with
  | nil => exact h
  | cons a as ih => exact ih (h.act a)

/-! ## What becomes of a commitment that was filed -/

/-- Requests keep a commitment where it is filed, unless a tick drains its bucket. -/
theorem Running.request {t : Track α Unit} (h : t.Running) {e : Commitment α} {bucket : Nat}
    (he : e ∈ t.store.contents bucket) (r : Request α) :
    (e ∈ (t.perform r).store.contents bucket ∧
        ((t.perform r).position = t.position ∨ t.position ≠ bucket ∧
          (t.perform r).position = t.position + 1)) ∨
      r = .tick ∧ t.position = bucket ∧ ∃ frame, t.nextFrame.value = .ok (some frame) := by
  cases r with
  | schedule e' =>
    by_cases hphase : e'.phase = .exhausted
    · rw [Track.perform, t.schedule_exhausted (e := t.numbered e') hphase]
      exact Or.inl ⟨he, Or.inl rfl⟩
    · obtain ⟨_, _, hposition, hfiled⟩ := h.schedule (e := t.numbered e') hphase
      refine Or.inl ⟨?_, Or.inl hposition⟩
      rw [Track.perform, hfiled.contents_dueAt]
      exact List.mem_append_left _ he
  | tick =>
    cases h.tick.2 with
    | still _ hposition hstore =>
      refine Or.inl ⟨?_, Or.inl hposition⟩
      rw [Track.perform, hstore]
      exact he
    | framed hvalue hposition hcontents =>
      by_cases hbucket : t.position = bucket
      · exact Or.inr ⟨rfl, hbucket, _, hvalue⟩
      · refine Or.inl ⟨?_, Or.inr ⟨hbucket, hposition⟩⟩
        rw [Track.perform, hcontents, if_neg (Ne.symm hbucket)]
        exact List.mem_append_left _ he

/-- A commitment in a bucket at the clock or after it waits there, or some tick of the run drained
the bucket with the commitment in it. -/
inductive Awaited (e : Commitment α) (bucket : Nat) (t : Track α Unit) (rs : List (Request α)) : Prop
  | waits (ahead : (t.run rs).position ≤ bucket) (filed : e ∈ (t.run rs).store.contents bucket)
  | drained {before after : List (Request α)} {frame : List α} (split : rs = before ++ .tick :: after)
      (position : (t.run before).position = bucket)
      (value : (t.run before).nextFrame.value = .ok (some frame)) (due : e ∈ (t.run before).due)

theorem Running.run {t : Track α Unit} (h : t.Running) (rs : List (Request α)) :
    (t.run rs).Running := by
  induction rs generalizing t with
  | nil => exact h
  | cons r rs ih => exact ih (h.perform r)

theorem Running.due {t : Track α Unit} (h : t.Running) : t.due = t.store.contents t.position := by
  rw [Track.due, h.calm.retryDeferred]

theorem Running.awaited {t : Track α Unit} (h : t.Running) {e : Commitment α} {bucket : Nat}
    (he : e ∈ t.store.contents bucket) (hahead : t.position ≤ bucket) (rs : List (Request α)) :
    Awaited e bucket t rs := by
  induction rs using List.reverseRecOn with
  | nil => exact .waits hahead he
  | append_singleton rs r ih =>
    cases ih with
    | drained hsplit hposition hvalue hdue =>
      exact .drained (by rw [hsplit, List.append_assoc]; rfl) hposition hvalue hdue
    | waits hahead' hfiled =>
      have hrun := h.run rs
      rcases hrun.request hfiled r with ⟨hstays, hposition⟩ | ⟨rfl, hposition, frame, hvalue⟩
      · rw [← run_snoc] at hstays hposition
        refine .waits ?_ hstays
        omega
      · have hsplit : rs ++ [.tick] = rs ++ .tick :: [] := rfl
        refine .drained hsplit hposition hvalue ?_
        rw [hrun.due, hposition]
        exact hfiled

/-- The clock has passed the bucket of the commitment, and no request moves it from there. -/
theorem Running.behind {t : Track α Unit} (h : t.Running) {e : Commitment α} {bucket : Nat}
    (he : e ∈ t.store.contents bucket) (hbehind : bucket < t.position) (rs : List (Request α)) :
    e ∈ (t.run rs).store.contents bucket ∧ bucket < (t.run rs).position := by
  induction rs generalizing t with
  | nil => exact ⟨he, hbehind⟩
  | cons r rs ih =>
    rcases h.request he r with ⟨hstays, hposition⟩ | ⟨_, hposition, _⟩
    · exact ih (h.perform r) hstays (by omega)
    · omega

/-! ## Where a commitment is filed -/

/-- The bucket that a commitment is filed in when it is submitted. -/
theorem admitted_bucket {position : Nat} (h : position ≤ Index.last) (e : Commitment α) :
    (e.admitted position).deliveryTime =
      if e.phase = .full then max e.deliveryTime (Index.next position) else e.deliveryTime := by
  have hle : position ≤ Index.next position := Index.le_add h
  have hnext : Index.next position ≤ position + 1 := Nat.min_le_left _ _
  unfold Commitment.admitted
  by_cases hfull : e.phase = .full
  · by_cases hlate : e.deliveryTime ≤ position
    · rw [if_pos ⟨hfull, hlate⟩, if_pos hfull]
      exact (Nat.max_eq_right (Nat.le_trans hlate hle)).symm
    · rw [if_neg fun hboth => hlate hboth.2, if_pos hfull]
      omega
  · rw [if_neg fun hboth => hfull hboth.1, if_neg hfull]

/-- Where submissions end up, in every state that requests and other hands lead to, over a store
that never fails. Every commitment that is not exhausted is accepted and stands last in a stored
bucket: a full one in the bucket it asks for or the next one, whichever is later; any other in the
bucket it asks for. That bucket is behind the clock only if the commitment is not full and asks for
one that has passed. If it is not behind the clock, the commitment waits there until a tick drains
the bucket; if it is, the commitment stays there and no tick reaches it. -/
theorem resubmission {t₀ : Track α Unit} (h : t₀.Hosted) (horderly : t₀.store.Orderly)
    (as : List (Action α)) {e : Commitment α} (hphase : e.phase ≠ .exhausted) :
    let t := t₀.actAll as
    let t' := (t.schedule e).state
    let bucket := if e.phase = .full then max e.deliveryTime (Index.next t.position)
      else e.deliveryTime
    (t.schedule e).value = .ok () ∧ t'.position = t.position ∧
      ∃ e', (e.retarget bucket).Identified e' ∧
        (∀ id, t'.store.contents id =
          if id = bucket then t.store.contents id ++ [e'] else t.store.contents id) ∧
        bucket ∈ t'.store.bucketIds ∧
        (t.position ≤ bucket ↔ e.phase = .full ∨ t.position ≤ e.deliveryTime) ∧
        (t.position ≤ bucket → ∀ rs, Awaited e' bucket t' rs) ∧
        (bucket < t.position → ∀ rs,
          e' ∈ (t'.run rs).store.contents bucket ∧ bucket < (t'.run rs).position) := by
  intro t t' bucket
  have hrunning : t.Running := (h.running horderly).actAll as
  obtain ⟨hvalue, hrunning', hposition, hfiled⟩ := hrunning.schedule hphase
  have hbucket : (e.admitted t.position).deliveryTime = bucket :=
    admitted_bucket hrunning.inRange e
  have hadmitted : e.admitted t.position = e.retarget bucket := by
    rw [e.admitted_eq t.position, hbucket]
    rfl
  rw [hadmitted] at hfiled
  have hcontents : ∀ id, t'.store.contents id = if id = bucket then
      t.store.contents id ++ [t.identified (e.retarget bucket)] else t.store.contents id :=
    hfiled.contents
  have hmem : t.identified (e.retarget bucket) ∈ t'.store.contents bucket := by
    rw [hcontents, if_pos rfl]
    exact List.mem_append_right _ List.mem_cons_self
  refine ⟨hvalue, hposition, t.identified (e.retarget bucket), identified_spec _, hcontents, ?_, ?_,
    ?_, ?_⟩
  · exact Store.mem_bucketIds_of_contents (List.ne_nil_of_mem hmem)
  · have hnext : t.position ≤ Index.next t.position := Index.le_add hrunning.inRange
    show t.position ≤ (if _ then _ else _) ↔ _
    split
    · next hfull => exact iff_of_true (Nat.le_trans hnext (Nat.le_max_right _ _)) (Or.inl hfull)
    · next hbegun => exact ⟨Or.inr, fun hor => hor.resolve_left hbegun⟩
  · intro hahead rs
    exact hrunning'.awaited hmem (hposition.symm ▸ hahead) rs
  · intro hbehind rs
    exact hrunning'.behind hmem (hposition.symm ▸ hbehind) rs

/-- A commitment of three items is drawn from once and rolled over to bucket 2. Then it is taken out
of there, and the clock moves on to 4. -/
def astray : List (Action Nat) :=
  [.ask (.schedule { deliveryTime := 1, supply := .ofList [1, 2, 3] }), .ask .tick, .ask .tick,
    .alter 2 [], .ask .tick, .ask .tick]

def strayed : Commitment Nat :=
  { id := some 1, deliveryTime := 2, supply := ((Supply.ofList [1, 2, 3]).take 1).state,
    phase := .notEmpty }

/-- Submitted again for bucket 5 it is filed there, and the second tick from then on drains it. -/
theorem resubmission_astray :
    let t := (ofStore (.empty ())).actAll astray
    let t' := (t.schedule (strayed.retarget 5)).state
    strayed.phase ≠ .exhausted ∧ t.position = 4 ∧
      (t.schedule (strayed.retarget 5)).value = .ok () ∧
      (t'.run [.tick, .tick]).position = 6 ∧
      ∃ e', (strayed.retarget 5).Identified e' ∧ Awaited e' 5 t' [.tick, .tick] := by
  have hphase : strayed.phase ≠ .exhausted := by decide
  have horderly : (Store.empty () : Store Nat Unit).Orderly :=
    (Store.sturdy_empty Outage.keepsEvents_unit).orderly
  obtain ⟨hvalue, _, e', hidentified, _, _, _, hawaited, _⟩ :=
    resubmission (.ofStore (.empty ())) horderly astray (e := strayed.retarget 5) hphase
  have hahead : ((ofStore (.empty () : Store Nat Unit)).actAll astray).position ≤ 5 := by
    decide +kernel
  exact ⟨hphase, by decide +kernel, hvalue, by decide +kernel, e', hidentified,
    hawaited hahead _⟩

/-- Submitted again as it is, it is filed behind the clock. -/
theorem resubmission_behind :
    let t := (ofStore (.empty ())).actAll astray
    ((ofStore (.empty ())).actAll (astray.take 3)).store.contents 2 = [strayed] ∧
      (t.schedule strayed).value = .ok () ∧ (t.schedule strayed).state.position = 4 ∧
      ((t.schedule strayed).state.store.stored.map fun b => (b.1, b.2.events.map (·.id))) =
        [(2, [some 1])] :=
  ⟨rfl, rfl, by decide +kernel, by decide +kernel⟩

end Track
end BucketClock
