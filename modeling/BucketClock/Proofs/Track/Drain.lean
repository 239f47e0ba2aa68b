import BucketClock.Proofs.Bucket
import BucketClock.Proofs.Track.Passage
import BucketClock.Proofs.Window

/-!
The drain of a bucket, part by part: the removal of empty buckets
(`each_removeBucket_spec`), the fetch of the next bucket (`takeBucket_spec`) and
the drain itself (`drain_spec`). Each part is described by what it does to the
contents of the store, whatever fails on the way.
-/

namespace BucketClock

namespace Track

open Commitment (Refiled dueAt survivors spent)

variable {α φ : Type} [Outage φ]

/-! ## Removing empty buckets -/

/-- From `t` to `t'` the given buckets were removed, or put on the list of those to remove. -/
structure Swept (t t' : Track α φ) (ids : List Nat) : Prop where
  same : ∃ store stale, t' = { t with store := store, stale := stale }
  sane : t'.store.Sane
  contents : ∀ id, t'.store.contents id = t.store.contents id
  stored : ∀ id ∈ t'.store.bucketIds, id ∈ t.store.bucketIds
  waiting : ∀ id ∈ t'.store.bucketIds, id ∈ ids → id ∈ t'.stale
  stale : ∀ id ∈ t'.stale, id ∈ t.stale ∨ id ∈ ids
  kept : ∀ id ∈ t.stale, id ∈ t'.stale

theorem removeBucket_spec {t : Track α φ} (h : t.store.Sane) {id : Nat}
    (hempty : t.store.contents id = []) : Swept t (t.removeBucket id).state [id] := by
  obtain ⟨hsteady, hids, hgone⟩ := Store.remove_spec h hempty
  simp only [removeBucket]
  cases hv : (t.store.remove id).value with
  | ok u =>
    refine ⟨⟨_, _, rfl⟩, hsteady.sane, hsteady.contents, hids, ?_, fun j hj => Or.inl hj,
      fun j hj => hj⟩
    intro j hj hmem
    rw [List.mem_singleton.mp hmem] at hj
    exact absurd hj (hgone hv)
  | error e =>
    refine ⟨⟨_, _, rfl⟩, hsteady.sane, hsteady.contents, hids, ?_, ?_, ?_⟩
    · intro j _ hmem
      exact List.mem_append_right _ hmem
    · intro j hj
      exact List.mem_append.mp hj
    · intro j hj
      exact List.mem_append_left _ hj

theorem each_removeBucket_spec {t : Track α φ} (h : t.store.Sane) {ids : List Nat}
    (hempty : ∀ id ∈ ids, t.store.contents id = []) :
    Swept t (Outcome.each removeBucket ids t).state ids := by
  induction ids generalizing t with
  | nil =>
    refine ⟨⟨t.store, t.stale, rfl⟩, h, fun _ => rfl, fun _ hj => hj, ?_, fun j hj => Or.inl hj,
      fun j hj => hj⟩
    intro j _ hmem
    cases hmem
  | cons id ids ih =>
    have hhead := removeBucket_spec h (hempty id List.mem_cons_self)
    have htail := ih hhead.sane fun j hj =>
      (hhead.contents j).trans (hempty j (List.mem_cons_of_mem _ hj))
    refine ⟨?_, htail.sane, fun j => (htail.contents j).trans (hhead.contents j),
      fun j hj => hhead.stored j (htail.stored j hj), ?_, ?_,
      fun j hj => htail.kept j (hhead.kept j hj)⟩
    · obtain ⟨store, stale, heq⟩ := hhead.same
      obtain ⟨store', stale', heq'⟩ := htail.same
      refine ⟨store', stale', heq'.trans ?_⟩
      rw [heq]
    · intro j hj hmem
      rcases List.mem_cons.mp hmem with rfl | hmem
      · exact htail.kept j (hhead.waiting j (htail.stored j hj) List.mem_cons_self)
      · exact htail.waiting j hj hmem
    · intro j hj
      rcases htail.stale j hj with hj | hj
      · rcases hhead.stale j hj with hj | hj
        · exact Or.inl hj
        · exact Or.inr (List.mem_cons.mpr (Or.inl (List.mem_singleton.mp hj)))
      · exact Or.inr (List.mem_cons_of_mem _ hj)

/-! ## Fetching the next bucket -/

/-- The bucket at the clock is fetched, or no contents change. The fetch fails if the store does,
or at the last bucket. -/
theorem takeBucket_spec {t : Track α φ} (h : t.Ready) (hwindow : t.timeline.window.At t.position)
    (hlast : t.position ≤ Index.last) :
    ∃ store window, t.takeBucket.state =
        { t with store := store, timeline := { t.timeline with window := window } } ∧
      Store.Steady t.position t.store store ∧
      ((∃ error, t.takeBucket.value = .error error) ∧ window.At t.position ∧
          (t.position = Index.last ∨
            ∃ error, (t.store.fetch .empty t.position).value = .error error) ∨
        ∃ slot, t.takeBucket.value = .ok slot ∧ t.position < Index.last ∧
          window.At (t.position + 1) ∧ store.Serves t.position slot) := by
  simp only [takeBucket, Timeline.take, h.factory]
  rcases Nat.lt_or_eq_of_le hlast with hlt | heq
  · obtain ⟨hsteady, hserves⟩ := Store.fetch_spec h.sane t.position
    cases hv : (t.store.fetch .empty t.position).value with
    | error error =>
      obtain ⟨hvalue, hstate⟩ := hwindow.take_error hlt hv
      simp only [hvalue, hstate]
      exact ⟨_, _, rfl, hsteady, Or.inl ⟨⟨error, rfl⟩, hwindow, Or.inr ⟨error, rfl⟩⟩⟩
    | ok slot =>
      obtain ⟨hvalue, window, hstate, hwindow'⟩ := hwindow.take_ok hlt hv
      simp only [hvalue, hstate, List.getLast?_singleton]
      exact ⟨_, _, rfl, hsteady, Or.inr ⟨slot, rfl, hlt, hwindow', hserves slot hv⟩⟩
  · rw [heq] at hwindow ⊢
    obtain ⟨hvalue, window, hstate, hwindow'⟩ :=
      hwindow.take_last (fun id s => s.fetch .empty id) t.store
    simp only [hvalue, hstate, List.getLast?_nil]
    exact ⟨_, _, rfl, ⟨h.sane, fun j hj => Or.inl hj, fun _ => rfl⟩,
      Or.inl ⟨⟨.noBucket, rfl⟩, hwindow', Or.inl trivial⟩⟩

/-! ## The drain -/

/-- From `t` to `t'` the bucket at the clock was drained, the given commitments were filed and
held back, and `gone` were retired. -/
structure Drained (t t' : Track α φ) (filed held : List (Commitment α)) (gone : Nat) : Prop where
  ready : t'.Ready
  timeline : t'.timeline = t.timeline
  position : t'.position = t.position + 1
  frameWidth : t'.frameWidth = t.frameWidth
  increment : t'.increment = t.increment
  contents : ∀ id, t'.store.contents id =
    if id = t.position then [] else t.store.contents id ++ dueAt id filed
  ids : ∀ id ∈ t'.store.bucketIds, t.position < id ∨ id ∈ t.store.bucketIds
  waiting : t.position ∈ t'.store.bucketIds → t.position ∈ t'.stale
  stranded : t'.stranded = t.stranded ++ held
  stale : ∀ id ∈ t'.stale, id ∈ t.stale ∨ id = t.position
  kept : ∀ id ∈ t.stale, id ∈ t'.stale
  pending : t'.pending = t.pending - gone
  scheduled : t'.counters.scheduled = t.counters.scheduled
  retired : t'.counters.retired = t.counters.retired + gone

/-- The end of a drain: what was emptied before the passage stays empty, is removed, and the
clock moves on. -/
theorem Passage.drained {t t₁ : Track α φ} {emptied : Store α φ} {filed held : List (Commitment α)}
    {gone : Nat} (h : Passage { t with store := emptied } t₁ filed held gone)
    (hids : ∀ id ∈ emptied.bucketIds, id ∈ t.store.bucketIds)
    (hcleared : ∀ id, emptied.contents id = if id = t.position then [] else t.store.contents id)
    (hlater : ∀ e ∈ filed ++ held, t.position < e.deliveryTime) (items : Nat)
    (payload : Option String) :
    Drained t
      (record .drain none t.position payload
        { (t₁.removeBucket t.position).state with
          position := (t₁.removeBucket t.position).state.position + 1
          counters := { (t₁.removeBucket t.position).state.counters with
            frames := (t₁.removeBucket t.position).state.counters.frames + 1
            deliveredItems :=
              (t₁.removeBucket t.position).state.counters.deliveredItems + items } })
      filed held gone := by
  have hempty : t₁.store.contents t.position = [] := by
    rw [h.contents]
    simp only [hcleared, if_pos, List.nil_append]
    apply Commitment.dueAt_eq_nil
    intro e he
    exact Nat.ne_of_gt (hlater e (List.mem_append_left _ he))
  have hswept := removeBucket_spec h.ready.sane hempty
  obtain ⟨store, stale, hsame⟩ := hswept.same
  rw [hsame] at hswept ⊢
  refine ⟨⟨hswept.sane, h.ready.factory⟩, h.timeline, ?_, h.frameWidth, h.increment, ?_, ?_, ?_,
    h.stranded, ?_, ?_, h.pending, ?_, ?_⟩
  · exact congrArg (· + 1) h.position
  · intro j
    refine (hswept.contents j).trans ?_
    split
    · next heq => rw [heq, hempty]
    · next hne =>
      rw [h.contents]
      simp only [hcleared, if_neg hne]
  · intro j hj
    rcases h.ids j (hswept.stored j hj) with hj | ⟨e, he, rfl⟩
    · exact Or.inr (hids j hj)
    · exact Or.inl (hlater e he)
  · intro hj
    exact hswept.waiting _ hj List.mem_cons_self
  · intro j hj
    rcases hswept.stale j hj with hj | hj
    · rw [h.stale] at hj
      exact Or.inl hj
    · exact Or.inr (List.mem_singleton.mp hj)
  · intro j hj
    exact hswept.kept j (by rw [h.stale]; exact hj)
  · show t₁.counters.scheduled = _
    rw [h.counters]
  · show t₁.counters.retired = _
    rw [h.counters]

/-- A drain hands out one slice for each commitment of the bucket, in order, retires those that
it exhausts and files the others again. -/
theorem drain_spec {t : Track α φ} {slot : Slot} (h : t.Ready)
    (hs : t.store.Serves t.position slot) (hlast : t.position < Index.last) :
    (t.drain slot).value =
        (t.store.contents t.position).flatMap (fun e => (e.draw t.frameWidth).value) ∧
      ∃ held, Refiled ((survivors t.frameWidth (t.store.contents t.position)).map
          (·.onward t.position t.increment)) (t.drainFilings slot) held ∧
        Drained t (t.drain slot).state (t.drainFilings slot) held
          (spent t.frameWidth (t.store.contents t.position)).length := by
  obtain ⟨htidy, hcleared⟩ := hs.clear h.sane.tidy
  have hready : Ready { t with store := t.store.update slot ⟨t.position, []⟩ } :=
    ⟨⟨htidy, h.sane.keeps⟩, h.factory⟩
  simp only [drain, drainFilings, Bucket.deliverWith, Bucket.takeEvents, Bucket.drawFlat_value,
    Bucket.drawFlat_state, hs.events, hs.own]
  refine ⟨trivial, ?_⟩
  obtain ⟨held, hrefiled, hpassage⟩ := each_settle_spec hready t.position
    ((t.store.contents t.position).map (·.drawn t.frameWidth))
  refine ⟨held, hrefiled, hpassage.drained (fun _ hj => hj) hcleared ?_ _ _⟩
  intro e he
  obtain ⟨_, hmem, _, rfl, _⟩ := hrefiled.origin he
  obtain ⟨e₀, _, rfl⟩ := List.mem_map.mp hmem
  exact e₀.lt_onward hlast t.increment

end Track
end BucketClock
