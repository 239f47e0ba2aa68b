import BucketClock.Proofs.Track.Goods
import Mathlib.Data.List.Induction

/-!
Conservation of commitments. Over every run, whatever store calls fail on the
way, a commitment that was accepted and not retired is in flight exactly once,
in the bucket it is meant for or on the list of those held back, and nothing
else is in flight (`conservation`).
-/

namespace BucketClock.Track

open Commitment (goods survivors spent)

variable {α φ : Type} [Outage φ]

/-! ## The count by numbers -/

/-- The accepted commitments are numbered in order, and each number is in flight or retired,
once. -/
structure Tally (t : Track α φ) (accepted : List (Commitment α)) (retired : List Nat) : Prop where
  sound : t.Sound
  numbered : accepted.map (·.mark) = List.range accepted.length
  once : (t.live.map (·.mark) ++ retired).Perm (List.range accepted.length)
  retired : t.counters.retired = retired.length

/-- The next number is the number of the commitments accepted so far. -/
theorem Tally.scheduled {t : Track α φ} {accepted : List (Commitment α)} {retired : List Nat}
    (h : t.Tally accepted retired) : t.counters.scheduled = accepted.length := by
  have hlength := h.once.length_eq
  rw [List.length_append, List.length_map, List.length_range] at hlength
  rw [h.sound.counted, h.retired, hlength]

theorem Tally.schedule {t : Track α φ} {accepted : List (Commitment α)} {retired : List Nat}
    (h : t.Tally accepted retired) {e : Commitment α} (hfull : e.phase = .full) :
    (t.perform (.schedule e)).Tally (accepted ++ t.accepted (.schedule e)) retired := by
  obtain ⟨hgoods, hretired⟩ := schedule_goods h.sound hfull
  have hmarks := hgoods.map Prod.fst
  rw [List.map_append, Commitment.map_goods_fst, Commitment.map_goods_fst,
    Commitment.map_goods_fst] at hmarks
  have hnew : t.accepted (.schedule e) = [] ∨ t.accepted (.schedule e) = [t.numbered e] := by
    simp only [Track.accepted]
    split
    · exact Or.inr rfl
    · exact Or.inl rfl
  have hsound : (t.perform (.schedule e)).Sound := (h.sound.perform (r := .schedule e) hfull).sound
  rcases hnew with hnew | hnew
  · rw [hnew] at hmarks ⊢
    rw [List.map_nil, List.append_nil] at hmarks
    rw [List.append_nil]
    exact ⟨hsound, h.numbered, (hmarks.append_right _).trans h.once, hretired.trans h.retired⟩
  · rw [hnew] at hmarks ⊢
    have hmark : (t.numbered e).mark = accepted.length := h.scheduled
    rw [List.map_singleton, hmark] at hmarks
    refine ⟨hsound, ?_, ?_, hretired.trans h.retired⟩
    · rw [List.map_append, List.map_singleton, h.numbered, hmark, List.length_append,
        List.length_singleton, List.range_succ]
    · rw [List.length_append, List.length_singleton, List.range_succ]
      refine (hmarks.append_right _).trans ?_
      rw [List.append_assoc]
      refine (List.perm_append_comm.append_left _).trans ?_
      rw [← List.append_assoc]
      exact h.once.append_right _

theorem Tally.tick {t : Track α φ} {accepted : List (Commitment α)} {retired : List Nat}
    (h : t.Tally accepted retired) :
    (t.perform .tick).Tally accepted (retired ++ (t.drains .tick).flatMap (·.retired)) := by
  have hticked := nextFrame_ticked h.sound
  have hsound : (t.perform .tick).Sound := (h.sound.perform (r := .tick) trivial).sound
  show t.nextFrame.state.Tally _ _
  generalize t.frames .tick = frames, t.drains .tick = drains at hticked ⊢
  cases hticked with
  | still hgoods _ hretired =>
    have hmarks := hgoods.map Prod.fst
    rw [Commitment.map_goods_fst, Commitment.map_goods_fst] at hmarks
    rw [List.flatMap_nil, List.append_nil]
    exact ⟨hsound, h.numbered, (hmarks.append_right _).trans h.once, hretired.trans h.retired⟩
  | drained hbefore hafter _ hretired =>
    rw [List.flatMap_singleton]
    refine ⟨hsound, h.numbered, ?_, ?_⟩
    · have hbefore' := hbefore.map Prod.fst
      have hafter' := hafter.map Prod.fst
      have hdue := Commitment.marks_perm t.frameWidth t.due
      have honce := h.once
      simp only [List.map_append, Commitment.map_goods_fst, ← Multiset.coe_eq_coe, ← Multiset.coe_add]
        at hbefore' hafter' hdue honce ⊢
      rw [← honce, hbefore', hafter', ← hdue, Drain.ofDue]
      ac_rfl
    · rw [hretired, h.retired, List.length_append]

/-- Over every run the accepted commitments are tallied. -/
theorem tally_run {t₀ : Track α φ} (h : t₀.Opened) (hkeeps : Outage.KeepsEvents t₀.store.outage)
    {rs : List (Request α)} (hfull : ∀ r ∈ rs, r.Full) :
    (t₀.run rs).Tally (t₀.history accepted rs) ((t₀.history drains rs).flatMap (·.retired)) := by
  induction rs using List.reverseRecOn with
  | nil =>
    refine ⟨h.sound hkeeps, rfl, ?_, ?_⟩
    · show (t₀.live.map (·.mark) ++ ([] : List Nat)).Perm []
      rw [h.live]
      exact .nil
    · show t₀.counters.retired = 0
      rw [h.unused.counters]
  | append_singleton rs r ih =>
    obtain ⟨hfull, hr⟩ := List.forall_mem_append.mp hfull
    have hr := List.forall_mem_singleton.mp hr
    have ih := ih hfull
    rw [run_snoc, history_snoc, history_snoc]
    cases r with
    | schedule e =>
      have hdrains : (t₀.run rs).drains (.schedule e) = [] := rfl
      rw [hdrains, List.append_nil]
      exact ih.schedule hr
    | tick =>
      have haccepted : (t₀.run rs).accepted .tick = [] := rfl
      rw [haccepted, List.append_nil, List.flatMap_append]
      exact ih.tick

/-! ## Where commitments are -/

/-- Where the accepted commitments of a track are that were not retired, and that nothing else is
anywhere. -/
structure Conserved (t : Track α φ) (accepted : List (Commitment α)) (retired : List Nat) :
    Prop where
  numbered : accepted.map (·.mark) = List.range accepted.length
  once : ((t.store.events ++ t.stranded).map (·.mark) ++ retired).Perm (accepted.map (·.mark))
  distinct : (t.store.stored.map (·.1)).Pairwise (· < ·)
  filed : ∀ b ∈ t.store.stored, b.2.id = b.1 ∧
    ∀ e ∈ b.2.events, e.deliveryTime = b.1 ∧ t.position ≤ b.1
  elsewhere : t.timeline.window.items = [] ∧
    ∀ slot, (t.store.bucket slot).events ≠ [] → ∃ id, (id, t.store.bucket slot) ∈ t.store.stored
  drained : ∀ b ∈ t.store.stored, b.1 < t.position → b.2.events = [] ∧ b.1 ∈ t.stale
  pending : t.pending = t.store.events.length + t.stranded.length
  balance : t.pending + retired.length = accepted.length ∧ t.counters.retired = retired.length

omit [Outage φ] in
theorem mem_stored {s : Store α φ} (h : s.Tidy) {b : Nat × Bucket α} (hb : b ∈ s.stored) :
    b.2.id = b.1 ∧ b.2.events = s.contents b.1 ∧ b.1 ∈ s.bucketIds := by
  obtain ⟨⟨id, slot⟩, hmem, rfl⟩ := List.mem_map.mp hb
  have hlookup := (Shelf.mem_entries_iff h.sorted id slot).mp hmem
  exact ⟨h.own id slot hlookup, (Store.contents_of_lookup hlookup).symm,
    (Shelf.mem_keys_iff id s.shelf).mpr ⟨slot, hlookup⟩⟩

theorem Tally.conserved {t : Track α φ} {accepted : List (Commitment α)} {retired : List Nat}
    (h : t.Tally accepted retired) : t.Conserved accepted retired := by
  have htidy := h.sound.ready.sane.tidy
  have hpending := h.sound.pending
  refine ⟨h.numbered, ?_, ?_, ?_, ⟨h.sound.window.items, ?_⟩, ?_, ?_, ?_, h.retired⟩
  · rw [h.numbered]
    exact h.once
  · rw [Store.stored, List.map_map]
    exact htidy.sorted
  · intro b hb
    obtain ⟨hid, hevents, _⟩ := mem_stored htidy hb
    rw [hevents]
    exact ⟨hid, h.sound.filed b.1⟩
  · intro slot hne
    obtain ⟨id, hlookup⟩ := htidy.shelved slot hne
    exact ⟨id, List.mem_map.mpr
      ⟨(id, slot), (Shelf.mem_entries_iff htidy.sorted id slot).mpr hlookup, rfl⟩⟩
  · intro b hb hlt
    obtain ⟨_, hevents, hid⟩ := mem_stored htidy hb
    rw [hevents]
    exact ⟨h.sound.contents_eq_nil hlt, h.sound.drained b.1 hid hlt⟩
  · rw [hpending, live, List.length_append]
  · have hlength := h.once.length_eq
    rw [List.length_append, List.length_map, List.length_range, ← hpending] at hlength
    exact hlength

/-- Conservation of commitments: in every state that requests lead to, whatever store calls fail
on the way, each accepted commitment that is not retired is in its bucket or held back, once. -/
theorem conservation {t₀ : Track α φ} (h : t₀.Opened) (hkeeps : Outage.KeepsEvents t₀.store.outage)
    {rs : List (Request α)} (hfull : ∀ r ∈ rs, r.Full) :
    (t₀.run rs).Conserved (t₀.history accepted rs) ((t₀.history drains rs).flatMap (·.retired)) :=
  (tally_run h hkeeps hfull).conserved

/-- After two ticks the first commitment is held back and the second one is retired. -/
theorem conservation_troubled :
    (troubled.run requests).Conserved (troubled.history accepted requests)
        ((troubled.history drains requests).flatMap (·.retired)) ∧
      (troubled.run requests).stranded.map (·.mark) = [0] ∧
      (troubled.history drains requests).flatMap (·.retired) = [1] := by
  have hconserved := conservation troubled_opened troubled_keepsEvents
    fun r hr => (requests_fresh r hr).full
  exact ⟨hconserved, by decide +kernel, by decide +kernel⟩

end BucketClock.Track
