import BucketClock.Proofs.Track.Goods
import BucketClock.Proofs.Track.Seeded

/-!
Tracks over a store that holds commitments from the start. Such a track drains
and retires the commitments it finds with its own, and takes each of them off its
count of pending ones. So the count may be too low, by at most the number of
foreign commitments that were retired, and it is exact as long as none was
(`foreign_pending`). A count of 0 stops the clock while commitments of the track
wait: `foreign_stalls`.

Marks tell the two apart: the track's own commitments are numbered from 0 on.
-/

namespace BucketClock

namespace Track

open Commitment (dueAt goods)

variable {α : Type}

/-! ## One request -/

/-- From `t` to `t'` the commitments with the given marks left the store and the count. -/
structure Turnover (t t' : Track α Unit) (gone : List Nat) : Prop where
  marks : (t'.store.events.map (·.mark) ++ gone).Perm (t.store.events.map (·.mark))
  pending : t'.pending = t.pending - gone.length
  scheduled : t'.counters.scheduled = t.counters.scheduled

variable {stored : Nat → List (Commitment α)} {filed : List (Commitment α)}
  {served : List (Bucket α)} {discarded : List (Commitment α)} {t : Track α Unit}

/-- With no bucket given, a tick drains what the store holds at the clock. -/
theorem Seeding.served_stored (h : Seeding [] stored filed served discarded t) {slot : Slot}
    {t₁ : Track α Unit} (htaken : Taken [] stored filed slot t t₁) :
    t₁.store.bucket slot = ⟨t.position, t.store.contents t.position⟩ := by
  rw [htaken.bucket, h.contents, if_neg (Nat.lt_irrefl _)]
  rfl

theorem Seeding.drains_eq_served (h : Seeding [] stored filed served discarded t) :
    t.drains .tick = (t.served .tick).map fun b => .ofDue b.id t.frameWidth b.events := by
  have hdue : t.due = t.store.contents t.position := by rw [due, h.calm.retryDeferred]
  have hround := h.round rfl
  simp only [drains, hdue]
  generalize t.nextFrame.value = value, t.nextFrame.state = t', t.filings .tick = filings,
    t.served .tick = bucket, t.discarded .tick = lost at hround ⊢
  cases hround with
  | idle _ => rfl
  | refused _ _ _ => rfl
  | drains _ htaken => rw [h.served_stored htaken, List.map_singleton]

/-- A drain retires some of the commitments in its bucket and files the others again. -/
theorem Seeding.turnover_drain (h : Seeding [] stored filed served discarded t) {slot : Slot}
    (hlt : t.position < Index.last) {t₁ : Track α Unit} (htaken : Taken [] stored filed slot t t₁) :
    Turnover t (t₁.drain slot).state
      (Drain.ofDue t.position t.frameWidth (t.store.contents t.position)).retired := by
  obtain ⟨store, window, hsame⟩ := htaken.same
  have hposition : t₁.position = t.position := by rw [hsame]
  have hown : (t₁.store.bucket slot).id = t₁.position := by
    rw [h.served_stored htaken, hposition]
  have hevents : (t₁.store.bucket slot).events = t.store.contents t.position := by
    rw [h.served_stored htaken]
  have hwidth : t₁.frameWidth = t.frameWidth := by rw [hsame]
  obtain ⟨_, _, hrefiled, hlater, hemptied⟩ := drain_course htaken.calm hown (hposition ▸ hlt)
  rw [hevents, hwidth] at hrefiled hemptied
  have hpending := hemptied.pending
  have hscheduled := hemptied.scheduled
  have hcontents := hemptied.contents
  rw [hposition] at hcontents hlater
  simp only [htaken.contents] at hcontents
  have hmoved := Store.events_drained h.calm.orderly hemptied.calm.orderly
    (fun e he => Nat.ne_of_gt (hlater e he)) hcontents
  have hsurvivors := hrefiled.goods_perm
  rw [List.append_nil, Commitment.map_goods_onward] at hsurvivors
  refine ⟨?_, ?_, ?_⟩
  · have hstored := hmoved.map (·.mark)
    have hfiled := hsurvivors.map Prod.fst
    have hdue := Commitment.marks_perm t.frameWidth (t.store.contents t.position)
    simp only [List.map_append, Commitment.map_goods_fst, ← Multiset.coe_eq_coe,
      ← Multiset.coe_add] at hstored hfiled hdue ⊢
    rw [hfiled, ← hdue, ← add_assoc] at hstored
    exact add_right_cancel hstored
  · rw [hpending, hsame, Drain.ofDue, List.length_map]
  · rw [hscheduled, hsame]

theorem Seeding.turnover (h : Seeding [] stored filed served discarded t) :
    Turnover t t.nextFrame.state ((t.drains .tick).flatMap (·.retired)) := by
  have hstill : ∀ marks : List Nat, (marks ++ []).Perm marks := by
    intro marks
    rw [List.append_nil]
  have hround := h.round rfl
  rw [h.drains_eq_served]
  generalize t.nextFrame.value = value, t.nextFrame.state = t', t.filings .tick = filings,
    t.served .tick = bucket, t.discarded .tick = lost at hround ⊢
  cases hround with
  | idle _ => exact ⟨hstill _, rfl, rfl⟩
  | refused _ _ _ => exact ⟨hstill _, rfl, rfl⟩
  | drains hlt htaken =>
    rw [h.served_stored htaken, List.map_singleton, List.flatMap_singleton]
    exact h.turnover_drain hlt htaken

/-- A commitment is accepted under the next number, stored and counted. -/
theorem Seeding.schedule_counts (h : Seeding [] stored filed served discarded t) {e : Commitment α}
    (hfull : e.phase = .full) :
    t.accepted (.schedule e) = [t.numbered e] ∧
      ((t.perform (.schedule e)).store.events.map (·.mark)).Perm
        (t.store.events.map (·.mark) ++ [t.counters.scheduled]) ∧
      (t.perform (.schedule e)).pending = t.pending + 1 ∧
      (t.perform (.schedule e)).counters.scheduled = t.counters.scheduled + 1 := by
  have hfull' : (t.numbered e).phase = .full := hfull
  obtain ⟨s, hfiled, hvalue, hstate⟩ := place_calm h.calm ((t.numbered e).admitted t.position)
  obtain ⟨hanswer, hscheduled⟩ := t.schedule_eq hfull'
  rw [hvalue] at hanswer
  have heq := (t.numbered e).admitted_eq t.position
  have hphase : ((t.numbered e).admitted t.position).phase = .full := by
    rw [heq]
    exact hfull
  have hmark : (t.identified ((t.numbered e).admitted t.position)).mark = t.counters.scheduled := by
    rw [heq]
    rfl
  have hevents : (s.events ++ []).Perm
      (t.store.events ++ [t.identified ((t.numbered e).admitted t.position)]) := by
    apply Store.events_perm h.calm.orderly hfiled.orderly
    intro id
    rw [hfiled.contents_dueAt id]
    exact .of_eq (List.append_nil _)
  refine ⟨?_, ?_, ?_, ?_⟩
  · rw [accepted, hanswer]
    rfl
  · simp only [perform, hscheduled, hstate, counted, if_pos hphase]
    have hmarks := hevents.map (·.mark)
    rw [List.append_nil, List.map_append, List.map_singleton, hmark] at hmarks
    exact hmarks
  · simp only [perform, hscheduled, hstate, counted, if_pos hphase]
    rfl
  · simp only [perform, hscheduled, hstate, counted, if_pos hphase]
    rfl

/-! ## Runs -/

def own (bound : Nat) (marks : List Nat) : List Nat := marks.filter (· < bound)

def alien (bound : Nat) (marks : List Nat) : List Nat := marks.filter (bound ≤ ·)

theorem own_alien_length (bound : Nat) (marks : List Nat) :
    (own bound marks).length + (alien bound marks).length = marks.length := by
  induction marks with
  | nil => rfl
  | cons n marks ih =>
    simp only [own, alien] at ih ⊢
    by_cases hn : n < bound
    · simp [hn, Nat.not_le_of_lt hn]
      omega
    · simp [hn, Nat.le_of_not_lt hn]
      omega

/-- The commitments stored or retired are the accepted ones and the foreign ones, and the count is
off by foreign ones that were retired. -/
structure Mixed (bound : Nat) (foreign accepted retired : List Nat) (t : Track α Unit) : Prop where
  numbered : accepted = List.range t.counters.scheduled
  once : (t.store.events.map (·.mark) ++ retired).Perm (accepted ++ foreign)
  atMost : t.pending ≤ (own bound (t.store.events.map (·.mark))).length
  atLeast : (own bound (t.store.events.map (·.mark))).length ≤
    t.pending + (alien bound retired).length

theorem Mixed.tick {bound : Nat} {foreign accepted retired gone : List Nat} {t t' : Track α Unit}
    (h : Mixed bound foreign accepted retired t) (ht : Turnover t t' gone) :
    Mixed bound foreign accepted (retired ++ gone) t' := by
  have hown := (ht.marks.filter (· < bound)).length_eq
  have hsplit := own_alien_length bound gone
  have hpending := ht.pending
  have hmost := h.atMost
  have hleast := h.atLeast
  simp only [List.filter_append, List.length_append] at hown
  simp only [own, alien] at hsplit hmost hleast
  refine ⟨h.numbered.trans (congrArg _ ht.scheduled.symm), ?_, ?_, ?_⟩
  · refine List.Perm.trans ?_ h.once
    refine List.Perm.trans ?_ (ht.marks.append_right retired)
    rw [List.append_assoc]
    exact List.perm_append_comm.append_left _
  · simp only [own]
    omega
  · simp only [own, alien, List.filter_append, List.length_append]
    omega

theorem Mixed.schedule {bound : Nat} {foreign accepted retired : List Nat} {t t' : Track α Unit}
    (h : Mixed bound foreign accepted retired t) (hbound : t.counters.scheduled < bound)
    (hmarks : (t'.store.events.map (·.mark)).Perm
      (t.store.events.map (·.mark) ++ [t.counters.scheduled]))
    (hpending : t'.pending = t.pending + 1)
    (hscheduled : t'.counters.scheduled = t.counters.scheduled + 1) :
    Mixed bound foreign (accepted ++ [t.counters.scheduled]) retired t' := by
  have hown := (hmarks.filter (· < bound)).length_eq
  have hmost := h.atMost
  have hleast := h.atLeast
  simp only [List.filter_append, List.length_append, List.filter_singleton, hbound, decide_true,
    cond_true, List.length_singleton] at hown
  simp only [own] at hmost hleast
  refine ⟨?_, ?_, ?_, ?_⟩
  · rw [h.numbered, hscheduled, List.range_succ]
  · refine (hmarks.append_right retired).trans ?_
    have honce := h.once
    simp only [← Multiset.coe_eq_coe, ← Multiset.coe_add] at honce ⊢
    rw [add_right_comm, honce, add_right_comm]
  · simp only [own]
    omega
  · simp only [own]
    omega

/-- A track that was not used yet, over a store that may hold buckets and never fails. -/
structure Starting (t : Track α Unit) : Prop where
  setUp : t.SetUp []
  pending : t.pending = 0
  scheduled : t.counters.scheduled = 0

theorem starting_ofStore {s : Store α Unit} (h : s.Orderly) : (ofStore s).Starting := by
  refine ⟨⟨⟨h, rfl, rfl, rfl⟩, rfl, ⟨[], rfl, rfl, ?_⟩, rfl⟩, rfl, rfl⟩
  intro slot hslot
  cases hslot

theorem mixed_run {t₀ : Track α Unit} (h : t₀.Starting) {bound : Nat}
    (hforeign : ∀ e ∈ t₀.store.events, bound ≤ e.mark) {rs : List (Request α)}
    (hfull : ∀ r ∈ rs, r.Full) (hbound : rs.length ≤ bound) :
    Mixed bound (t₀.store.events.map (·.mark)) ((t₀.history accepted rs).map (·.mark))
        ((t₀.history drains rs).flatMap (·.retired)) (t₀.run rs) ∧
      (t₀.run rs).counters.scheduled ≤ rs.length := by
  induction rs using List.reverseRecOn with
  | nil =>
    have hown : own bound (t₀.store.events.map (·.mark)) = [] := by
      apply List.filter_eq_nil_iff.mpr
      intro n hn
      obtain ⟨e, he, rfl⟩ := List.mem_map.mp hn
      simpa using hforeign e he
    refine ⟨⟨?_, ?_, ?_, ?_⟩, Nat.le_of_eq h.scheduled⟩
    · show [] = List.range t₀.counters.scheduled
      rw [h.scheduled]
      rfl
    · exact .of_eq (List.append_nil _)
    · show t₀.pending ≤ _
      rw [h.pending]
      exact Nat.zero_le _
    · show (own bound (t₀.store.events.map (·.mark))).length ≤ _
      rw [hown]
      exact Nat.zero_le _
  | append_singleton rs r ih =>
    obtain ⟨hfull, hr⟩ := List.forall_mem_append.mp hfull
    have hr := List.forall_mem_singleton.mp hr
    rw [List.length_append, List.length_singleton] at hbound ⊢
    obtain ⟨ih, hscheduled⟩ := ih hfull (Nat.le_of_succ_le hbound)
    have hseeding := seeding_run h.setUp hfull
    rw [run_snoc, history_snoc, history_snoc, List.map_append, List.flatMap_append]
    cases r with
    | schedule e =>
      obtain ⟨haccepted, hmarks, hpending, hnext⟩ := hseeding.schedule_counts hr
      have hnone : ((t₀.run rs).drains (.schedule e)).flatMap (·.retired) = [] := rfl
      rw [haccepted, hnone, List.append_nil, hnext]
      exact ⟨ih.schedule (Nat.lt_of_le_of_lt hscheduled hbound) hmarks hpending hnext,
        Nat.succ_le_succ hscheduled⟩
    | tick =>
      have hturnover := hseeding.turnover
      have hnone : ((t₀.run rs).accepted .tick).map (·.mark) = [] := rfl
      rw [hnone, List.append_nil]
      refine ⟨ih.tick hturnover, ?_⟩
      show (t₀.run rs).nextFrame.state.counters.scheduled ≤ _
      rw [hturnover.scheduled]
      exact Nat.le_succ_of_le hscheduled

theorem Seeding.pending_of_idle (h : Seeding [] stored filed served discarded t)
    (hidle : t.nextFrame.value = .ok none) : t.pending = 0 := by
  have hround := h.round rfl
  rw [hidle] at hround
  generalize t.nextFrame.state = t', t.filings .tick = filings, t.served .tick = bucket,
    t.discarded .tick = lost at hround
  cases hround with
  | idle hpending => exact hpending

/-! ## The count of pending commitments -/

def waiting (bound : Nat) (t : Track α Unit) : List Nat := own bound (t.store.events.map (·.mark))

/-- How the count of pending commitments relates to the track's own commitments that wait. -/
structure Reckoned (bound : Nat) (accepted retired : List Nat) (t : Track α Unit) : Prop where
  once : (t.waiting bound ++ own bound retired).Perm accepted
  atMost : t.pending ≤ (t.waiting bound).length
  atLeast : (t.waiting bound).length ≤ t.pending + (alien bound retired).length
  exact : alien bound retired = [] → t.pending = (t.waiting bound).length
  idle : t.nextFrame.value = .ok none → (t.waiting bound).length ≤ (alien bound retired).length

/-- The count over a store that was not empty: in every state that requests lead to it is at most the
number of the track's own commitments that wait, and short of it by at most the foreign ones that
were retired. So it is exact as long as none of these was, and then no tick without a frame leaves
one of the track's own commitments waiting. -/
theorem foreign_pending {t₀ : Track α Unit} (h : t₀.Starting) {rs : List (Request α)}
    (hfull : ∀ r ∈ rs, r.Full) (hforeign : ∀ e ∈ t₀.store.events, rs.length ≤ e.mark) :
    Reckoned rs.length ((t₀.history accepted rs).map (·.mark))
      ((t₀.history drains rs).flatMap (·.retired)) (t₀.run rs) := by
  obtain ⟨hmixed, hscheduled⟩ := mixed_run h hforeign hfull (Nat.le_refl _)
  have hmost := hmixed.atMost
  have hleast := hmixed.atLeast
  refine ⟨?_, hmost, hleast, ?_, ?_⟩
  · have honce := hmixed.once.filter (· < rs.length)
    have haccepted : ((t₀.history accepted rs).map (·.mark)).filter (· < rs.length) =
        (t₀.history accepted rs).map (·.mark) := by
      rw [hmixed.numbered]
      apply List.filter_eq_self.mpr
      intro n hn
      have hlt := List.mem_range.mp hn
      exact decide_eq_true (Nat.lt_of_lt_of_le hlt hscheduled)
    have hnone : (t₀.store.events.map (·.mark)).filter (· < rs.length) = [] := by
      apply List.filter_eq_nil_iff.mpr
      intro n hn
      obtain ⟨e, he, rfl⟩ := List.mem_map.mp hn
      simpa using hforeign e he
    rw [List.filter_append, List.filter_append, haccepted, hnone, List.append_nil] at honce
    exact honce
  · intro halien
    rw [halien] at hleast
    exact Nat.le_antisymm hmost hleast
  · intro hidle
    rw [(seeding_run h.setUp hfull).pending_of_idle hidle, Nat.zero_add] at hleast
    exact hleast

/-! ## A foreign commitment that stops the clock -/

def lodging : Store Nat Unit :=
  (Store.empty ()).add ⟨0, [{ deliveryTime := 0, supply := .single 7, mark := 9 }]⟩

theorem lodging_orderly : lodging.Orderly := by
  have hlookup : ∀ id slot, lodging.lookup id = some slot → id = 0 ∧ slot = 0 := by
    intro id slot hslot
    have hfound : (if id = 0 then some 0 else none) = some slot := hslot
    split at hfound
    · next heq => exact ⟨heq, (Option.some.inj hfound).symm⟩
    · cases hfound
  refine ⟨by decide +kernel, ?_, ?_⟩
  · intro id slot hslot
    rw [(hlookup id slot hslot).2]
    decide
  · intro id slot hslot
    obtain ⟨rfl, rfl⟩ := hlookup id slot hslot
    rfl

/-- One tick retires the foreign commitment in bucket 0; the count is 0 while commitment 0 waits. -/
theorem foreign_pending_lodging :
    Reckoned 2 [0] [9] ((ofStore lodging).run [.schedule { deliveryTime := 1, supply := .ofList [3] },
      .tick]) := by
  have hfull : ∀ r ∈ [Request.schedule { deliveryTime := 1, supply := Supply.ofList [3] }, .tick],
      r.Full := by simp [Request.Full]
  exact foreign_pending (starting_ofStore lodging_orderly) hfull (by decide +kernel)

/-- After two ticks commitment 0 is accepted, stored and not retired. Nothing counts as pending, and
the next tick yields no frame. -/
theorem foreign_stalls :
    (((ofStore lodging).history accepted errand).map (·.mark)) = [0] ∧
      (((ofStore lodging).history drains errand).flatMap (·.retired)) = [9] ∧
      ((ofStore lodging).run errand).store.events.map (·.mark) = [0] ∧
      ((ofStore lodging).run errand).pending = 0 ∧
      ((ofStore lodging).run errand).nextFrame.value = .ok none := by
  refine ⟨by decide +kernel, by decide +kernel, by decide +kernel, by decide +kernel,
    by decide +kernel⟩

end Track
end BucketClock
