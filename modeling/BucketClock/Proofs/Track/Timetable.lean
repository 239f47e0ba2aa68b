import BucketClock.Proofs.Stops
import BucketClock.Proofs.Track.Calm
import BucketClock.Proofs.Track.Delivery

/-!
The timetable of a commitment. Where no store call fails, the buckets in which
an accepted commitment is drained follow from its first bucket, its policy, the
frame width and the increment alone: whatever else the track has in flight, the
slices come in these buckets and no others, and the clock does not stand still
before the last of them (`timetable`). Without a policy, and under one that keeps a
step, these buckets are the same number apart.
-/

namespace BucketClock.Track

open Commitment (goods survivors dueAt stop lastStop drainCount pace Standing)
open Drain (handed)

variable {α : Type}

/-! ## On the way to a stop -/

/-- The clock has come past all stops of `e` before stop `j`, where it is filed. -/
structure Waiting (width increment : Nat) (e : Commitment α) (j : Nat) (t : Track α Unit) :
    Prop where
  reached : t.position ≤ stop width increment e j
  passed : ∀ i < j, stop width increment e i < t.position
  filed : ∃ c ∈ t.store.contents (stop width increment e j), Standing width increment e j c

/-- What a tick does to a commitment that waits for stop `j`: it passes it over, or at the stop
hands out its slice and sends it to the next stop, if it has one. -/
inductive Carried (t : Track α Unit) (e : Commitment α) (j : Nat) (d : Drain α) : Prop
  | passed (before : t.position < stop t.frameWidth t.increment e j)
      (slices : d.slicesOf e.mark = []) (retired : e.mark ∉ d.retired)
      (waiting : Waiting t.frameWidth t.increment e j t.nextFrame.state)
  | drained (there : t.position = stop t.frameWidth t.increment e j)
      (slices : d.slicesOf e.mark = [(e.supply.rest.drop (j * t.frameWidth)).take t.frameWidth])
      (retired : e.mark ∈ d.retired ↔ e.supply.rest.length ≤ (j + 1) * t.frameWidth)
      (waiting : (j + 1) * t.frameWidth < e.supply.rest.length →
        Waiting t.frameWidth t.increment e (j + 1) t.nextFrame.state)

/-- On the way to a stop a tick drains other commitments only. -/
theorem Waiting.passed_over {t : Track α Unit} {accepted : List (Commitment α)}
    {ds : List (Drain α)} (h : t.Ledger accepted ds) (hstranded : t.stranded = [])
    {e : Commitment α} {j : Nat} (hlast : stop t.frameWidth t.increment e j < Index.last)
    (hw : Waiting t.frameWidth t.increment e j t)
    (hlt : t.position < stop t.frameWidth t.increment e j) :
    Carried t e j (.ofDue t.position t.frameWidth t.due) := by
  obtain ⟨c, hc, hstanding⟩ := hw.filed
  have hsound := h.tally.sound
  have hlive := hsound.mem_live hc
  obtain ⟨_, hnext, _, hdue, filed, _, hcontents⟩ := nextFrame_framed hsound hstranded
    (Nat.lt_trans hlt hlast) (List.ne_nil_of_mem hlive)
  have habsent : e.mark ∉ t.due.map (·.mark) := by
    intro hmark
    obtain ⟨c', hc', hsame⟩ := List.mem_map.mp hmark
    rw [hdue] at hc'
    -- the only commitment in flight with this number is filed in a later bucket
    obtain rfl : c' = c := List.inj_on_of_nodup_map h.tally.live_nodup (hsound.mem_live hc') hlive
      (hsame.trans hstanding.mark.symm)
    have htime := (hsound.filed _ c' hc').1
    rw [hstanding.deliveryTime] at htime
    omega
  obtain ⟨hslices, hretired⟩ := Drain.no_share habsent
  refine .passed hlt hslices hretired ⟨by omega, ?_, c, ?_, hstanding⟩
  · intro i hi
    have hpassed := hw.passed i hi
    omega
  · rw [hcontents _ hlt]
    exact List.mem_append_left _ hc

/-- At its stop a tick draws from the commitment and files it for the next one. -/
theorem Waiting.drained {t : Track α Unit} {accepted : List (Commitment α)} {ds : List (Drain α)}
    (h : t.Ledger accepted ds) (hstranded : t.stranded = []) {e : Commitment α} {j : Nat}
    (hlast : stop t.frameWidth t.increment e j < Index.last) (hid : e.id ≠ none)
    (hw : Waiting t.frameWidth t.increment e j t)
    (heq : t.position = stop t.frameWidth t.increment e j) :
    Carried t e j (.ofDue t.position t.frameWidth t.due) := by
  obtain ⟨c, hc, hstanding⟩ := hw.filed
  have hsound := h.tally.sound
  obtain ⟨_, hnext, _, hdue, filed, hrefiled, hcontents⟩ := nextFrame_framed hsound hstranded
    (heq ▸ hlast) (List.ne_nil_of_mem (hsound.mem_live hc))
  have hdue' : c ∈ t.due := by
    rw [hdue, heq]
    exact hc
  have hnodup : (t.due.map (·.mark)).Nodup := by
    have hsublist := (Store.contents_sublist hsound.ready.sane.tidy.orderly t.position).trans
      (List.sublist_append_left t.store.events t.stranded)
    rw [hdue]
    exact (hsublist.map _).nodup h.tally.live_nodup
  obtain ⟨hslices, hretired⟩ := Drain.share t.position t.frameWidth hdue' hnodup
  rw [hstanding.mark] at hslices hretired
  rw [hstanding.draw_value] at hslices
  rw [hstanding.isExhausted_iff] at hretired
  refine .drained heq hslices hretired ?_
  intro hmore
  have hsurvivor := Commitment.mem_survivors hdue' fun hnone =>
    Nat.not_lt_of_le (hstanding.isExhausted_iff.mp hnone) hmore
  obtain ⟨c', hc', hid'⟩ := hrefiled.image (List.mem_map_of_mem hsurvivor)
  rw [List.append_nil] at hc'
  rw [heq] at hid'
  have hstanding' := hstanding.onward hlast hid hid'
  have hnextStop := Commitment.stop_lt_succ t.frameWidth t.increment e j
  refine ⟨by omega, ?_, c', ?_, hstanding'⟩
  · intro i hi
    have hle := (Commitment.stop_strictMono t.frameWidth t.increment e).monotone
      (Nat.le_of_lt_succ hi)
    omega
  · rw [hcontents _ (by omega)]
    exact List.mem_append_right _ (Commitment.mem_dueAt.mpr ⟨hc', hstanding'.deliveryTime⟩)

theorem Waiting.tick {t : Track α Unit} {accepted : List (Commitment α)} {ds : List (Drain α)}
    (h : t.Ledger accepted ds) (hstranded : t.stranded = []) {e : Commitment α} {j : Nat}
    (hlast : stop t.frameWidth t.increment e j < Index.last) (hid : e.id ≠ none)
    (hw : Waiting t.frameWidth t.increment e j t) :
    (∃ frame, t.nextFrame.value = .ok (some frame)) ∧
      Carried t e j (.ofDue t.position t.frameWidth t.due) := by
  obtain ⟨c, hc, _⟩ := hw.filed
  obtain ⟨hframe, _⟩ := nextFrame_framed h.tally.sound hstranded
    (Nat.lt_of_le_of_lt hw.reached hlast) (List.ne_nil_of_mem (h.tally.sound.mem_live hc))
  refine ⟨hframe, ?_⟩
  rcases Nat.lt_or_eq_of_le hw.reached with hlt | heq
  · exact hw.passed_over h hstranded hlast hlt
  · exact hw.drained h hstranded hlast hid heq

/-- Another commitment changes nothing about the way. -/
theorem Waiting.schedule {t : Track α Unit} {width increment j : Nat} {e : Commitment α}
    (hw : Waiting width increment e j t) (h : t.Sound) {e' : Commitment α}
    (hfull : e'.phase = .full) : Waiting width increment e j (t.perform (.schedule e')) := by
  have hfull' : (t.numbered e').phase = .full := hfull
  have hposition : (t.perform (.schedule e')).position = t.position := schedule_position _ _
  obtain ⟨c, hc, hstanding⟩ := hw.filed
  refine ⟨by rw [hposition]; exact hw.reached, by rw [hposition]; exact hw.passed, c, ?_, hstanding⟩
  show c ∈ (t.schedule (t.numbered e')).state.store.contents _
  have hle : (t.schedule (t.numbered e')).state.position ≤ stop width increment e j := by
    rw [schedule_position]
    exact hw.reached
  rcases schedule_turn h hfull' with ⟨_, _, _, _, hturn⟩ | ⟨_, _, _, hturn⟩
  · rw [hturn.contents _ hle]
    exact List.mem_append_left _ hc
  · rw [hturn.contents _ hle]
    exact List.mem_append_left _ hc

/-! ## From the first stop to the last -/

/-- Where a commitment is on its timetable: on the way to one of its stops, or past the last. -/
inductive Stage (width increment : Nat) (e : Commitment α) (t : Track α Unit)
    (ds : List (Drain α)) : Prop
  | waiting {j : Nat} (h : j < drainCount width e) (waiting : Waiting width increment e j t)
  | past (passed : lastStop width increment e < t.position)
      (retired : e.mark ∈ ds.flatMap (·.retired))

theorem Stage.tick {t : Track α Unit} {accepted : List (Commitment α)} {ds : List (Drain α)}
    (h : t.Ledger accepted ds) (hstranded : t.stranded = []) {e : Commitment α}
    (hlast : lastStop t.frameWidth t.increment e < Index.last) (hid : e.id ≠ none)
    (hs : Stage t.frameWidth t.increment e t ds) :
    Stage t.frameWidth t.increment e t.nextFrame.state (ds ++ t.drains .tick) := by
  cases hs with
  | @waiting j hj hw =>
    have hle := Commitment.stop_le_lastStop hj t.increment
    obtain ⟨⟨frame, hframe⟩, hcarried⟩ := hw.tick h hstranded (Nat.lt_of_le_of_lt hle hlast) hid
    obtain ⟨hdrains, _, hnext⟩ := frame_of_tick h.tally.sound hframe
    cases hcarried with
    | passed _ _ _ hw' => exact .waiting hj hw'
    | drained hthere _ hretired hmore =>
      have hcount := Commitment.lt_drainCount_iff t.frameWidth_pos e j
      by_cases hend : j + 1 < drainCount t.frameWidth e
      · exact .waiting hend (hmore (hcount.mp hend))
      · have hj' : drainCount t.frameWidth e - 1 = j := by omega
        refine .past ?_ ?_
        · rw [Commitment.lastStop, hj', hnext, hthere]
          exact Nat.lt_succ_self _
        · rw [hdrains, List.flatMap_append, List.flatMap_singleton]
          apply List.mem_append_right
          exact hretired.mpr (Nat.le_of_not_lt fun hlt => hend (hcount.mpr hlt))
  | past hpassed hretired =>
    have hticked := nextFrame_ticked h.tally.sound
    have hposition : t.position ≤ t.nextFrame.state.position := by
      generalize t.frames .tick = frames, t.drains .tick = drains, t.nextFrame.state = t'
        at hticked ⊢
      cases hticked with
      | still _ hsame _ => exact Nat.le_of_eq hsame.symm
      | drained _ _ hnext _ => omega
    refine .past (Nat.lt_of_lt_of_le hpassed hposition) ?_
    rw [List.flatMap_append]
    exact List.mem_append_left _ hretired

/-- A drain that keeps to the timetable of a commitment: at a stop it hands out the slice of that
stop and nothing elsewhere, and it retires the commitment at the last stop. -/
structure Keeps (width increment : Nat) (e : Commitment α) (d : Drain α) : Prop where
  slice : ∀ j < drainCount width e, d.bucket = stop width increment e j →
    d.slicesOf e.mark = [(e.supply.rest.drop (j * width)).take width]
  elsewhere : (∀ j < drainCount width e, d.bucket ≠ stop width increment e j) →
    d.slicesOf e.mark = []
  retired : e.mark ∈ d.retired ↔ d.bucket = lastStop width increment e

/-- What holds of an accepted commitment in a state with the drains `ds` behind it: the clock
moves on with every tick until the commitment is retired, which is when its last stop was drained,
and the next drain keeps to the timetable. -/
structure OnTime (width increment : Nat) (e : Commitment α) (t : Track α Unit)
    (ds : List (Drain α)) : Prop where
  ticks : e.mark ∉ ds.flatMap (·.retired) → ∃ d, t.drains .tick = [d] ∧
    t.nextFrame.value = .ok (some d.frame) ∧ t.nextFrame.state.position = t.position + 1
  ended : e.mark ∈ ds.flatMap (·.retired) ↔ lastStop width increment e < t.position
  keeps : ∀ d ∈ t.drains .tick, d.bucket = t.position ∧ Keeps width increment e d

/-- The drain at a stop is the drain of that stop only. -/
theorem Carried.keeps {t : Track α Unit} {e : Commitment α} {j : Nat}
    (hj : j < drainCount t.frameWidth e) (hw : Waiting t.frameWidth t.increment e j t)
    (hc : Carried t e j (.ofDue t.position t.frameWidth t.due)) :
    Keeps t.frameWidth t.increment e (.ofDue t.position t.frameWidth t.due) := by
  have hmono := Commitment.stop_strictMono t.frameWidth t.increment e
  have hle := Commitment.stop_le_lastStop hj t.increment
  have hstop : ∀ i, t.position = stop t.frameWidth t.increment e i → j ≤ i := by
    intro i hi
    apply Nat.le_of_not_lt
    intro hlt
    exact Nat.ne_of_gt (hw.passed i hlt) hi
  cases hc with
  | passed hbefore hslices hretired _ =>
    refine ⟨?_, fun _ => hslices, ?_⟩
    · intro i _ hi
      have hji := hmono.monotone (hstop i hi)
      exact absurd hi (Nat.ne_of_lt (Nat.lt_of_lt_of_le hbefore hji))
    · refine ⟨fun hmem => absurd hmem hretired, fun hi => ?_⟩
      exact absurd hi (Nat.ne_of_lt (Nat.lt_of_lt_of_le hbefore hle))
  | drained hthere hslices hretired _ =>
    refine ⟨?_, fun helse => absurd hthere (helse j hj), ?_⟩
    · intro i _ hi
      rw [hmono.injective (hi.symm.trans hthere)]
      exact hslices
    · have hcount := Commitment.lt_drainCount_iff t.frameWidth_pos e j
      rw [hretired, ← Nat.not_lt, ← hcount]
      constructor
      · intro hend
        have hj' : drainCount t.frameWidth e - 1 = j := by omega
        rw [Commitment.lastStop, hj']
        exact hthere
      · intro hlast
        have hj' := hmono.injective (hlast.symm.trans hthere)
        omega

theorem Stage.onTime {t : Track α Unit} {accepted : List (Commitment α)} {ds : List (Drain α)}
    (h : t.Ledger accepted ds) (hstranded : t.stranded = []) {e : Commitment α}
    (hlast : lastStop t.frameWidth t.increment e < Index.last) (hid : e.id ≠ none)
    (hs : Stage t.frameWidth t.increment e t ds) : OnTime t.frameWidth t.increment e t ds := by
  have hsound := h.tally.sound
  cases hs with
  | @waiting j hj hw =>
    have hle := Commitment.stop_le_lastStop hj t.increment
    obtain ⟨⟨frame, hframe⟩, hcarried⟩ := hw.tick h hstranded (Nat.lt_of_le_of_lt hle hlast) hid
    obtain ⟨hdrains, rfl, hnext⟩ := frame_of_tick hsound hframe
    have hlive : e.mark ∈ t.live.map (·.mark) := by
      obtain ⟨c, hc, hstanding⟩ := hw.filed
      rw [← hstanding.mark]
      exact List.mem_map_of_mem (hsound.mem_live hc)
    refine ⟨fun _ => ⟨_, hdrains, hframe, hnext⟩, ?_, ?_⟩
    · refine ⟨fun hretired => absurd hretired (h.tally.not_retired hlive), fun hpassed => ?_⟩
      exact absurd hpassed (Nat.not_lt_of_le (Nat.le_trans hw.reached hle))
    · intro d hd
      rw [hdrains] at hd
      rw [List.mem_singleton.mp hd]
      exact ⟨rfl, hcarried.keeps hj hw⟩
  | past hpassed hretired =>
    have hout : e.mark ∉ t.live.map (·.mark) := fun hlive => h.tally.not_retired hlive hretired
    refine ⟨fun hnot => absurd hretired hnot, ⟨fun _ => hpassed, fun _ => hretired⟩, ?_⟩
    intro d hd
    obtain ⟨rfl, _, hbefore⟩ := drains_of_tick hsound hd
    obtain ⟨hslices, hnot⟩ := no_share_of_not_live hbefore hout
    refine ⟨rfl, ?_, fun _ => hslices, ?_⟩
    · intro j hj hthere
      have hle := Commitment.stop_le_lastStop hj t.increment
      have hposition : t.position = stop t.frameWidth t.increment e j := hthere
      omega
    · refine ⟨fun hmem => absurd hmem hnot, fun hthere => ?_⟩
      have hposition : t.position = lastStop t.frameWidth t.increment e := hthere
      omega

/-! ## The timetable -/

/-- A commitment as a track books it: under its number, with an identity, and past the clock. -/
def booked (t : Track α Unit) (e : Commitment α) : Commitment α :=
  { t.numbered e with
    id := some (t.store.identity e)
    deliveryTime := max e.deliveryTime (t.position + 1) }

/-- A full commitment is accepted, and waits for its first stop. -/
theorem schedule_waiting {t : Track α Unit} (h : t.Sound) {e : Commitment α}
    (hfull : e.phase = .full) (hsound : e.supply.Sound) (hlast : t.position < Index.last) :
    (t.schedule (t.numbered e)).value = .ok () ∧
      Waiting t.frameWidth t.increment (t.booked e) 0 (t.perform (.schedule e)) := by
  have hfull' : (t.numbered e).phase = .full := hfull
  have hadmitted : (t.numbered e).admitted t.position =
      { t.numbered e with deliveryTime := max e.deliveryTime (t.position + 1) } := by
    have hnext : Index.next t.position = t.position + 1 := Index.add_eq_of_le hlast
    unfold Commitment.admitted
    by_cases hlate : e.deliveryTime ≤ t.position
    · rw [if_pos ⟨hfull', hlate⟩, hnext, Nat.max_eq_right (by omega)]
      rfl
    · rw [if_neg fun hcond => hlate hcond.2, Nat.max_eq_left (by omega)]
      rfl
  have hfiling : t.filing ((t.numbered e).admitted t.position) = [t.booked e] := by
    simp only [filing, Store.commit_ok, hadmitted]
    rfl
  have hposition : (t.perform (.schedule e)).position = t.position := schedule_position _ _
  rcases schedule_turn h hfull' with ⟨e', _, hvalue, hfiled, hturn⟩ | ⟨_, _, hfiled, _⟩
  · obtain rfl : e' = t.booked e := by
      rw [hfiling] at hfiled
      exact (List.singleton_inj.mp hfiled).symm
    have hpast : t.position < (t.booked e).deliveryTime := Nat.lt_of_succ_le (Nat.le_max_right _ _)
    refine ⟨hvalue, ?_, ?_, t.booked e, ?_, ⟨rfl, rfl, rfl, rfl, hsound, ?_⟩⟩
    · rw [hposition]
      exact Nat.le_of_lt hpast
    · intro i hi
      exact absurd hi (Nat.not_lt_zero i)
    · have hcontents := hturn.contents (t.booked e).deliveryTime (by
        rw [schedule_position]
        exact Nat.le_of_lt hpast)
      show t.booked e ∈ (t.schedule (t.numbered e)).state.store.contents (t.booked e).deliveryTime
      rw [hcontents]
      apply List.mem_append_right
      exact Commitment.mem_dueAt.mpr ⟨List.mem_cons_self, rfl⟩
    · rw [Nat.zero_mul]
      rfl
  · rw [hfiling] at hfiled
    cases hfiled

/-- Over every run a commitment stays on its timetable. -/
theorem stage_run {t₀ : Track α Unit} (h : t₀.Opened) {rs : List (Request α)}
    (hfresh : ∀ r ∈ rs, r.Fresh) {e : Commitment α}
    (hlast : lastStop t₀.frameWidth t₀.increment e < Index.last) (hid : e.id ≠ none)
    (hs : Stage t₀.frameWidth t₀.increment e (t₀.run rs) (t₀.history drains rs))
    {rs' : List (Request α)} (hfresh' : ∀ r ∈ rs', r.Fresh) :
    Stage t₀.frameWidth t₀.increment e (t₀.run (rs ++ rs')) (t₀.history drains (rs ++ rs')) := by
  induction rs' using List.reverseRecOn with
  | nil =>
    rw [List.append_nil]
    exact hs
  | append_singleton rs' r ih =>
    obtain ⟨hfresh', hr⟩ := List.forall_mem_append.mp hfresh'
    have hr := List.forall_mem_singleton.mp hr
    have ih := ih hfresh'
    have hall := List.forall_mem_append.mpr ⟨hfresh, hfresh'⟩
    have hledger := ledger_run h Outage.keepsEvents_unit hall
    obtain ⟨hlater, hstranded⟩ := stranded_run h fun r hr => (hall r hr).full
    rw [← List.append_assoc, run_snoc, history_snoc]
    cases r with
    | schedule e' =>
      have hdrains : (t₀.run (rs ++ rs')).drains (.schedule e') = [] := rfl
      rw [hdrains, List.append_nil]
      cases ih with
      | waiting hj hw => exact .waiting hj (hw.schedule hlater.sound hr.full)
      | past hpassed hretired =>
        have hposition : ((t₀.run (rs ++ rs')).perform (.schedule e')).position =
            (t₀.run (rs ++ rs')).position := schedule_position _ _
        exact .past (hposition ▸ hpassed) hretired
    | tick =>
      rw [← hlater.frameWidth, ← hlater.increment] at ih hlast ⊢
      exact ih.tick hledger hstranded hlast hid

/-- The timetable: where no store call fails, a commitment that has a last stop is accepted, and
from then on every run keeps to its timetable, whatever else is in flight. It stops for the first
time where it asked to, but after the clock, and from there at even steps if it keeps a pace. -/
theorem timetable {t₀ : Track α Unit} (h : t₀.Opened) {rs : List (Request α)}
    (hfresh : ∀ r ∈ rs, r.Fresh) {e : Commitment α} (he : (Request.schedule e).Fresh)
    (hlast : lastStop t₀.frameWidth t₀.increment ((t₀.run rs).booked e) < Index.last) :
    ((t₀.run rs).schedule ((t₀.run rs).numbered e)).value = .ok () ∧
      handed ((t₀.run rs).booked e).mark (t₀.history drains rs) = [] ∧
      (∀ step, pace t₀.increment e.policy = some step →
        ∀ j < drainCount t₀.frameWidth ((t₀.run rs).booked e),
          stop t₀.frameWidth t₀.increment ((t₀.run rs).booked e) j =
            max e.deliveryTime ((t₀.run rs).position + 1) + j * step) ∧
      ∀ rs', (∀ r ∈ rs', r.Fresh) →
        OnTime t₀.frameWidth t₀.increment ((t₀.run rs).booked e)
          (t₀.run (rs ++ .schedule e :: rs')) (t₀.history drains (rs ++ .schedule e :: rs')) := by
  have hledger := ledger_run h Outage.keepsEvents_unit hfresh
  obtain ⟨hlater, _⟩ := stranded_run h fun r hr => (hfresh r hr).full
  have hid : ((t₀.run rs).booked e).id ≠ none := fun hnone => by cases hnone
  have hcount : 0 < drainCount t₀.frameWidth ((t₀.run rs).booked e) :=
    Nat.lt_of_lt_of_le Nat.one_pos (Nat.le_max_left _ _)
  have hinRange : (t₀.run rs).position < Index.last := by
    have hfirst : (t₀.run rs).position + 1 ≤ ((t₀.run rs).booked e).deliveryTime :=
      Nat.le_max_right _ _
    have hle := Commitment.stop_le_lastStop hcount t₀.increment
    exact Nat.lt_of_succ_le (Nat.le_of_lt (Nat.lt_of_le_of_lt (Nat.le_trans hfirst hle) hlast))
  obtain ⟨hvalue, hwaiting⟩ := schedule_waiting hlater.sound he.1 he.2.sound hinRange
  refine ⟨hvalue, hledger.unused _ (Nat.le_of_eq hledger.tally.scheduled.symm), ?_, ?_⟩
  · intro step hpace j hj
    have hbooked : pace t₀.increment ((t₀.run rs).booked e).policy = some step := hpace
    exact Commitment.stop_of_pace hbooked t₀.increment_pos hlast hj
  intro rs' hfresh'
  have hfirst := List.forall_mem_append.mpr ⟨hfresh, List.forall_mem_singleton.mpr he⟩
  have hall := List.forall_mem_append.mpr ⟨hfirst, hfresh'⟩
  have hstart : Stage t₀.frameWidth t₀.increment ((t₀.run rs).booked e)
      (t₀.run (rs ++ [.schedule e])) (t₀.history drains (rs ++ [.schedule e])) := by
    rw [run_snoc, ← hlater.frameWidth, ← hlater.increment]
    exact .waiting (by rw [hlater.frameWidth]; exact hcount) hwaiting
  have hstage := stage_run h hfirst hlast hid hstart hfresh'
  have hledger' := ledger_run h Outage.keepsEvents_unit hall
  obtain ⟨hlater', hstranded'⟩ := stranded_run h fun r hr => (hall r hr).full
  rw [List.append_cons]
  rw [← hlater'.frameWidth, ← hlater'.increment] at hlast hstage ⊢
  exact hstage.onTime hledger' hstranded' hlast hid

/-- A commitment with three items, which goes on two buckets further each time, scheduled between
two runs of the same requests. -/
theorem timetable_requests :
    let t₀ : Track Nat Unit := .ofStore (.empty ())
    let e : Commitment Nat :=
      { deliveryTime := 0, supply := .ofList [4, 5, 6], policy := some (.every 2) }
    lastStop 1 1 ((t₀.run requests).booked e) = 7 ∧
      (∀ j < 3, stop 1 1 ((t₀.run requests).booked e) j = 3 + j * 2) ∧
      OnTime 1 1 ((t₀.run requests).booked e) (t₀.run (requests ++ .schedule e :: requests))
        (t₀.history drains (requests ++ .schedule e :: requests)) := by
  intro t₀ e
  have hlast : lastStop 1 1 ((t₀.run requests).booked e) = 7 := by decide +kernel
  have hfirst : max e.deliveryTime ((t₀.run requests).position + 1) = 3 := by decide +kernel
  have hcount : drainCount 1 ((t₀.run requests).booked e) = 3 := by decide +kernel
  obtain ⟨_, _, heven, honTime⟩ := timetable (.ofStore ()) requests_fresh (e := e)
    ⟨rfl, .ofList _ (by decide)⟩ (hlast.trans_lt (by decide))
  refine ⟨hlast, fun j hj => ?_, honTime requests requests_fresh⟩
  rw [← hfirst]
  rw [← hcount] at hj
  exact heven 2 rfl j hj

end BucketClock.Track
