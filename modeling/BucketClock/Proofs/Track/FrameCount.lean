import BucketClock.Proofs.Stops
import BucketClock.Proofs.Track.Calm
import BucketClock.Proofs.Track.Drive
import BucketClock.Proofs.Track.Resubmission

/-!
How many frames a drive makes. Over a store that never fails a commitment
without a policy goes on by the increment after each of its slices, so the
bucket of its last drain is known from the bucket it is filed in and the items
it has left (`finals`). A tick moves a commitment and leaves that bucket as it
is (`Stepped.bound`). So a drive without a cap goes up to the last of these buckets,
one frame for each bucket on the way, and ends with an empty store
(`drive_frames`).
-/

namespace BucketClock

namespace Commitment

variable {α : Type}

/-- The bucket of the last drain of a commitment without a policy that is filed in `bucket`: it
goes on by the increment after each slice but the last. -/
def lastFrom (width increment bucket : Nat) (e : Commitment α) : Nat :=
  bucket + (drainCount width e - 1) * increment

theorem le_lastFrom (width increment bucket : Nat) (e : Commitment α) :
    bucket ≤ lastFrom width increment bucket e := Nat.le_add_right _ _

theorem survivors_origin {width : Nat} {es : List (Commitment α)} {c : Commitment α}
    (h : c ∈ survivors width es) :
    ∃ e ∈ es, c = e.drawn width ∧ ¬ (e.drawn width).supply.isExhausted = true := by
  obtain ⟨hmem, hleft⟩ := List.mem_filter.mp h
  obtain ⟨e, he, rfl⟩ := List.mem_map.mp hmem
  exact ⟨e, he, rfl, by simpa using hleft⟩

/-- A commitment survives a draw if it has more items than the draw takes. -/
theorem drawn_survives {width : Nat} {e : Commitment α} (h : e.supply.Sound) :
    ¬ (e.drawn width).supply.isExhausted = true ↔ width < e.supply.rest.length := by
  have hexhausted := Supply.take_isExhausted h width
  rw [List.drop_eq_nil_iff] at hexhausted
  exact (not_congr hexhausted).trans Nat.not_le

theorem lt_rest_iff {width : Nat} (h : 0 < width) (e : Commitment α) :
    width < e.supply.rest.length ↔ 1 < drainCount width e := by
  have hcount := lt_drainCount_iff h e 0
  rw [Nat.zero_add, Nat.one_mul] at hcount
  exact hcount.symm

/-- A slice is one drain less. -/
theorem drainCount_drop {width : Nat} (h : 0 < width) {e e' : Commitment α}
    (hrest : e'.supply.rest = e.supply.rest.drop width) (hmore : width < e.supply.rest.length) :
    drainCount width e = drainCount width e' + 1 := by
  have hlength : e.supply.rest.length + width - 1 = e'.supply.rest.length + width - 1 + width := by
    rw [hrest, List.length_drop]
    omega
  have hone : 1 ≤ (e'.supply.rest.length + width - 1) / width := by
    rw [Nat.le_div_iff_mul_le h, hrest, List.length_drop]
    omega
  simp only [drainCount, hlength, Nat.add_div_right _ h]
  omega

/-- A commitment without a policy goes on by the increment, with what the slice left. -/
structure Advanced (width increment position : Nat) (e e' : Commitment α) : Prop where
  deliveryTime : e'.deliveryTime = position + increment
  policy : e'.policy = none
  sound : e'.supply.Sound
  rest : e'.supply.rest = e.supply.rest.drop width

theorem onward_advanced {width increment position : Nat} {e e' : Commitment α}
    (hpolicy : e.policy = none) (hsound : e.supply.Sound) (hpos : 0 < increment)
    (hlast : position + increment ≤ Index.last)
    (he' : ((e.drawn width).onward position increment).Identified e') :
    Advanced width increment position e e' := by
  have hplain : (e.drawn width).policy = none := hpolicy
  have hlt : position < Index.last := by omega
  have hgoOn := onward_goOn hlt increment (e.drawn width)
  rw [hplain, goOn_of_pace rfl hpos hlast] at hgoOn
  have hsupply : ((e.drawn width).onward position increment).supply = (e.supply.take width).state :=
    congrArg Prod.snd (goods_onward position increment (e.drawn width))
  obtain ⟨id, rfl, _⟩ := he'
  refine ⟨congrArg Prod.fst hgoOn, congrArg Prod.snd hgoOn, ?_, ?_⟩
  · show ((e.drawn width).onward _ _).supply.Sound
    rw [hsupply]
    exact Supply.take_sound hsound width
  · show ((e.drawn width).onward _ _).supply.rest = _
    rw [hsupply]
    exact Supply.take_rest hsound width

/-- Its last bucket stays the same. -/
theorem Advanced.lastFrom_eq {width increment position : Nat} {e e' : Commitment α}
    (h : Advanced width increment position e e') (hpos : 0 < width)
    (hmore : width < e.supply.rest.length) :
    lastFrom width increment (position + increment) e' = lastFrom width increment position e := by
  have hcount := drainCount_drop hpos h.rest hmore
  have hone : 1 ≤ drainCount width e' := Nat.le_max_left _ _
  obtain ⟨n, hn⟩ := Nat.exists_eq_add_of_le' hone
  rw [lastFrom, lastFrom, hcount, hn, Nat.add_sub_cancel, Nat.add_sub_cancel, Nat.succ_mul]
  omega

end Commitment

namespace Track

open Commitment (survivors dueAt lastFrom)

variable {α φ σ : Type}

def finals (t : Track α φ) : List Nat :=
  t.store.stored.flatMap fun b => b.2.events.map (lastFrom t.frameWidth t.increment b.1)

theorem finals_eq_nil {t : Track α φ} : t.finals = [] ↔ t.store.events = [] := by
  simp [finals, Store.events]

section

variable [Outage φ]

theorem Sound.mem_finals {t : Track α φ} (h : t.Sound) {n : Nat} :
    n ∈ t.finals ↔
      ∃ id, ∃ e ∈ t.store.contents id, lastFrom t.frameWidth t.increment id e = n := by
  have htidy := h.ready.sane.tidy
  simp only [finals, List.mem_flatMap, List.mem_map]
  constructor
  · rintro ⟨b, hb, e, he, rfl⟩
    obtain ⟨_, hevents, _⟩ := mem_stored htidy hb
    exact ⟨b.1, e, hevents ▸ he, rfl⟩
  · rintro ⟨id, e, he, rfl⟩
    obtain ⟨slot, hslot⟩ := (Shelf.mem_keys_iff id _).mp
      (Store.mem_bucketIds_of_contents (List.ne_nil_of_mem he))
    refine ⟨(id, t.store.bucket slot), ?_, e, ?_, rfl⟩
    · exact List.mem_map.mpr ⟨(id, slot), (Shelf.mem_entries_iff htidy.sorted id slot).mpr hslot, rfl⟩
    · rw [← Store.contents_of_lookup hslot]
      exact he

theorem Sound.position_le_finals {t : Track α φ} (h : t.Sound) {n : Nat} (hn : n ∈ t.finals) :
    t.position ≤ n := by
  obtain ⟨id, e, he, rfl⟩ := h.mem_finals.mp hn
  exact Nat.le_trans (h.filed id e he).2 (Commitment.le_lastFrom _ _ _ e)

end

/-! ## The states of a drive -/

/-- A track over a store that never fails, with nothing in flight that has a policy. -/
structure Plain (t : Track α Unit) : Prop where
  sound : t.Sound
  running : t.Running
  stocked : t.Stocked
  policies : ∀ id, ∀ e ∈ t.store.contents id, e.policy = none
  supplies : ∀ id, ∀ e ∈ t.store.contents id, e.supply.Sound

theorem Plain.live_eq {t : Track α Unit} (h : t.Plain) : t.live = t.store.events := by
  rw [live, h.running.calm.stranded, List.append_nil]

theorem Plain.undeferred {t : Track α Unit} (h : t.Plain) : t.hasDeferredWork = false := by
  simp [hasDeferredWork, h.running.calm.stranded, h.running.calm.stale]

/-- There is work as long as something is in flight. -/
theorem Plain.hasWork_iff {t : Track α Unit} (h : t.Plain) : t.hasWork = true ↔ t.finals ≠ [] := by
  have hempty := h.sound.undeferred h.stocked h.undeferred
  rw [h.sound.pending, List.length_eq_zero_iff, h.live_eq, ← finals_eq_nil] at hempty
  rw [hasWork, h.undeferred, Bool.or_false, Bool.not_eq_true', ← Bool.not_eq_true]
  exact not_congr hempty

/-- `goal` is the first bucket from the clock on that nothing in flight goes to. -/
structure Bound (t : Track α Unit) (goal : Nat) : Prop where
  below : ∀ n ∈ t.finals, n < goal
  reached : goal = t.position ∨ ∃ n ∈ t.finals, goal = n + 1

theorem Bound.position_le {t : Track α Unit} {goal : Nat} (h : t.Bound goal) (hsound : t.Sound) :
    t.position ≤ goal := by
  rcases h.reached with heq | ⟨n, hn, heq⟩
  · exact Nat.le_of_eq heq.symm
  · have hle := hsound.position_le_finals hn
    omega

theorem Bound.lt_last {t : Track α Unit} {goal : Nat} (h : t.Bound goal)
    (hgoal : goal ≤ Index.last) : ∀ n ∈ t.finals, n < Index.last :=
  fun n hn => Nat.lt_of_lt_of_le (h.below n hn) hgoal

/-! ## One tick -/

/-- A tick with something in flight makes a frame. What is filed after it was there before, or it
comes from a commitment of the drained bucket that goes on. -/
structure Stepped (t : Track α Unit) : Prop where
  frame : ∃ frame, t.nextFrame.value = .ok (some frame)
  position : t.nextFrame.state.position = t.position + 1
  origin : ∀ id, ∀ e' ∈ t.nextFrame.state.store.contents id, e' ∈ t.store.contents id ∨
    ∃ e ∈ t.store.contents t.position, t.frameWidth < e.supply.rest.length ∧
      id = t.position + t.increment ∧ e.Advanced t.frameWidth t.increment t.position e'
  kept : ∀ id, t.position < id → ∀ e ∈ t.store.contents id,
    e ∈ t.nextFrame.state.store.contents id
  advanced : ∀ e ∈ t.store.contents t.position, t.frameWidth < e.supply.rest.length →
    ∃ e' ∈ t.nextFrame.state.store.contents (t.position + t.increment),
      e.Advanced t.frameWidth t.increment t.position e'

theorem Plain.stepped {t : Track α Unit} (h : t.Plain) (hlive : t.finals ≠ [])
    (hlast : ∀ n ∈ t.finals, n < Index.last) : t.Stepped := by
  have hsound := h.sound
  have hlater : Later t t.nextFrame.state := hsound.perform (r := .tick) trivial
  obtain ⟨first, hfirst⟩ := List.exists_mem_of_ne_nil _ hlive
  have hroom : t.position < Index.last :=
    Nat.lt_of_le_of_lt (hsound.position_le_finals hfirst) (hlast first hfirst)
  have hlive' : t.live ≠ [] := by
    rw [h.live_eq]
    exact fun hnil => hlive (finals_eq_nil.mpr hnil)
  obtain ⟨hframe, hposition, _, hdue, filed, hrefiled, hcontents⟩ :=
    nextFrame_framed hsound h.running.calm.stranded hroom hlive'
  -- the last bucket of a commitment that goes on is at least one increment ahead, so the bucket
  -- it goes to is in range
  have hadvance : ∀ e ∈ t.store.contents t.position, t.frameWidth < e.supply.rest.length →
      ∀ e', ((e.drawn t.frameWidth).onward t.position t.increment).Identified e' →
        e.Advanced t.frameWidth t.increment t.position e' := by
    intro e he hmore e' he'
    have hcount := (Commitment.lt_rest_iff t.frameWidth_pos e).mp hmore
    have hbelow := hlast _ (hsound.mem_finals.mpr ⟨_, e, he, rfl⟩)
    have hstep : t.increment ≤ (Commitment.drainCount t.frameWidth e - 1) * t.increment :=
      Nat.le_mul_of_pos_left _ (by omega)
    rw [lastFrom] at hbelow
    exact Commitment.onward_advanced (h.policies _ e he) (h.supplies _ e he) t.increment_pos
      (by omega) he'
  refine ⟨hframe, hposition, ?_, ?_, ?_⟩
  · intro id e' he'
    have hid : t.position < id := by
      have hfiled := (hlater.sound.filed id e' he').2
      rw [hposition] at hfiled
      exact hfiled
    rw [hcontents id hid] at he'
    rcases List.mem_append.mp he' with hold | hnew
    · exact Or.inl hold
    · obtain ⟨hmem, rfl⟩ := Commitment.mem_dueAt.mp hnew
      obtain ⟨_, hc, hidentified⟩ := hrefiled.origin (List.mem_append_left _ hmem)
      obtain ⟨_, hd, rfl⟩ := List.mem_map.mp hc
      obtain ⟨e, he, rfl, hleft⟩ := Commitment.survivors_origin hd
      rw [hdue] at he
      have hmore := (Commitment.drawn_survives (h.supplies _ e he)).mp hleft
      have hadvanced := hadvance e he hmore e' hidentified
      exact Or.inr ⟨e, he, hmore, hadvanced.deliveryTime, hadvanced⟩
  · intro id hid e he
    rw [hcontents id hid]
    exact List.mem_append_left _ he
  · intro e he hmore
    have hsurvivor := Commitment.mem_survivors (hdue ▸ he)
      ((Commitment.drawn_survives (h.supplies _ e he)).mpr hmore)
    obtain ⟨e', he', hidentified⟩ := hrefiled.image (List.mem_map_of_mem hsurvivor)
    have hadvanced := hadvance e he hmore e' hidentified
    rw [List.append_nil] at he'
    refine ⟨e', ?_, hadvanced⟩
    rw [hcontents _ (Nat.lt_add_of_pos_right t.increment_pos)]
    exact List.mem_append_right _ (Commitment.mem_dueAt.mpr ⟨he', hadvanced.deliveryTime⟩)

theorem Plain.nextFrame {t : Track α Unit} (h : t.Plain) (hstep : t.Stepped) :
    t.nextFrame.state.Plain := by
  have hlater : Later t t.nextFrame.state := h.sound.perform (r := .tick) trivial
  refine ⟨hlater.sound, h.running.tick.1, ?_, ?_, ?_⟩
  · exact h.sound.nextFrame_stocked Outage.withoutEffect_unit h.stocked
  · intro id e' he'
    rcases hstep.origin id e' he' with hold | ⟨_, _, _, _, hadvanced⟩
    · exact h.policies id e' hold
    · exact hadvanced.policy
  · intro id e' he'
    rcases hstep.origin id e' he' with hold | ⟨_, _, _, _, hadvanced⟩
    · exact h.supplies id e' hold
    · exact hadvanced.sound

/-- A tick gives no commitment another last bucket. -/
theorem Stepped.finals_subset {t : Track α Unit} (hstep : t.Stepped) (h : t.Sound) {n : Nat}
    (hn : n ∈ t.nextFrame.state.finals) : n ∈ t.finals := by
  have hlater : Later t t.nextFrame.state := h.perform (r := .tick) trivial
  obtain ⟨id, e', he', rfl⟩ := hlater.sound.mem_finals.mp hn
  rw [hlater.frameWidth, hlater.increment]
  rcases hstep.origin id e' he' with hold | ⟨e, he, hmore, rfl, hadvanced⟩
  · exact h.mem_finals.mpr ⟨id, e', hold, rfl⟩
  · rw [hadvanced.lastFrom_eq t.frameWidth_pos hmore]
    exact h.mem_finals.mpr ⟨_, e, he, rfl⟩

/-- A commitment stays in flight until its last bucket is drained. -/
theorem Stepped.finals_kept {t : Track α Unit} (hstep : t.Stepped) (h : t.Sound) {n : Nat}
    (hn : n ∈ t.finals) (hne : n ≠ t.position) : n ∈ t.nextFrame.state.finals := by
  have hlater : Later t t.nextFrame.state := h.perform (r := .tick) trivial
  obtain ⟨id, e, he, rfl⟩ := h.mem_finals.mp hn
  rw [← hlater.frameWidth, ← hlater.increment] at hne ⊢
  rcases Nat.lt_or_eq_of_le (h.filed id e he).2 with hlt | rfl
  · exact hlater.sound.mem_finals.mpr ⟨id, e, hstep.kept id hlt e he, rfl⟩
  · have hmore : t.frameWidth < e.supply.rest.length := by
      apply (Commitment.lt_rest_iff t.frameWidth_pos e).mpr
      apply Nat.lt_of_not_le
      intro hle
      -- with one drain left the last bucket would be this one
      apply hne
      rw [hlater.frameWidth, lastFrom, Nat.sub_eq_zero_of_le hle, Nat.zero_mul, Nat.add_zero]
    obtain ⟨e', he', hadvanced⟩ := hstep.advanced e he hmore
    refine hlater.sound.mem_finals.mpr ⟨_, e', he', ?_⟩
    rw [hlater.frameWidth, hlater.increment]
    exact hadvanced.lastFrom_eq t.frameWidth_pos hmore

/-- A tick with something in flight leaves the goal where it is. -/
theorem Stepped.bound {t : Track α Unit} (hstep : t.Stepped) (h : t.Sound) {goal : Nat}
    (hbound : t.Bound goal) (hlive : t.finals ≠ []) : t.nextFrame.state.Bound goal := by
  refine ⟨fun n hn => hbound.below n (hstep.finals_subset h hn), ?_⟩
  rcases hbound.reached with hhere | ⟨n, hn, rfl⟩
  · -- a goal at the clock would have something in flight below it
    obtain ⟨n, hn⟩ := List.exists_mem_of_ne_nil _ hlive
    have hle := h.position_le_finals hn
    have hlt := hbound.below n hn
    omega
  · by_cases heq : n = t.position
    · exact Or.inl (by rw [hstep.position, heq])
    · exact Or.inr ⟨n, hstep.finals_kept h hn heq, rfl⟩

/-! ## The drive -/

/-- A drive ended with a report of so many frames, the clock at `position`, and nothing left. -/
structure Ended (o : Outcome (Track α Unit × σ) (Except TrackError DriveReport))
    (frames position : Nat) : Prop where
  report : ∃ report, o.value = .ok report ∧ report.frames = frames
  position : o.state.1.position = position
  pending : o.state.1.pending = 0
  isEmpty : o.state.1.isEmpty = true

/-- A drive goes up to the goal, one frame for each bucket. -/
theorem Plain.driveFrom_ended {t : Track α Unit} (h : t.Plain) {goal : Nat} (hbound : t.Bound goal)
    (hgoal : goal ≤ Index.last) (handler : Handler σ α) (r : DriveReport) (s : σ) :
    Ended (t.driveFrom handler none r s) (r.frames + (goal - t.position)) goal := by
  fun_induction driveFrom handler none r t s with
  | case1 r t s _ hcap => cases hcap
  | case2 r t s hwork _ e he =>
    obtain ⟨frame, hframe⟩ := (h.stepped (h.hasWork_iff.mp hwork) (hbound.lt_last hgoal)).frame
    rw [he] at hframe
    cases hframe
  | case3 r t s hwork _ hnone =>
    obtain ⟨frame, hframe⟩ := (h.stepped (h.hasWork_iff.mp hwork) (hbound.lt_last hgoal)).frame
    rw [hnone] at hframe
    cases hframe
  | case4 r t s hwork _ frame hframe d ih =>
    have hlive := h.hasWork_iff.mp hwork
    have hstep := h.stepped hlive (hbound.lt_last hgoal)
    have hplain := h.nextFrame hstep
    have hbound' := hstep.bound h.sound hbound hlive
    obtain ⟨⟨report, hvalue, hframes⟩, hend, hpending, hempty⟩ := ih hplain hbound'
    have hle := hbound'.position_le hplain.sound
    have hposition := hstep.position
    have hd : d.state.1.frames = r.frames + 1 := by
      rw [DriveReport.dispatchFrame_state handler t.position frame r s]
      rfl
    refine ⟨⟨report, hvalue, ?_⟩, hend, hpending, hempty⟩
    rw [hframes, hd, hposition]
    omega
  | case5 r t s hdone =>
    have hnone : t.finals = [] := not_not.mp (mt h.hasWork_iff.mpr hdone)
    have hpending : t.pending = 0 := by
      rw [h.sound.pending, h.live_eq, finals_eq_nil.mp hnone]
      rfl
    have hhere : goal = t.position := by
      rcases hbound.reached with heq | ⟨n, hn, _⟩
      · exact heq
      · rw [hnone] at hn
        cases hn
    refine ⟨⟨r, rfl, ?_⟩, hhere.symm, hpending, ?_⟩
    · rw [hhere, Nat.sub_self, Nat.add_zero]
    · exact (h.sound.undeferred h.stocked h.undeferred).mpr hpending

/-! ## Reachable states -/

theorem Opened.running {t : Track α Unit} (h : t.Opened) : t.Running := by
  have hsound := h.sound Outage.keepsEvents_unit
  exact ⟨⟨hsound.ready.sane.tidy.orderly, hsound.ready.factory, h.unused.stranded,
    h.unused.stale⟩, hsound.window, hsound.inRange⟩

theorem plain_run {t₀ : Track α Unit} (h : t₀.Opened) {rs : List (Request α)}
    (hfresh : ∀ r ∈ rs, r.Fresh) (hplain : ∀ e ∈ (t₀.run rs).live, e.policy = none) :
    (t₀.run rs).Plain := by
  have hledger := ledger_run h Outage.keepsEvents_unit hfresh
  have hsound := hledger.tally.sound
  refine ⟨hsound, h.running.run rs, ?_, ?_, ?_⟩
  · exact stocked_run h Outage.withoutEffect_unit fun r hr => (hfresh r hr).full
  · exact fun id e he => hplain e (hsound.mem_live he)
  · exact fun id e he =>
      hledger.supplies e.mark e.supply (List.mem_map_of_mem (f := Commitment.goods) (hsound.mem_live he))

/-- The goal of a track with nothing in flight is the clock, and of any other the bucket after the
last drain. -/
theorem bound_of_max {t : Track α Unit} {last : Nat} (h : t.finals.max? = some last) :
    t.Bound (last + 1) := by
  obtain ⟨hmem, hle⟩ := List.max?_eq_some_iff.mp h
  exact ⟨fun n hn => Nat.lt_succ_of_le (hle n hn), Or.inr ⟨last, hmem, rfl⟩⟩

theorem bound_of_idle {t : Track α Unit} (h : t.finals = []) : t.Bound t.position := by
  refine ⟨fun n hn => ?_, Or.inl rfl⟩
  rw [h] at hn
  cases hn

/-- Over a store that never fails a drive without a cap ends, whatever the handler answers. If
nothing in flight has a policy, it makes one frame for each bucket up to the last drain, and none
if nothing is in flight. -/
theorem drive_frames {t₀ : Track α Unit} (h : t₀.Opened) {rs : List (Request α)}
    (hfresh : ∀ r ∈ rs, r.Fresh) (hplain : ∀ e ∈ (t₀.run rs).live, e.policy = none)
    (handler : Handler σ α) (s : σ) :
    let t := t₀.run rs
    let o := t.drive handler none s
    (t.live = [] → Ended o 0 t.position) ∧
      (t.live ≠ [] → ∃ last, t.finals.max? = some last ∧
        (last < Index.last → t.position ≤ last ∧ Ended o (last - t.position + 1) (last + 1))) := by
  intro t o
  have ht : t.Plain := plain_run h hfresh hplain
  constructor
  · intro hlive
    have hnone : t.finals = [] := finals_eq_nil.mpr (ht.live_eq.symm.trans hlive)
    have hended := ht.driveFrom_ended (bound_of_idle hnone) ht.sound.inRange handler {} s
    rw [Nat.sub_self] at hended
    exact hended
  · intro hlive
    have hsome : t.finals ≠ [] := fun hnone => hlive (ht.live_eq.trans (finals_eq_nil.mp hnone))
    obtain ⟨last, hmax⟩ := Option.ne_none_iff_exists'.mp (mt List.max?_eq_none_iff.mp hsome)
    refine ⟨last, hmax, fun hlast => ?_⟩
    have hle := ht.sound.position_le_finals (List.max?_eq_some_iff.mp hmax).1
    have hended := ht.driveFrom_ended (bound_of_max hmax) hlast handler {} s
    have hframes : 0 + (last + 1 - t.position) = last - t.position + 1 := by omega
    refine ⟨hle, ?_⟩
    rw [← hframes]
    exact hended

/-- Five items in slices of two, three buckets apart, a commitment that brings nothing, and a
tick. -/
def sparse : List (Request Nat) :=
  [.schedule { deliveryTime := 2, supply := .ofList [1, 2, 3, 4, 5] },
    .schedule { deliveryTime := 7, supply := .deferred [] }, .tick]

theorem sparse_fresh : ∀ r ∈ sparse, r.Fresh := by
  simp only [sparse, List.forall_mem_cons]
  refine ⟨⟨rfl, .ofList _ (by decide)⟩, ⟨rfl, .deferred [] (by decide)⟩, trivial, ?_⟩
  exact List.forall_mem_nil _

/-- The five items are through after bucket 8. -/
theorem drive_frames_sparse :
    let t₀ : Track Nat Unit := ((Track.ofStore (.empty ())).withFrameWidth 2).withIncrement 3
    (t₀.run sparse).position = 1 ∧ (t₀.run sparse).finals = [8, 7] ∧
      Ended ((t₀.run sparse).drive fussy none []) 8 9 := by
  intro t₀
  have hposition : (t₀.run sparse).position = 1 := by decide +kernel
  have hfinals : (t₀.run sparse).finals = [8, 7] := by decide +kernel
  have hlive : (t₀.run sparse).live ≠ [] := by
    intro hnone
    have hmarks : (t₀.run sparse).live.map (·.mark) = [0, 1] := by decide +kernel
    rw [hnone] at hmarks
    cases hmarks
  have hplain : ∀ e ∈ (t₀.run sparse).live, e.policy = none := by
    intro e he
    have hnone : (t₀.run sparse).live.all (·.policy.isNone) = true := by decide +kernel
    exact Option.isNone_iff_eq_none.mp (List.all_eq_true.mp hnone e he)
  obtain ⟨_, hmoving⟩ := drive_frames (.withIncrement 3 (.withFrameWidth 2 (.ofStore ())))
    sparse_fresh hplain fussy []
  obtain ⟨last, hmax, hended⟩ := hmoving hlive
  rw [hfinals] at hmax
  cases hmax
  have hend := (hended (by decide)).2
  rw [hposition] at hend
  exact ⟨hposition, hfinals, hend⟩

end Track
end BucketClock
