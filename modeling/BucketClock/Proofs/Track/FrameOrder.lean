import BucketClock.Proofs.Track.Delivery

/-!
The order of items. Three paths file commitments in a bucket: scheduling, the
rollovers of an earlier drain and the retries of the very tick that drains it.
Over every run, whatever store calls fail on the way, the frame of a bucket has
the slices of its commitments in the order in which the commits succeeded
(`frame_order`).
-/

namespace BucketClock.Track

open Commitment (dueAt goods)

variable {α φ : Type} [Outage φ]

def slices (width : Nat) (es : List (Commitment α)) : List α :=
  es.flatMap fun e => e.supply.rest.take width

/-! ## What a request files -/

/-- A request appends what it files to the buckets that are not drained yet, and files nothing
behind the clock. -/
structure Files (t t' : Track α φ) (filed : List (Commitment α)) : Prop where
  frameWidth : t'.frameWidth = t.frameWidth
  position : t.position ≤ t'.position
  contents : ∀ id, t'.position ≤ id →
    t'.store.contents id = t.store.contents id ++ dueAt id filed
  later : ∀ e ∈ filed, t.position ≤ e.deliveryTime

theorem Turn.files {t t' : Track α φ} {out filed held : List (Commitment α)} {gone : Nat}
    (h : Turn t t' out filed held gone) : Files t t' filed :=
  ⟨h.frameWidth, h.position, h.contents, fun e he => Nat.le_trans h.position (h.later e he)⟩

omit [Outage φ] in
theorem Files.trans {t t' t'' : Track α φ} {filed filed' : List (Commitment α)}
    (h : Files t t' filed) (h' : Files t' t'' filed') : Files t t'' (filed ++ filed') := by
  refine ⟨h'.frameWidth.trans h.frameWidth, Nat.le_trans h.position h'.position, ?_, ?_⟩
  · intro id hid
    rw [h'.contents id hid, h.contents id (Nat.le_trans h'.position hid), Commitment.dueAt_append,
      List.append_assoc]
  · intro e he
    rcases List.mem_append.mp he with he | he
    · exact h.later e he
    · exact Nat.le_trans h.position (h'.later e he)

theorem schedule_files {t : Track α φ} (h : t.Sound) {e : Commitment α} (hfull : e.phase = .full) :
    Files t (t.perform (.schedule e)) (t.filings (.schedule e)) := by
  have hfull' : (t.numbered e).phase = .full := hfull
  rw [t.filings_schedule hfull]
  simp only [perform]
  rcases schedule_turn h hfull' with ⟨e', _, _, hfiling, hturn⟩ | ⟨_, _, hfiling, hturn⟩
  · rw [hfiling]
    exact hturn.files
  · rw [hfiling]
    exact hturn.files

/-- What is left of a tick after its retries files nothing at the bucket it drains. -/
theorem settle_files {t : Track α φ} (h : t.Sound) :
    Files t.retryDeferred.state t.nextFrame.state t.settleFilings ∧
      ∀ e ∈ t.settleFilings, t.nextFrame.state.position ≤ e.deliveryTime := by
  obtain ⟨_, _, hretry, _, _⟩ := retryDeferred_turn h
  have hemitted := nextFrame_emitted h
  generalize t.nextFrame.value = value, t.nextFrame.state = t', t.settleFilings = filed
    at hemitted ⊢
  cases hemitted with
  | idle _ => exact ⟨hretry.sound.turn.files, hretry.sound.turn.later⟩
  | refused _ _ hturn _ _ => exact ⟨hturn.files, hturn.later⟩
  | framed _ _ _ hturn _ _ => exact ⟨hturn.files, hturn.later⟩

theorem tick_files {t : Track α φ} (h : t.Sound) : Files t (t.perform .tick) (t.filings .tick) := by
  obtain ⟨_, _, hretry, _, _⟩ := retryDeferred_turn h
  exact hretry.files.trans (settle_files h).1

theorem Sound.files {t : Track α φ} (h : t.Sound) {r : Request α} (hfull : r.Full) :
    Files t (t.perform r) (t.filings r) := by
  cases r with
  | schedule e => exact schedule_files h hfull
  | tick => exact tick_files h

/-- Nothing is ever filed behind the clock. -/
theorem history_filings_later {t : Track α φ} (h : t.Sound) {rs : List (Request α)}
    (hfull : ∀ r ∈ rs, r.Full) :
    ∀ e ∈ t.history filings rs, t.position ≤ e.deliveryTime := by
  induction rs generalizing t with
  | nil =>
    intro e he
    cases he
  | cons r rs ih =>
    obtain ⟨hr, hfull⟩ := List.forall_mem_cons.mp hfull
    have hfiles := h.files hr
    intro e he
    rcases List.mem_append.mp he with he | he
    · exact hfiles.later e he
    · have hrest := ih (h.perform hr).sound hfull
      exact Nat.le_trans hfiles.position (hrest e he)

/-! ## Runs -/

/-- The state of the buckets after a run that filed `filed` and handed out `frames`: those not
drained yet hold what was filed in them, in order, and the frames are made of the others. -/
structure Ordered (t : Track α φ) (width : Nat) (filed : List (Commitment α))
    (frames : List (List α)) : Prop where
  frameWidth : t.frameWidth = width
  contents : ∀ id, t.position ≤ id → t.store.contents id = dueAt id filed
  frames : frames = (List.range t.position).map fun p => slices width (dueAt p filed)

theorem slices_congr (width : Nat) {es : List (Commitment α)} (h : ∀ e ∈ es, e.supply.Sound) :
    (es.flatMap fun e => (e.draw width).value) = slices width es :=
  List.flatMap_congr fun e he => Supply.take_value (h e he) width

theorem Ledger.due_sound {t : Track α φ} {accepted : List (Commitment α)} {ds : List (Drain α)}
    (h : t.Ledger accepted ds) : ∀ e ∈ t.due, e.supply.Sound := by
  obtain ⟨_, _, hretry, hposition, _⟩ := retryDeferred_turn h.tally.sound
  obtain ⟨others, hsplit⟩ := hretry.sound.live_split t.position
  intro e he
  have hlive : e ∈ t.retryDeferred.state.live := hsplit.mem_iff.mpr (List.mem_append_left _ he)
  have hgoods := (retryDeferred_goods h.tally.sound).mem_iff.mp (List.mem_map_of_mem hlive)
  exact h.supplies e.mark e.supply hgoods

omit [Outage φ] in
/-- A step that hands out the frame of the bucket it moves past, or none if it moves past none. -/
theorem Ordered.step {t t' : Track α φ} {width : Nat} {filed new : List (Commitment α)}
    {frames handed : List (List α)} (o : t.Ordered width filed frames) (h : Files t t' new)
    (hframe : t'.position = t.position ∧ handed = [] ∨
      t'.position = t.position + 1 ∧ handed = [slices width (dueAt t.position (filed ++ new))]) :
    t'.Ordered width (filed ++ new) (frames ++ handed) := by
  have hbehind : ∀ p ∈ List.range t.position,
      slices width (dueAt p (filed ++ new)) = slices width (dueAt p filed) := by
    intro p hp
    have hlt := List.mem_range.mp hp
    have hnone : dueAt p new = [] := Commitment.dueAt_eq_nil fun e he heq =>
      Nat.not_le_of_lt hlt (heq ▸ h.later e he)
    rw [Commitment.dueAt_append, hnone, List.append_nil]
  refine ⟨h.frameWidth.trans o.frameWidth, ?_, ?_⟩
  · intro id hid
    rw [h.contents id hid, o.contents id (Nat.le_trans h.position hid), Commitment.dueAt_append]
  · rcases hframe with ⟨hposition, rfl⟩ | ⟨hposition, rfl⟩
    · rw [hposition, List.append_nil, o.frames, List.map_congr_left hbehind]
    · rw [hposition, List.range_succ, List.map_append, List.map_singleton, o.frames,
        List.map_congr_left hbehind]

/-- The frame of a tick: slices of all that was filed in its bucket, in order. -/
theorem Ordered.frame {t : Track α φ} {width : Nat} {filed : List (Commitment α)}
    {frames : List (List α)} (o : t.Ordered width filed frames) (h : t.Sound)
    (hsupplies : ∀ e ∈ t.due, e.supply.Sound) :
    (Drain.ofDue t.position t.frameWidth t.due).frame =
      slices width (dueAt t.position (filed ++ t.retryFilings)) := by
  rw [Drain.frame_ofDue, slices_congr t.frameWidth hsupplies, due_eq h,
    o.contents t.position (Nat.le_refl _), o.frameWidth, Commitment.dueAt_append]

theorem Ordered.tick {t : Track α φ} {width : Nat} {filed : List (Commitment α)}
    {frames : List (List α)} (o : t.Ordered width filed frames) (h : t.Sound)
    (hsupplies : ∀ e ∈ t.due, e.supply.Sound) :
    (t.perform .tick).Ordered width (filed ++ t.filings .tick) (frames ++ t.frames .tick) := by
  apply o.step (tick_files h)
  have hframe := o.frame h hsupplies
  have hlater := (settle_files h).2
  have hticked := nextFrame_ticked h
  show t.nextFrame.state.position = t.position ∧ _ ∨ t.nextFrame.state.position = t.position + 1 ∧ _
  simp only [filings]
  generalize t.frames .tick = handed, t.drains .tick = drains, t.nextFrame.state = t'
    at hticked hlater ⊢
  cases hticked with
  | still _ hposition _ => exact Or.inl ⟨hposition, rfl⟩
  | drained _ _ hposition _ =>
    have hnone : dueAt t.position t.settleFilings = [] := Commitment.dueAt_eq_nil fun e he heq => by
      have hle := hlater e he
      omega
    right
    rw [hframe, ← List.append_assoc, Commitment.dueAt_append _ (filed ++ t.retryFilings), hnone,
      List.append_nil]
    exact ⟨hposition, rfl⟩

theorem ordered_run {t₀ : Track α φ} (h : t₀.Opened) (hkeeps : Outage.KeepsEvents t₀.store.outage)
    {rs : List (Request α)} (hfresh : ∀ r ∈ rs, r.Fresh) :
    (t₀.run rs).Ordered t₀.frameWidth (t₀.history filings rs) (t₀.history frames rs) := by
  induction rs using List.reverseRecOn with
  | nil =>
    refine ⟨rfl, ?_, ?_⟩
    · intro id _
      show t₀.store.contents id = []
      rw [h.unused.store]
      rfl
    · show [] = (List.range t₀.position).map _
      rw [h.unused.position]
      rfl
  | append_singleton rs r ih =>
    obtain ⟨hfresh, hr⟩ := List.forall_mem_append.mp hfresh
    have hr := List.forall_mem_singleton.mp hr
    have hledger := ledger_run h hkeeps hfresh
    have ih := ih hfresh
    rw [run_snoc, history_snoc, history_snoc]
    cases r with
    | schedule e =>
      exact ih.step (schedule_files hledger.tally.sound hr.full)
        (Or.inl ⟨schedule_position _ _, rfl⟩)
    | tick => exact ih.tick hledger.tally.sound hledger.due_sound

/-- The order of items: bucket after bucket, and in each the commitments in the order of their
commits, whatever store calls fail on the way. Once a bucket is drained nothing is filed there. -/
theorem frame_order {t₀ : Track α φ} (h : t₀.Opened) (hkeeps : Outage.KeepsEvents t₀.store.outage)
    {rs : List (Request α)} (hfresh : ∀ r ∈ rs, r.Fresh) :
    t₀.history frames rs = (List.range (t₀.run rs).position).map
        (fun p => slices t₀.frameWidth (dueAt p (t₀.history filings rs))) ∧
      ∀ frame, (t₀.run rs).nextFrame.value = .ok (some frame) →
        frame = slices t₀.frameWidth (dueAt (t₀.run rs).position
          (t₀.history filings rs ++ (t₀.run rs).retryFilings)) ∧
        ∀ rs', (∀ r ∈ rs', r.Full) →
          dueAt (t₀.run rs).position
            ((t₀.run rs).settleFilings ++ (t₀.run (rs ++ [.tick])).history filings rs') = [] := by
  have hledger := ledger_run h hkeeps hfresh
  have hordered := ordered_run h hkeeps hfresh
  have hsound := hledger.tally.sound
  refine ⟨hordered.frames, ?_⟩
  intro frame hframe
  obtain ⟨_, hslices, hposition⟩ := frame_of_tick hsound hframe
  refine ⟨hslices.trans (hordered.frame hsound hledger.due_sound), ?_⟩
  intro rs' hfull
  have hsound' : (t₀.run (rs ++ [.tick])).Sound := by
    rw [run_snoc]
    exact (hsound.perform (r := .tick) trivial).sound
  have hposition' : (t₀.run (rs ++ [.tick])).position = (t₀.run rs).position + 1 := by
    rw [run_snoc]
    exact hposition
  apply Commitment.dueAt_eq_nil
  intro e he heq
  rcases List.mem_append.mp he with he | he
  · have hle := (settle_files hsound).2 e he
    omega
  · have hle := history_filings_later hsound' hfull e he
    omega

/-- The next tick retries the rollover and hands out its slice. -/
theorem frame_order_troubled :
    (troubled.run requests).nextFrame.value = .ok (some [2]) ∧
      [2] = slices 1 (dueAt 2
        (troubled.history filings requests ++ (troubled.run requests).retryFilings)) ∧
      dueAt 2 ((troubled.run requests).settleFilings ++
        (troubled.run (requests ++ [.tick])).history filings requests) = [] := by
  have hframe : (troubled.run requests).nextFrame.value = .ok (some [2]) := by rfl
  obtain ⟨_, hnext⟩ := frame_order troubled_opened troubled_keepsEvents requests_fresh
  obtain ⟨hslices, hclosed⟩ := hnext [2] hframe
  exact ⟨hframe, hslices, hclosed requests fun r hr => (requests_fresh r hr).full⟩

end BucketClock.Track
