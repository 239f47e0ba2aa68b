import BucketClock.Proofs.Track.Conservation

/-!
Delivery of items. Over every run the items of an accepted commitment are handed
out once and in order, whatever store calls fail on the way: what the frames
hold of them so far, followed by what the supply still holds, is what the supply
could deliver at first (`delivery`).
-/

namespace BucketClock

namespace Drain

variable {α : Type}

def handed (n : Nat) (ds : List (Drain α)) : List α := ds.flatMap fun d => (d.slicesOf n).flatten

theorem handed_append (n : Nat) (ds ds' : List (Drain α)) :
    handed n (ds ++ ds') = handed n ds ++ handed n ds' :=
  List.flatMap_append

theorem handed_singleton (n : Nat) (d : Drain α) : handed n [d] = (d.slicesOf n).flatten :=
  List.flatMap_singleton _ _

/-- What a drain does for commitment `n` with the items `left` to deliver: it passes it over, or
hands out the next slice, and retires it if that is all. -/
inductive Share (n width : Nat) (left : List α) (d : Drain α) : Prop
  | passed (slices : d.slicesOf n = []) (retired : n ∉ d.retired)
  | drawn (slices : d.slicesOf n = [left.take width])
      (retired : n ∈ d.retired ↔ left.drop width = [])

end Drain

namespace Track

open Commitment (goods survivors)
open Drain (handed handed_append handed_singleton)

variable {α φ : Type} [Outage φ]

/-! ## Shares of commitments in flight -/

theorem Tally.nodup {t : Track α φ} {accepted : List (Commitment α)} {retired : List Nat}
    (h : t.Tally accepted retired) : (t.live.map (·.mark) ++ retired).Nodup :=
  h.once.nodup_iff.mpr List.nodup_range

theorem Tally.live_nodup {t : Track α φ} {accepted : List (Commitment α)} {retired : List Nat}
    (h : t.Tally accepted retired) : (t.live.map (·.mark)).Nodup :=
  (List.nodup_append.mp h.nodup).1

/-- A number in flight is not retired. -/
theorem Tally.not_retired {t : Track α φ} {accepted : List (Commitment α)} {retired : List Nat}
    (h : t.Tally accepted retired) {n : Nat} (hlive : n ∈ t.live.map (·.mark)) : n ∉ retired :=
  fun hretired => (List.nodup_append.mp h.nodup).2.2 n hlive n hretired rfl

/-- The part of a commitment in flight in the next drain. -/
theorem Tally.share {t : Track α φ} {accepted : List (Commitment α)} {retired : List Nat}
    (h : t.Tally accepted retired) {others : List (Nat × Supply α)}
    (hbefore : (t.live.map goods).Perm (t.due.map goods ++ others)) {n : Nat} {s : Supply α}
    (hsound : s.Sound) (hlive : (n, s) ∈ t.live.map goods) :
    (n, s) ∈ others ∧ (Drain.ofDue t.position t.frameWidth t.due).slicesOf n = [] ∧
        n ∉ (Drain.ofDue t.position t.frameWidth t.due).retired ∨
      ∃ e ∈ t.due, e.goods = (n, s) ∧
        (Drain.ofDue t.position t.frameWidth t.due).slicesOf n = [s.rest.take t.frameWidth] ∧
        (n ∈ (Drain.ofDue t.position t.frameWidth t.due).retired ↔
          s.rest.drop t.frameWidth = []) := by
  have hmarks := hbefore.map Prod.fst
  rw [List.map_append, Commitment.map_goods_fst, Commitment.map_goods_fst] at hmarks
  have hnodup := hmarks.nodup_iff.mp h.live_nodup
  obtain ⟨hdue, _, hdisjoint⟩ := List.nodup_append.mp hnodup
  rcases List.mem_append.mp (hbefore.mem_iff.mp hlive) with hmem | hmem
  · right
    obtain ⟨e, he, hgoods⟩ := List.mem_map.mp hmem
    obtain ⟨rfl, rfl⟩ := Prod.mk.inj hgoods
    obtain ⟨hslices, hretired⟩ := Drain.share t.position t.frameWidth he hdue
    refine ⟨e, he, rfl, ?_, ?_⟩
    · rw [hslices]
      exact congrArg (fun slice => [slice]) (Supply.take_value hsound t.frameWidth)
    · rw [hretired]
      exact Supply.take_isExhausted hsound t.frameWidth
  · left
    have habsent : n ∉ t.due.map (·.mark) := by
      intro hn
      exact hdisjoint n hn n (List.mem_map_of_mem hmem) rfl
    exact ⟨hmem, Drain.no_share habsent⟩

/-- A number that is not in flight has no part in the next drain. -/
theorem no_share_of_not_live {t : Track α φ} {others : List (Nat × Supply α)}
    (hbefore : (t.live.map goods).Perm (t.due.map goods ++ others)) {n : Nat}
    (hn : n ∉ t.live.map (·.mark)) :
    (Drain.ofDue t.position t.frameWidth t.due).slicesOf n = [] ∧
      n ∉ (Drain.ofDue t.position t.frameWidth t.due).retired := by
  apply Drain.no_share
  intro hdue
  have hmarks := hbefore.map Prod.fst
  rw [List.map_append, Commitment.map_goods_fst, Commitment.map_goods_fst] at hmarks
  exact hn (hmarks.mem_iff.mpr (List.mem_append_left _ hdue))

/-! ## The accounts of a run -/

/-- What became of the items of an accepted commitment: the commitment is in flight with those
that were not handed out, or all were handed out and it is retired. -/
inductive Account (t : Track α φ) (e : Commitment α) (ds : List (Drain α)) : Prop
  | running {s : Supply α} (live : (e.mark, s) ∈ t.live.map goods)
      (items : handed e.mark ds ++ s.rest = e.supply.rest) (more : s.rest = [] → e.supply.rest = [])
  | settled (retired : e.mark ∈ ds.flatMap (·.retired)) (items : handed e.mark ds = e.supply.rest)

theorem Account.drained {t t' : Track α φ} {accepted : List (Commitment α)} {ds : List (Drain α)}
    {e : Commitment α} (h : Account t e ds) (htally : t.Tally accepted (ds.flatMap (·.retired)))
    (hsupplies : ∀ n s, (n, s) ∈ t.live.map goods → s.Sound) {others : List (Nat × Supply α)}
    (hbefore : (t.live.map goods).Perm (t.due.map goods ++ others))
    (hafter : (t'.live.map goods).Perm ((survivors t.frameWidth t.due).map goods ++ others)) :
    Account t' e (ds ++ [.ofDue t.position t.frameWidth t.due]) := by
  cases h with
  | @running s hlive hitems hmore =>
    rcases htally.share hbefore (hsupplies _ s hlive) hlive with
      ⟨hothers, hslices, _⟩ | ⟨e', hdue, hgoods, hslices, hretired⟩
    · refine .running (hafter.mem_iff.mpr (List.mem_append_right _ hothers)) ?_ hmore
      rw [handed_append, handed_singleton, hslices, List.flatten_nil, List.append_nil, hitems]
    · have hhanded : handed e.mark (ds ++ [.ofDue t.position t.frameWidth t.due]) =
          handed e.mark ds ++ s.rest.take t.frameWidth := by
        rw [handed_append, handed_singleton, hslices, List.flatten_singleton]
      by_cases hall : s.rest.drop t.frameWidth = []
      · refine .settled ?_ ?_
        · rw [List.flatMap_append, List.flatMap_singleton]
          exact List.mem_append_right _ (hretired.mpr hall)
        · have hsplit := List.take_append_drop t.frameWidth s.rest
          rw [hall, List.append_nil] at hsplit
          rw [hhanded, hsplit, hitems]
      · obtain ⟨hmark, hsupply⟩ := Prod.mk.inj hgoods
        have hsound := hsupplies _ s hlive
        have hsurvivor : e'.drawn t.frameWidth ∈ survivors t.frameWidth t.due := by
          apply Commitment.mem_survivors hdue
          show ¬ (e'.supply.take t.frameWidth).state.isExhausted = true
          rw [hsupply, Supply.take_isExhausted hsound]
          exact hall
        have hlive' : (e.mark, (s.take t.frameWidth).state) ∈ t'.live.map goods := by
          apply hafter.mem_iff.mpr
          apply List.mem_append_left
          rw [← hmark, ← hsupply]
          exact List.mem_map_of_mem hsurvivor
        refine .running hlive' ?_ ?_
        · rw [hhanded, Supply.take_rest hsound, List.append_assoc, List.take_append_drop, hitems]
        · rw [Supply.take_rest hsound]
          exact fun hnone => absurd hnone hall
  | settled hretired hitems =>
    have hout : e.mark ∉ t.live.map (·.mark) := fun hlive => htally.not_retired hlive hretired
    refine .settled ?_ ?_
    · rw [List.flatMap_append]
      exact List.mem_append_left _ hretired
    · rw [handed_append, handed_singleton, (no_share_of_not_live hbefore hout).1, List.flatten_nil,
        List.append_nil, hitems]

structure Ledger (t : Track α φ) (accepted : List (Commitment α)) (ds : List (Drain α)) : Prop where
  tally : t.Tally accepted (ds.flatMap (·.retired))
  supplies : ∀ n s, (n, s) ∈ t.live.map goods → s.Sound
  unused : ∀ n, accepted.length ≤ n → handed n ds = []
  accounts : ∀ e ∈ accepted, Account t e ds

theorem Ledger.schedule {t : Track α φ} {accepted : List (Commitment α)} {ds : List (Drain α)}
    (h : t.Ledger accepted ds) {e : Commitment α} (hfull : e.phase = .full)
    (hsound : e.supply.Sound) :
    (t.perform (.schedule e)).Ledger (accepted ++ t.accepted (.schedule e)) ds := by
  obtain ⟨hgoods, _⟩ := schedule_goods h.tally.sound hfull
  have hnew : ∀ e' ∈ t.accepted (.schedule e), e' = t.numbered e := by
    intro e' he'
    simp only [Track.accepted] at he'
    split at he'
    · exact List.mem_singleton.mp he'
    · cases he'
  refine ⟨h.tally.schedule hfull, ?_, ?_, ?_⟩
  · intro n s hs
    rcases List.mem_append.mp (hgoods.mem_iff.mp hs) with hs | hs
    · exact h.supplies n s hs
    · obtain ⟨e', he', heq⟩ := List.mem_map.mp hs
      rw [hnew e' he'] at heq
      rw [← (Prod.mk.inj heq).2]
      exact hsound
  · intro n hn
    rw [List.length_append] at hn
    exact h.unused n (by omega)
  · intro e' he'
    rcases List.mem_append.mp he' with he' | he'
    · cases h.accounts e' he' with
      | running hlive hitems hmore =>
        exact .running (hgoods.mem_iff.mpr (List.mem_append_left _ hlive)) hitems hmore
      | settled hretired hitems => exact .settled hretired hitems
    · have hmark : e'.mark = accepted.length := by
        rw [hnew e' he']
        exact h.tally.scheduled
      have hlive := hgoods.mem_iff.mpr (List.mem_append_right _ (List.mem_map_of_mem he'))
      refine .running hlive ?_ fun hnone => hnone
      rw [hmark, h.unused _ (Nat.le_refl _), List.nil_append]

theorem Ledger.tick {t : Track α φ} {accepted : List (Commitment α)} {ds : List (Drain α)}
    (h : t.Ledger accepted ds) : (t.perform .tick).Ledger accepted (ds ++ t.drains .tick) := by
  have htally := h.tally.tick
  rw [← List.flatMap_append] at htally
  have hticked := nextFrame_ticked h.tally.sound
  show t.nextFrame.state.Ledger _ _
  have htally' : t.nextFrame.state.Tally accepted
      ((ds ++ t.drains .tick).flatMap (·.retired)) := htally
  generalize t.frames .tick = frames, t.drains .tick = drains, t.nextFrame.state = t'
    at hticked htally' ⊢
  cases hticked with
  | still hgoods _ _ =>
    rw [List.append_nil] at htally' ⊢
    refine ⟨htally', fun n s hs => h.supplies n s (hgoods.mem_iff.mp hs), h.unused, ?_⟩
    intro e he
    cases h.accounts e he with
    | running hlive hitems hmore => exact .running (hgoods.mem_iff.mpr hlive) hitems hmore
    | settled hretired hitems => exact .settled hretired hitems
  | drained hbefore hafter _ _ =>
    refine ⟨htally', ?_, ?_, ?_⟩
    · intro n s hs
      rcases List.mem_append.mp (hafter.mem_iff.mp hs) with hs | hs
      · obtain ⟨_, hsurvivor, heq⟩ := List.mem_map.mp hs
        obtain ⟨e, he, rfl⟩ := List.mem_map.mp (List.mem_of_mem_filter hsurvivor)
        have hsound := h.supplies e.mark e.supply
          (hbefore.mem_iff.mpr (List.mem_append_left _ (List.mem_map_of_mem he)))
        rw [← (Prod.mk.inj heq).2]
        exact Supply.take_sound hsound t.frameWidth
      · exact h.supplies n s (hbefore.mem_iff.mpr (List.mem_append_right _ hs))
    · intro n hn
      have hout : n ∉ t.live.map (·.mark) := by
        intro hlive
        have hrange := h.tally.once.mem_iff.mp (List.mem_append_left _ hlive)
        exact Nat.not_lt_of_le hn (List.mem_range.mp hrange)
      rw [handed_append, handed_singleton, (no_share_of_not_live hbefore hout).1, h.unused n hn]
      rfl
    · intro e he
      rw [List.flatMap_append, List.flatMap_singleton] at htally'
      exact (h.accounts e he).drained h.tally h.supplies hbefore hafter

theorem ledger_run {t₀ : Track α φ} (h : t₀.Opened) (hkeeps : Outage.KeepsEvents t₀.store.outage)
    {rs : List (Request α)} (hfresh : ∀ r ∈ rs, r.Fresh) :
    (t₀.run rs).Ledger (t₀.history accepted rs) (t₀.history drains rs) := by
  induction rs using List.reverseRecOn with
  | nil =>
    have htally : (t₀.run []).Tally (t₀.history accepted []) [] :=
      tally_run h hkeeps fun r hr => (hfresh r hr).full
    refine ⟨htally, ?_, fun _ _ => rfl, ?_⟩
    · intro n s hs
      have hnone : (n, s) ∈ t₀.live.map goods := hs
      rw [h.live] at hnone
      cases hnone
    · intro e he
      cases he
  | append_singleton rs r ih =>
    obtain ⟨hfresh, hr⟩ := List.forall_mem_append.mp hfresh
    have hr := List.forall_mem_singleton.mp hr
    have ih := ih hfresh
    rw [run_snoc, history_snoc, history_snoc]
    cases r with
    | schedule e =>
      have hdrains : (t₀.run rs).drains (.schedule e) = [] := rfl
      obtain ⟨hfull, hreached⟩ := hr
      rw [hdrains, List.append_nil]
      exact ih.schedule hfull hreached.sound
    | tick =>
      have haccepted : (t₀.run rs).accepted .tick = [] := rfl
      rw [haccepted, List.append_nil]
      exact ih.tick

/-! ## Delivery -/

def holding (n : Nat) (t : Track α φ) : List α :=
  (t.live.filter (·.mark = n)).flatMap (·.supply.rest)

/-- What was delivered of an accepted commitment in the drains so far, and what the next drain
may do for it. -/
structure Delivered (t : Track α φ) (e : Commitment α) (ds : List (Drain α)) : Prop where
  items : handed e.mark ds ++ t.holding e.mark = e.supply.rest
  inFlight : e.mark ∈ t.live.map (·.mark) ↔ e.mark ∉ ds.flatMap (·.retired)
  next : ∀ d ∈ t.drains .tick, d.Share e.mark t.frameWidth (t.holding e.mark)
  nonempty : ∀ d ∈ t.drains .tick, [] ∈ d.slicesOf e.mark → e.supply.rest = []
  ended : e.mark ∈ ds.flatMap (·.retired) → ∀ d ∈ t.drains .tick, d.slicesOf e.mark = []

omit [Outage φ] in
theorem holding_eq_rest {t : Track α φ} (h : (t.live.map (·.mark)).Nodup) {n : Nat} {s : Supply α}
    (hlive : (n, s) ∈ t.live.map goods) : t.holding n = s.rest := by
  obtain ⟨e, he, heq⟩ := List.mem_map.mp hlive
  obtain ⟨rfl, rfl⟩ := Prod.mk.inj heq
  rw [holding, Drain.filter_mark he h, List.flatMap_singleton]

omit [Outage φ] in
theorem holding_eq_nil {t : Track α φ} {n : Nat} (h : n ∉ t.live.map (·.mark)) :
    t.holding n = [] := by
  have hnone : t.live.filter (·.mark = n) = [] := by
    apply List.filter_eq_nil_iff.mpr
    intro e he heq
    exact h (List.mem_map.mpr ⟨e, he, by simpa using heq⟩)
  rw [holding, hnone, List.flatMap_nil]

theorem Ledger.delivered {t : Track α φ} {accepted : List (Commitment α)} {ds : List (Drain α)}
    (h : t.Ledger accepted ds) {e : Commitment α} (he : e ∈ accepted) : Delivered t e ds := by
  cases h.accounts e he with
  | @running s hlive hitems hmore =>
    have hmark : e.mark ∈ t.live.map (·.mark) := by
      rw [← Commitment.map_goods_fst]
      exact List.mem_map_of_mem hlive
    have hout : e.mark ∉ ds.flatMap (·.retired) := h.tally.not_retired hmark
    have hholding := holding_eq_rest h.tally.live_nodup hlive
    have hshare : ∀ d ∈ t.drains .tick, d.Share e.mark t.frameWidth s.rest := by
      intro d hd
      obtain ⟨rfl, _, hbefore⟩ := drains_of_tick h.tally.sound hd
      rcases h.tally.share hbefore (h.supplies _ s hlive) hlive with
        ⟨_, hslices, hnot⟩ | ⟨_, _, _, hslices, hall⟩
      · exact .passed hslices hnot
      · exact .drawn hslices hall
    refine ⟨?_, ?_, ?_, ?_, ?_⟩
    · rw [hholding, hitems]
    · exact ⟨fun _ => hout, fun _ => hmark⟩
    · rw [hholding]
      exact hshare
    · intro d hd hempty
      apply hmore
      cases hshare d hd with
      | passed hslices _ =>
        rw [hslices] at hempty
        cases hempty
      | drawn hslices _ =>
        -- a frame draws at least one item from a supply that has one
        rw [hslices, List.mem_singleton, eq_comm, List.take_eq_nil_iff] at hempty
        exact hempty.resolve_left (Nat.ne_of_gt t.frameWidth_pos)
    · exact fun hretired => absurd hretired hout
  | settled hretired hitems =>
    have hout : e.mark ∉ t.live.map (·.mark) := fun hlive => h.tally.not_retired hlive hretired
    have hholding := holding_eq_nil hout
    have hpassed : ∀ d ∈ t.drains .tick, d.slicesOf e.mark = [] ∧ e.mark ∉ d.retired := by
      intro d hd
      obtain ⟨rfl, _, hbefore⟩ := drains_of_tick h.tally.sound hd
      exact no_share_of_not_live hbefore hout
    refine ⟨?_, ?_, ?_, ?_, ?_⟩
    · rw [hholding, List.append_nil, hitems]
    · exact ⟨fun hlive => absurd hlive hout, fun hnone => absurd hretired hnone⟩
    · intro d hd
      obtain ⟨hslices, hnot⟩ := hpassed d hd
      exact .passed hslices hnot
    · intro d hd hempty
      rw [(hpassed d hd).1] at hempty
      cases hempty
    · intro _ d hd
      exact (hpassed d hd).1

theorem frames_eq_drains {t : Track α φ} (h : t.Sound) (r : Request α) :
    t.frames r = (t.drains r).map Drain.frame := by
  cases r with
  | schedule e => rfl
  | tick =>
    have hticked := nextFrame_ticked h
    generalize t.frames .tick = frames, t.drains .tick = drains, t.nextFrame.state = t'
      at hticked ⊢
    cases hticked with
    | still _ _ _ => rfl
    | drained _ _ _ _ => rfl

/-- Delivery: whatever store calls fail on the way, the frames are made of slices of the accepted
commitments, and the slices of each are its items in order, each handed out once. -/
theorem delivery {t₀ : Track α φ} (h : t₀.Opened) (hkeeps : Outage.KeepsEvents t₀.store.outage)
    {rs : List (Request α)} (hfresh : ∀ r ∈ rs, r.Fresh) :
    t₀.history frames rs = (t₀.history drains rs).map Drain.frame ∧
      ∀ e ∈ t₀.history accepted rs, Delivered (t₀.run rs) e (t₀.history drains rs) := by
  constructor
  · induction rs using List.reverseRecOn with
    | nil => rfl
    | append_singleton rs r ih =>
      obtain ⟨hfresh, _⟩ := List.forall_mem_append.mp hfresh
      have hsound := (ledger_run h hkeeps hfresh).tally.sound
      rw [history_snoc, history_snoc, List.map_append, ih hfresh, frames_eq_drains hsound]
  · intro e he
    exact (ledger_run h hkeeps hfresh).delivered he

/-- The first commitment is held back with its second item. -/
theorem delivery_troubled :
    (∀ e ∈ troubled.history accepted requests,
        Delivered (troubled.run requests) e (troubled.history drains requests)) ∧
      handed 0 (troubled.history drains requests) = [1] ∧
      (troubled.run requests).holding 0 = [2] := by
  have hdelivered := (delivery troubled_opened troubled_keepsEvents requests_fresh).2
  exact ⟨hdelivered, by decide +kernel, by decide +kernel⟩

end Track
end BucketClock
