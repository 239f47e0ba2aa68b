import BucketClock.Proofs.Track.Callbacks
import BucketClock.Proofs.Track.FrameOrder

/-!
The discipline of callbacks. Every commitment in flight descends from an
accepted one: it has its number, its identity and its kind of policy, and its
supply is untouched until a drain draws from it (`lineage_run`). So over every
run, whatever store calls fail on the way, the supplier of an accepted
commitment runs in the first drain that draws from it, and its policy is asked
once in each drain that leaves something of it (`callback_discipline`).
-/

namespace BucketClock

/-! ## Callbacks by number -/

namespace Callback

def supplies (n : Nat) : Callback → Bool
  | .supplier mark _ => mark = n
  | .policy .. => false

def asks (n : Nat) : Callback → Bool
  | .supplier .. => false
  | .policy mark _ _ => mark = n

theorem mark_of_supplies {n : Nat} {c : Callback} (h : c.supplies n = true) : c.mark = n := by
  cases c with
  | supplier mark count => exact of_decide_eq_true h
  | policy mark readyMade rollover => cases h

theorem mark_of_asks {n : Nat} {c : Callback} (h : c.asks n = true) : c.mark = n := by
  cases c with
  | supplier mark count => cases h
  | policy mark readyMade rollover => exact of_decide_eq_true h

/-- Suppliers run before policies are asked, and each kind in the order of the marks. -/
def InTurn (marks : List Nat) (calls : List Callback) : Prop :=
  ∃ suppliers policies, calls = suppliers ++ policies ∧
    (∀ c ∈ suppliers, c.isSupplier = true) ∧ (∀ c ∈ policies, c.isSupplier = false) ∧
    (suppliers.map mark).Sublist marks ∧ (policies.map mark).Sublist marks

end Callback

/-- The supply waits for a supplier that brings `items`. -/
def Supply.Awaits {α : Type} (items : List α) (s : Supply α) : Prop :=
  s = .deferred items ∨ ∃ size, size ≠ 0 ∧ s = .lazy size items

namespace Drain

variable {α : Type}

def marks (d : Drain α) : List Nat := d.slices.map (·.1)

theorem marks_ofDue (bucket width : Nat) (es : List (Commitment α)) :
    (ofDue bucket width es).marks = es.map (·.mark) := by
  rw [marks, ofDue, List.map_map]
  rfl

end Drain

namespace Commitment

variable {α : Type}

theorem supplierCalls_awaits {items : List α} {e : Commitment α} (h : e.supply.Awaits items) :
    e.supplierCalls = [.supplier e.mark items.length] := by
  rcases h with hdeferred | ⟨size, hsize, hlazy⟩
  · rw [supplierCalls, hdeferred]
    rfl
  · have hphase : (Supply.lazy size items).phase = .full := if_neg (by simpa using hsize)
    rw [supplierCalls, hlazy, if_pos hphase]
    rfl

theorem mark_of_supplierCalls {e : Commitment α} {c : Callback} (h : c ∈ e.supplierCalls) :
    c.mark = e.mark ∧ c.isSupplier = true := by
  unfold supplierCalls at h
  split at h
  · obtain ⟨items, _, rfl⟩ := Option.map_eq_some_iff.mp (Option.mem_toList.mp h)
    exact ⟨rfl, rfl⟩
  · cases h

theorem mark_of_policyCalls {position : Nat} {e : Commitment α} {c : Callback}
    (h : c ∈ e.policyCalls position) : c.mark = e.mark ∧ c.isSupplier = false := by
  obtain ⟨p, _, rfl⟩ := Option.map_eq_some_iff.mp (Option.mem_toList.mp h)
  exact ⟨rfl, rfl⟩

/-- The calls of one commitment among those of a list. -/
theorem filter_calls {calls : Commitment α → List Callback} {q : Callback → Bool} {n : Nat}
    (hown : ∀ e, e.mark = n → (calls e).filter q = calls e)
    (hother : ∀ e, e.mark ≠ n → (calls e).filter q = []) (es : List (Commitment α)) :
    (es.flatMap calls).filter q = (es.filter (·.mark = n)).flatMap calls := by
  induction es with
  | nil => rfl
  | cons e es ih =>
    by_cases hmark : e.mark = n
    · simp [ih, hmark, hown e hmark]
    · simp [ih, hmark, hother e hmark]

theorem filter_supplierCalls (n : Nat) (es : List (Commitment α)) :
    (es.flatMap (·.supplierCalls)).filter (·.supplies n) =
      (es.filter (·.mark = n)).flatMap (·.supplierCalls) := by
  apply filter_calls
  · intro e hmark
    unfold supplierCalls
    split
    · cases e.supply.supplier <;> simp [Callback.supplies, hmark]
    · rfl
  · intro e hmark
    unfold supplierCalls
    split
    · cases e.supply.supplier <;> simp [Callback.supplies, hmark]
    · rfl

theorem filter_policyCalls (n position : Nat) (es : List (Commitment α)) :
    (es.flatMap (·.policyCalls position)).filter (·.asks n) =
      (es.filter (·.mark = n)).flatMap (·.policyCalls position) := by
  apply filter_calls
  · intro e hmark
    unfold policyCalls
    cases e.policy <;> simp [Callback.asks, hmark]
  · intro e hmark
    unfold policyCalls
    cases e.policy <;> simp [Callback.asks, hmark]

theorem filter_asks_supplierCalls (n : Nat) (es : List (Commitment α)) :
    (es.flatMap (·.supplierCalls)).filter (·.asks n) = [] := by
  apply List.filter_eq_nil_iff.mpr
  intro c hc hasks
  obtain ⟨e, _, hc⟩ := List.mem_flatMap.mp hc
  have hsupplier := (mark_of_supplierCalls hc).2
  cases c with
  | supplier mark count => cases hasks
  | policy mark readyMade rollover => cases hsupplier

theorem filter_supplies_policyCalls (n position : Nat) (es : List (Commitment α)) :
    (es.flatMap (·.policyCalls position)).filter (·.supplies n) = [] := by
  apply List.filter_eq_nil_iff.mpr
  intro c hc hsupplies
  obtain ⟨e, _, hc⟩ := List.mem_flatMap.mp hc
  have hpolicy := (mark_of_policyCalls hc).2
  cases c with
  | supplier mark count => cases hpolicy
  | policy mark readyMade rollover => cases hsupplies

/-- Calls that are at most one for each commitment are in the order of the commitments. -/
theorem calls_sublist {calls : Commitment α → List Callback}
    (h : ∀ e, ((calls e).map Callback.mark).Sublist [e.mark]) (es : List (Commitment α)) :
    ((es.flatMap calls).map Callback.mark).Sublist (es.map (·.mark)) := by
  induction es with
  | nil => exact .slnil
  | cons e es ih =>
    rw [List.flatMap_cons, List.map_append, List.map_cons]
    exact (h e).append ih

theorem supplierCalls_sublist (es : List (Commitment α)) :
    ((es.flatMap (·.supplierCalls)).map Callback.mark).Sublist (es.map (·.mark)) := by
  apply calls_sublist
  intro e
  unfold supplierCalls
  split
  · cases e.supply.supplier with
    | none => exact List.nil_sublist _
    | some items => exact .refl _
  · exact List.nil_sublist _

theorem policyCalls_sublist (position : Nat) (es : List (Commitment α)) :
    ((es.flatMap (·.policyCalls position)).map Callback.mark).Sublist (es.map (·.mark)) := by
  apply calls_sublist
  intro e
  unfold policyCalls
  cases e.policy with
  | none => exact List.nil_sublist _
  | some p => exact .refl _

theorem survivors_sublist (width : Nat) (es : List (Commitment α)) :
    ((survivors width es).map (·.mark)).Sublist (es.map (·.mark)) := by
  have hsublist : (survivors width es).Sublist (es.map (·.drawn width)) := List.filter_sublist
  have hmarks := hsublist.map (·.mark)
  rw [List.map_map] at hmarks
  exact hmarks

/-- What a draw leaves of one commitment among several. -/
theorem filter_survivors (width : Nat) {es : List (Commitment α)}
    (hnodup : (es.map (·.mark)).Nodup) {e : Commitment α} (he : e ∈ es) :
    (survivors width es).filter (·.mark = e.mark) =
      if (e.drawn width).supply.isExhausted then [] else [e.drawn width] := by
  have hone : (es.map (·.drawn width)).filter (·.mark = e.mark) = [e.drawn width] := by
    rw [List.filter_map]
    exact congrArg (List.map _) (Drain.filter_mark he hnodup)
  have hcomm : (survivors width es).filter (·.mark = e.mark) =
      ((es.map (·.drawn width)).filter (·.mark = e.mark)).filter (!·.supply.isExhausted) := by
    rw [survivors, List.filter_filter, List.filter_filter]
    simp only [Bool.and_comm]
  rw [hcomm, hone]
  by_cases hexhausted : (e.drawn width).supply.isExhausted = true
  · simp [hexhausted]
  · simp [hexhausted]

theorem onward_policy (position increment : Nat) (e : Commitment α) :
    (e.onward position increment).policy.map Policy.readyMade = e.policy.map Policy.readyMade := by
  obtain ⟨id, deliveryTime, supply, phase, policy, mark⟩ := e
  cases policy with
  | none => rfl
  | some p => exact congrArg some (p.readyMade_pick _)

/-! ## Descent -/

/-- `c` is what became of `e`, which was drawn from or not. -/
structure Descends (e : Commitment α) (drawn : Prop) (c : Commitment α) : Prop where
  mark : c.mark = e.mark
  id : c.id = e.id
  policy : c.policy.map Policy.readyMade = e.policy.map Policy.readyMade
  untouched : ¬ drawn → c.supply = e.supply
  begun : drawn → c.supply.phase ≠ .full

theorem Descends.congr {e c : Commitment α} {drawn drawn' : Prop} (h : e.Descends drawn c)
    (hdrawn : drawn ↔ drawn') : e.Descends drawn' c :=
  ⟨h.mark, h.id, h.policy, fun hnot => h.untouched fun hd => hnot (hdrawn.mp hd),
    fun hd => h.begun (hdrawn.mpr hd)⟩

theorem Descends.identified {e c c' : Commitment α} {drawn : Prop} (h : e.Descends drawn c)
    (he : e.id ≠ none) (hid : c.Identified c') : e.Descends drawn c' := by
  have hsame := hid.id_eq (h.id ▸ he)
  obtain ⟨id, rfl, _⟩ := hid
  exact ⟨h.mark, hsame.trans h.id, h.policy, h.untouched, h.begun⟩

theorem Descends.caughtUp {e c : Commitment α} {drawn : Prop} (h : e.Descends drawn c)
    (position : Nat) : e.Descends drawn (c.caughtUp position) := by
  rw [c.caughtUp_eq position]
  exact ⟨h.mark, h.id, h.policy, h.untouched, h.begun⟩

/-- A draw begins the supply. -/
theorem Descends.drawn {e c : Commitment α} {drawn drawn' : Prop} (h : e.Descends drawn c)
    (hdrawn : drawn') (width : Nat) : e.Descends drawn' (c.drawn width) :=
  ⟨h.mark, h.id, h.policy, fun hnot => absurd hdrawn hnot, fun _ => c.supply.take_phase width⟩

theorem Descends.onward {e c : Commitment α} {drawn : Prop} (h : e.Descends drawn c)
    (position increment : Nat) : e.Descends drawn (c.onward position increment) := by
  have hpolicy := onward_policy position increment c
  obtain ⟨bucket, policy, heq⟩ := c.onward_eq position increment
  rw [heq] at hpolicy ⊢
  exact ⟨h.mark, h.id, hpolicy.trans h.policy, h.untouched, h.begun⟩

/-- A policy is asked in the name of the accepted commitment. -/
theorem Descends.policyCalls {e c : Commitment α} {drawn : Prop} (h : e.Descends drawn c)
    (position : Nat) : c.policyCalls position = (e.policy.map fun p =>
      .policy e.mark p.readyMade ⟨e.id, position, c.deliveryTime, c.supply.remaining⟩).toList := by
  have hpolicy := congrArg (Option.map fun readyMade => Callback.policy e.mark readyMade
    ⟨e.id, position, c.deliveryTime, c.supply.remaining⟩) h.policy
  rw [Option.map_map, Option.map_map] at hpolicy
  rw [Commitment.policyCalls, h.mark, h.id]
  exact congrArg Option.toList hpolicy

theorem Descends.supplierCalls {e c : Commitment α} {drawn : Prop} (h : e.Descends drawn c)
    {items : List α} (hawaits : e.supply.Awaits items) [Decidable drawn] :
    c.supplierCalls = if drawn then [] else [.supplier e.mark items.length] := by
  split
  · next hdrawn => exact if_neg (h.begun hdrawn)
  · next hnot =>
    have hsupply := h.untouched hnot
    have hcalls := supplierCalls_awaits (e := c) (hsupply ▸ hawaits)
    rw [hcalls, h.mark]

end Commitment

namespace Track

open Commitment (Refiled goods survivors spent dueAt)

variable {α φ : Type} [Outage φ]

/-- What is in flight descends from accepted commitments, and the drains drew from no others. -/
structure Lineage (t : Track α φ) (enrolled : List (Commitment α)) (ds : List (Drain α)) :
    Prop where
  descends : ∀ c ∈ t.live, ∃ e ∈ enrolled, e.Descends (e.mark ∈ ds.flatMap Drain.marks) c
  identified : ∀ e ∈ enrolled, e.id ≠ none
  known : ∀ n ∈ ds.flatMap Drain.marks, n ∈ enrolled.map (·.mark)

/-! ## What requests do to the lineage -/

theorem Lineage.retried {t : Track α φ} {enrolled : List (Commitment α)} {ds : List (Drain α)}
    (h : t.Lineage enrolled ds) (hsound : t.Sound) : t.retryDeferred.state.Lineage enrolled ds := by
  obtain ⟨held, hrefiled, hturn, _, _⟩ := retryDeferred_turn hsound
  have hout : t.live.Perm (t.stranded ++ t.store.events) := List.perm_append_comm
  refine ⟨?_, h.identified, h.known⟩
  intro c hc
  rcases List.mem_append.mp ((hturn.live_perm hout).mem_iff.mp hc) with hc | hc
  · obtain ⟨_, hmem, hid⟩ := hrefiled.origin hc
    obtain ⟨c₀, hc₀, rfl⟩ := List.mem_map.mp hmem
    obtain ⟨e, he, hdescends⟩ := h.descends c₀ (mem_live_of_stranded hc₀)
    exact ⟨e, he, (hdescends.caughtUp t.position).identified (h.identified e he) hid⟩
  · exact h.descends c (List.mem_append_left _ hc)

/-- The drain of the bucket at the clock draws from what is due and leaves the others alone. -/
theorem Lineage.drained {r t' : Track α φ} {enrolled : List (Commitment α)} {ds : List (Drain α)}
    (h : r.Lineage enrolled ds) (hsound : r.Sound) (hnodup : (r.live.map (·.mark)).Nodup)
    {filed held : List (Commitment α)} {gone : Nat}
    (hrefiled : Refiled ((survivors r.frameWidth (r.store.contents r.position)).map
      (·.onward r.position r.increment)) filed held)
    (hturn : Turn r t' (r.store.contents r.position) filed held gone) {d : Drain α}
    (hd : d.marks = (r.store.contents r.position).map (·.mark)) :
    t'.Lineage enrolled (ds ++ [d]) := by
  obtain ⟨others, hsplit⟩ := hsound.live_split r.position
  have hmarks := (hsplit.map (·.mark)).nodup_iff.mp hnodup
  rw [List.map_append] at hmarks
  have hdisjoint := (List.nodup_append.mp hmarks).2.2
  have hall : ∀ n, n ∈ (ds ++ [d]).flatMap Drain.marks ↔
      n ∈ ds.flatMap Drain.marks ∨ n ∈ (r.store.contents r.position).map (·.mark) := by
    intro n
    rw [List.flatMap_append, List.flatMap_singleton, hd, List.mem_append]
  refine ⟨?_, h.identified, ?_⟩
  · intro c hc
    rcases List.mem_append.mp ((hturn.live_perm hsplit).mem_iff.mp hc) with hc | hc
    · obtain ⟨_, hmem, hid⟩ := hrefiled.origin hc
      obtain ⟨_, hsurvivor, rfl⟩ := List.mem_map.mp hmem
      obtain ⟨c₀, hc₀, rfl⟩ := List.mem_map.mp (List.mem_of_mem_filter hsurvivor)
      obtain ⟨e, he, hdescends⟩ := h.descends c₀ (hsound.mem_live hc₀)
      have hdrawn : e.mark ∈ (ds ++ [d]).flatMap Drain.marks :=
        (hall _).mpr (Or.inr (hdescends.mark ▸ List.mem_map_of_mem hc₀))
      exact ⟨e, he, ((hdescends.drawn hdrawn _).onward _ _).identified (h.identified e he) hid⟩
    · obtain ⟨e, he, hdescends⟩ :=
        h.descends c (hsplit.mem_iff.mpr (List.mem_append_right _ hc))
      have hnot : e.mark ∉ (r.store.contents r.position).map (·.mark) := by
        intro hdue
        rw [← hdescends.mark] at hdue
        exact hdisjoint c.mark hdue c.mark (List.mem_map_of_mem hc) rfl
      refine ⟨e, he, hdescends.congr ?_⟩
      rw [hall, or_iff_left hnot]
  · intro n hn
    rcases (hall n).mp hn with hn | hn
    · exact h.known n hn
    · obtain ⟨c, hc, rfl⟩ := List.mem_map.mp hn
      obtain ⟨e, he, hdescends⟩ := h.descends c (hsound.mem_live hc)
      exact List.mem_map.mpr ⟨e, he, hdescends.mark.symm⟩

theorem Lineage.tick {t : Track α φ} {enrolled : List (Commitment α)} {ds : List (Drain α)}
    (h : t.Lineage enrolled ds) (hsound : t.Sound) (hnodup : (t.live.map (·.mark)).Nodup) :
    (t.perform .tick).Lineage enrolled (ds ++ t.drains .tick) := by
  obtain ⟨_, _, hretry, hposition, _⟩ := retryDeferred_turn hsound
  have hretried := h.retried hsound
  have hnodup' := (retryDeferred_marks hsound).nodup_iff.mpr hnodup
  have hdue : t.due = t.retryDeferred.state.store.contents t.retryDeferred.state.position := by
    rw [due, hposition]
  have hemitted := nextFrame_emitted hsound
  show t.nextFrame.state.Lineage _ _
  simp only [drains]
  generalize t.nextFrame.value = value, t.nextFrame.state = t', t.settleFilings = filed
    at hemitted ⊢
  cases hemitted with
  | idle _ =>
    rw [List.append_nil]
    exact hretried
  | refused _ _ hturn _ _ =>
    have hlive := hturn.live
    rw [List.append_nil, List.append_nil, List.append_nil] at hlive
    rw [List.append_nil]
    exact ⟨fun c hc => hretried.descends c (hlive.mem_iff.mp hc), hretried.identified,
      hretried.known⟩
  | framed _ _ hrefiled hturn _ _ =>
    refine hretried.drained hretry.sound hnodup' hrefiled hturn ?_
    rw [Drain.marks_ofDue, hdue]

theorem Lineage.schedule {t : Track α φ} {enrolled : List (Commitment α)} {ds : List (Drain α)}
    (h : t.Lineage enrolled ds) (hsound : t.Sound)
    (hnew : t.counters.scheduled ∉ enrolled.map (·.mark)) {e : Commitment α}
    (hfull : e.phase = .full) :
    (t.perform (.schedule e)).Lineage (enrolled ++ t.enrolled (.schedule e)) ds := by
  have hfull' : (t.numbered e).phase = .full := hfull
  simp only [Track.enrolled, perform]
  rw [t.filings_schedule hfull]
  rcases schedule_turn hsound hfull' with ⟨e', hid, _, hfiling, hturn⟩ | ⟨_, _, hfiling, hturn⟩
  · rw [hfiling]
    have hlive := hturn.live
    rw [List.append_nil, List.append_nil] at hlive
    have hundrawn : e'.mark ∉ ds.flatMap Drain.marks := by
      intro hdrawn
      have hmark : e'.mark = t.counters.scheduled := by
        rw [hid.mark_eq, (t.numbered e).admitted_eq t.position]
        rfl
      exact hnew (hmark ▸ h.known _ hdrawn)
    refine ⟨?_, ?_, ?_⟩
    · intro c hc
      rcases List.mem_append.mp (hlive.mem_iff.mp hc) with hc | hc
      · obtain ⟨e₀, he₀, hdescends⟩ := h.descends c hc
        exact ⟨e₀, List.mem_append_left _ he₀, hdescends⟩
      · obtain rfl := List.mem_singleton.mp hc
        exact ⟨c, List.mem_append_right _ hc, rfl, rfl, rfl, fun _ => rfl,
          fun hdrawn => absurd hdrawn hundrawn⟩
    · refine List.forall_mem_append.mpr ⟨h.identified, List.forall_mem_singleton.mpr ?_⟩
      exact filing_id (hfiling ▸ List.mem_singleton_self e')
    · intro n hn
      rw [List.map_append]
      exact List.mem_append_left _ (h.known n hn)
  · rw [hfiling, List.append_nil]
    have hlive := hturn.live
    rw [List.append_nil, List.append_nil, List.append_nil] at hlive
    exact ⟨fun c hc => h.descends c (hlive.mem_iff.mp hc), h.identified, h.known⟩

/-- The number of the next commitment is new. -/
theorem scheduled_new {t₀ : Track α φ} (h : t₀.Opened)
    (hkeeps : Outage.KeepsEvents t₀.store.outage) {rs : List (Request α)}
    (hfull : ∀ r ∈ rs, r.Full) :
    (t₀.run rs).counters.scheduled ∉ (t₀.history enrolled rs).map (·.mark) := by
  have htally := tally_run h hkeeps hfull
  rw [(chronicle_run h hkeeps hfull).1, htally.numbered, htally.scheduled, List.mem_range]
  exact Nat.lt_irrefl _

theorem lineage_run {t₀ : Track α φ} (h : t₀.Opened) (hkeeps : Outage.KeepsEvents t₀.store.outage)
    {rs : List (Request α)} (hfull : ∀ r ∈ rs, r.Full) :
    (t₀.run rs).Lineage (t₀.history enrolled rs) (t₀.history drains rs) := by
  induction rs using List.reverseRecOn with
  | nil =>
    refine ⟨?_, ?_, ?_⟩
    · intro c hc
      have hnone : c ∈ t₀.live := hc
      rw [h.live] at hnone
      cases hnone
    · intro e he
      cases he
    · intro n hn
      cases hn
  | append_singleton rs r ih =>
    obtain ⟨hfull, hr⟩ := List.forall_mem_append.mp hfull
    have hr := List.forall_mem_singleton.mp hr
    have ih := ih hfull
    have htally := tally_run h hkeeps hfull
    have hnew := scheduled_new h hkeeps hfull
    rw [run_snoc, history_snoc, history_snoc]
    cases r with
    | schedule e =>
      have hdrains : (t₀.run rs).drains (.schedule e) = [] := rfl
      rw [hdrains, List.append_nil]
      exact ih.schedule htally.sound hnew hr
    | tick =>
      have henrolled : (t₀.run rs).enrolled .tick = [] := rfl
      rw [henrolled, List.append_nil]
      exact ih.tick htally.sound htally.live_nodup

/-! ## The callbacks of a tick -/

/-- A tick drains the bucket at the clock and calls what the commitments there need, or it drains
nothing and calls nothing. -/
theorem callbacks_tick (t : Track α φ) :
    t.drains .tick = [] ∧ t.callbacks .tick = [] ∨
      t.drains .tick = [.ofDue t.position t.frameWidth t.due] ∧
        t.callbacks .tick = t.due.flatMap (·.supplierCalls) ++
          (survivors t.frameWidth t.due).flatMap (·.policyCalls t.position) := by
  simp only [drains, callbacks]
  cases t.nextFrame.value with
  | error error => exact Or.inl ⟨rfl, rfl⟩
  | ok frame =>
    cases frame with
    | none => exact Or.inl ⟨rfl, rfl⟩
    | some frame => exact Or.inr ⟨rfl, rfl⟩

theorem callbacks_inTurn {t : Track α φ} {d : Drain α} (hd : d ∈ t.drains .tick) :
    Callback.InTurn d.marks (t.callbacks .tick) := by
  rcases callbacks_tick t with ⟨hnone, _⟩ | ⟨hdrains, hcallbacks⟩
  · rw [hnone] at hd
    cases hd
  · rw [hdrains, List.mem_singleton] at hd
    rw [hd, Drain.marks_ofDue]
    refine ⟨_, _, hcallbacks, ?_, ?_, Commitment.supplierCalls_sublist _, ?_⟩
    · intro c hc
      obtain ⟨e, _, hc⟩ := List.mem_flatMap.mp hc
      exact (Commitment.mark_of_supplierCalls hc).2
    · intro c hc
      obtain ⟨e, _, hc⟩ := List.mem_flatMap.mp hc
      exact (Commitment.mark_of_policyCalls hc).2
    · exact (Commitment.policyCalls_sublist _ _).trans (Commitment.survivors_sublist _ _)

/-- Only commitments that a tick draws from have calls in it. -/
theorem mark_of_callbacks {t : Track α φ} {c : Callback} (hc : c ∈ t.callbacks .tick) :
    c.mark ∈ (t.drains .tick).flatMap Drain.marks := by
  rcases callbacks_tick t with ⟨_, hnone⟩ | ⟨hdrains, _⟩
  · rw [hnone] at hc
    cases hc
  · obtain ⟨suppliers, policies, hcallbacks, _, _, hsuppliers, hpolicies⟩ :=
      callbacks_inTurn (d := .ofDue t.position t.frameWidth t.due) (hdrains ▸ List.mem_cons_self)
    rw [hdrains, List.flatMap_singleton]
    rw [hcallbacks] at hc
    rcases List.mem_append.mp hc with hc | hc
    · exact hsuppliers.subset (List.mem_map_of_mem hc)
    · exact hpolicies.subset (List.mem_map_of_mem hc)

/-- The calls of a commitment that is due. -/
theorem callbacks_due {t : Track α φ} (hnodup : (t.due.map (·.mark)).Nodup) {c : Commitment α}
    (hc : c ∈ t.due) (hcallbacks : t.callbacks .tick = t.due.flatMap (·.supplierCalls) ++
      (survivors t.frameWidth t.due).flatMap (·.policyCalls t.position)) :
    (t.callbacks .tick).filter (·.supplies c.mark) = c.supplierCalls ∧
      (t.callbacks .tick).filter (·.asks c.mark) =
        if (c.drawn t.frameWidth).supply.isExhausted then []
        else (c.drawn t.frameWidth).policyCalls t.position := by
  rw [hcallbacks, List.filter_append, List.filter_append]
  constructor
  · rw [Commitment.filter_supplies_policyCalls, Commitment.filter_supplierCalls,
      Drain.filter_mark hc hnodup, List.flatMap_singleton, List.append_nil]
  · rw [Commitment.filter_asks_supplierCalls, Commitment.filter_policyCalls,
      Commitment.filter_survivors t.frameWidth hnodup hc, List.nil_append]
    split
    · rfl
    · exact List.flatMap_singleton _ _

/-- What a tick calls for an accepted commitment after a run with the given drains: the supplier
if it is drawn from for the first time, and the policy if the tick leaves something of it. -/
structure Disciplined (t : Track α φ) (e : Commitment α) (ds : List (Drain α)) : Prop where
  supplier : ∀ items, e.supply.Awaits items →
    (t.callbacks .tick).filter (·.supplies e.mark) =
      if e.mark ∉ ds.flatMap Drain.marks ∧ e.mark ∈ (t.drains .tick).flatMap Drain.marks
      then [.supplier e.mark items.length] else []
  policy : e.mark ∈ (t.drains .tick).flatMap Drain.marks →
    e.mark ∉ (t.drains .tick).flatMap (·.retired) →
    ∃ left, left ≠ [] ∧ Drain.handed e.mark (ds ++ t.drains .tick) ++ left = e.supply.rest ∧
      (t.callbacks .tick).filter (·.asks e.mark) = (e.policy.map fun p =>
        .policy e.mark p.readyMade ⟨e.id, t.position, t.position, some left.length⟩).toList
  silent : e.mark ∉ (t.drains .tick).flatMap Drain.marks ∨
      e.mark ∈ (t.drains .tick).flatMap (·.retired) →
    (t.callbacks .tick).filter (·.asks e.mark) = []
  gone : e.mark ∈ ds.flatMap (·.retired) → ∀ c ∈ t.callbacks .tick, c.mark ≠ e.mark

/-- A commitment that a tick does not draw from has no calls in it. -/
theorem callbacks_passed {t : Track α φ} {n : Nat}
    (hn : n ∉ (t.drains .tick).flatMap Drain.marks) :
    (t.callbacks .tick).filter (·.supplies n) = [] ∧
      (t.callbacks .tick).filter (·.asks n) = [] := by
  constructor
  · apply List.filter_eq_nil_iff.mpr
    intro c hc hsupplies
    exact hn (Callback.mark_of_supplies hsupplies ▸ mark_of_callbacks hc)
  · apply List.filter_eq_nil_iff.mpr
    intro c hc hasks
    exact hn (Callback.mark_of_asks hasks ▸ mark_of_callbacks hc)

/-- A commitment that a tick draws from, as it lies in the bucket at the clock. -/
theorem due_of_drains {t : Track α φ} {n : Nat}
    (hn : n ∈ (t.drains .tick).flatMap Drain.marks) :
    (∃ c ∈ t.due, c.mark = n) ∧ t.drains .tick = [.ofDue t.position t.frameWidth t.due] ∧
      t.callbacks .tick = t.due.flatMap (·.supplierCalls) ++
        (survivors t.frameWidth t.due).flatMap (·.policyCalls t.position) := by
  rcases callbacks_tick t with ⟨hnone, _⟩ | ⟨hdrains, hcallbacks⟩
  · rw [hnone] at hn
    cases hn
  · refine ⟨?_, hdrains, hcallbacks⟩
    rw [hdrains, List.flatMap_singleton, Drain.marks_ofDue] at hn
    exact List.mem_map.mp hn

/-- What is due is in flight after the retries, and is meant for the bucket at the clock. -/
theorem Sound.mem_due {t : Track α φ} (h : t.Sound) {c : Commitment α} (hc : c ∈ t.due) :
    c ∈ t.retryDeferred.state.live ∧ c.deliveryTime = t.position := by
  obtain ⟨_, _, hturn, _, _⟩ := retryDeferred_turn h
  exact ⟨hturn.sound.mem_live hc, (hturn.sound.filed _ c hc).1⟩

theorem Sound.due_nodup {t : Track α φ} (h : t.Sound) (hnodup : (t.live.map (·.mark)).Nodup) :
    (t.due.map (·.mark)).Nodup := by
  obtain ⟨_, _, hturn, _, _⟩ := retryDeferred_turn h
  have hlive := (retryDeferred_marks h).nodup_iff.mpr hnodup
  obtain ⟨others, hsplit⟩ := hturn.sound.live_split t.position
  have hmarks := (hsplit.map (·.mark)).nodup_iff.mp hlive
  rw [List.map_append] at hmarks
  exact (List.nodup_append.mp hmarks).1

omit [Outage φ] in
/-- The accepted commitment that one in flight descends from is the one of its number. -/
theorem Lineage.of_mark {t : Track α φ} {enrolled : List (Commitment α)} {ds : List (Drain α)}
    (h : t.Lineage enrolled ds) (hnodup : (enrolled.map (·.mark)).Nodup) {e c : Commitment α}
    (he : e ∈ enrolled) (hc : c ∈ t.live) (hmark : c.mark = e.mark) :
    e.Descends (e.mark ∈ ds.flatMap Drain.marks) c := by
  obtain ⟨e', he', hdescends⟩ := h.descends c hc
  obtain rfl : e' = e :=
    List.inj_on_of_nodup_map hnodup he' he (hdescends.mark.symm.trans hmark)
  exact hdescends

theorem Lineage.disciplined {t : Track α φ} {accepted enrolled : List (Commitment α)}
    {ds : List (Drain α)} (h : t.Lineage enrolled ds) (hledger : t.Ledger accepted ds)
    (hgoods : enrolled.map goods = accepted.map goods) {e : Commitment α} (he : e ∈ enrolled) :
    Disciplined t e ds := by
  have hsound := hledger.tally.sound
  have hlive := hledger.tally.live_nodup
  have hdue := hsound.due_nodup hlive
  have henrolled : (enrolled.map (·.mark)).Nodup := by
    rw [← Commitment.map_goods_fst, hgoods, Commitment.map_goods_fst, hledger.tally.numbered]
    exact List.nodup_range
  have hretried := h.retried hsound
  obtain ⟨a, ha, hsame⟩ := List.mem_map.mp (hgoods ▸ List.mem_map_of_mem he)
  obtain ⟨hmark, hsupply⟩ := Prod.mk.inj hsame
  have hdelivered := hledger.delivered ha
  have hinFlight := hdelivered.inFlight
  have hitems := hdelivered.items
  rw [hmark] at hinFlight hitems
  rw [hsupply] at hitems
  refine ⟨?_, ?_, ?_, ?_⟩
  · intro items hawaits
    by_cases hnow : e.mark ∈ (t.drains .tick).flatMap Drain.marks
    · obtain ⟨⟨c, hc, hown⟩, _, hcallbacks⟩ := due_of_drains hnow
      have hdescends := hretried.of_mark henrolled he (hsound.mem_due hc).1 hown
      rw [← hown, (callbacks_due hdue hc hcallbacks).1, hdescends.supplierCalls hawaits, hown]
      by_cases hbefore : e.mark ∈ ds.flatMap Drain.marks
      · simp [hbefore]
      · simp [hbefore, hnow]
    · rw [(callbacks_passed hnow).1, if_neg fun hboth => hnow hboth.2]
  · intro hnow hkept
    obtain ⟨⟨c, hc, hown⟩, hdrains, hcallbacks⟩ := due_of_drains hnow
    obtain ⟨hclive, hbucket⟩ := hsound.mem_due hc
    have hcsound := hledger.due_sound c hc
    have hdescends := hretried.of_mark henrolled he hclive hown
    have hmore : ¬ (c.drawn t.frameWidth).supply.isExhausted = true := by
      intro hexhausted
      apply hkept
      rw [hdrains, List.flatMap_singleton, Drain.mem_retired_ofDue]
      exact ⟨c, hc, hown, hexhausted⟩
    have hgoods : (e.mark, c.supply) ∈ t.live.map goods := by
      rw [← hown]
      exact (retryDeferred_goods hsound).mem_iff.mp (List.mem_map_of_mem hclive)
    have hshare := (Drain.share t.position t.frameWidth hc hdue).1
    rw [hown] at hshare
    have hslice : (c.draw t.frameWidth).value = c.supply.rest.take t.frameWidth :=
      Supply.take_value hcsound t.frameWidth
    have hremaining : (c.drawn t.frameWidth).supply.remaining =
        some (c.supply.rest.drop t.frameWidth).length :=
      Supply.take_remaining hcsound t.frameWidth
    have htime : (c.drawn t.frameWidth).deliveryTime = t.position := hbucket
    refine ⟨c.supply.rest.drop t.frameWidth, ?_, ?_, ?_⟩
    · exact fun hnone => hmore ((Supply.take_isExhausted hcsound t.frameWidth).mpr hnone)
    · rw [Drain.handed_append, hdrains, Drain.handed_singleton, hshare, List.flatten_singleton,
        hslice, List.append_assoc, List.take_append_drop, ← holding_eq_rest hlive hgoods, hitems]
    · have hasks := (callbacks_due hdue hc hcallbacks).2
      rw [if_neg hmore, (hdescends.drawn trivial t.frameWidth).policyCalls, htime, hremaining,
        hown] at hasks
      exact hasks
  · intro hquiet
    by_cases hnow : e.mark ∈ (t.drains .tick).flatMap Drain.marks
    · obtain ⟨_, hdrains, hcallbacks⟩ := due_of_drains hnow
      have hretired := hquiet.resolve_left fun hnot => hnot hnow
      rw [hdrains, List.flatMap_singleton, Drain.mem_retired_ofDue] at hretired
      obtain ⟨c, hc, hown, hexhausted⟩ := hretired
      rw [← hown, (callbacks_due hdue hc hcallbacks).2, if_pos hexhausted]
    · exact (callbacks_passed hnow).2
  · intro hretired c hc hcall
    obtain ⟨⟨c', hc', hown⟩, _, _⟩ := due_of_drains (hcall ▸ mark_of_callbacks hc)
    have hmarks := List.mem_map_of_mem (f := (·.mark)) (hsound.mem_due hc').1
    have hstill := (retryDeferred_marks hsound).mem_iff.mp hmarks
    exact hinFlight.mp (hown ▸ hstill) hretired

/-! ## Runs -/

/-- The goods of the enrolled commitments are those of the accepted ones. -/
theorem history_goods {t₀ : Track α φ} (h : t₀.Opened)
    (hkeeps : Outage.KeepsEvents t₀.store.outage) {rs : List (Request α)}
    (hfull : ∀ r ∈ rs, r.Full) :
    (t₀.history enrolled rs).map goods = (t₀.history accepted rs).map goods := by
  induction rs using List.reverseRecOn with
  | nil => rfl
  | append_singleton rs r ih =>
    obtain ⟨hfull, hr⟩ := List.forall_mem_append.mp hfull
    have hsound := (tally_run h hkeeps hfull).sound
    rw [history_snoc, history_snoc, List.map_append, List.map_append, ih hfull,
      enrolled_goods hsound (List.forall_mem_singleton.mp hr)]

theorem disciplined_run {t₀ : Track α φ} (h : t₀.Opened)
    (hkeeps : Outage.KeepsEvents t₀.store.outage) {rs : List (Request α)}
    (hfresh : ∀ r ∈ rs, r.Fresh) {e : Commitment α} (he : e ∈ t₀.history enrolled rs) :
    Disciplined (t₀.run rs) e (t₀.history drains rs) := by
  have hfull : ∀ r ∈ rs, r.Full := fun r hr => (hfresh r hr).full
  exact (lineage_run h hkeeps hfull).disciplined (ledger_run h hkeeps hfresh)
    (history_goods h hkeeps hfull) he

theorem filing_mark {e c : Commitment α} {t : Track α φ} (hc : c ∈ t.filing e) :
    c.mark = e.mark := by
  unfold filing at hc
  split at hc
  · obtain rfl := List.mem_singleton.mp hc
    rfl
  · cases hc

/-- A commitment that is accepted gets the next number. -/
theorem enrolled_mark {t : Track α φ} {e c : Commitment α} (hfull : e.phase = .full)
    (hc : c ∈ t.enrolled (.schedule e)) : c.mark = t.counters.scheduled := by
  rw [enrolled, t.filings_schedule hfull] at hc
  rw [filing_mark hc, (t.numbered e).admitted_eq t.position]
  rfl

/-- Over a run the suppliers of the commitments that were drawn from ran once, and no others. -/
theorem supplied_run {t₀ : Track α φ} (h : t₀.Opened)
    (hkeeps : Outage.KeepsEvents t₀.store.outage) {rs : List (Request α)}
    (hfresh : ∀ r ∈ rs, r.Fresh) :
    (∀ c ∈ t₀.history callbacks rs, c.mark ∈ (t₀.history drains rs).flatMap Drain.marks) ∧
      ∀ e ∈ t₀.history enrolled rs, ∀ items, e.supply.Awaits items →
        (t₀.history callbacks rs).filter (·.supplies e.mark) =
          if e.mark ∈ (t₀.history drains rs).flatMap Drain.marks
          then [.supplier e.mark items.length] else [] := by
  induction rs using List.reverseRecOn with
  | nil =>
    constructor
    · intro c hc
      cases hc
    · intro e he
      cases he
  | append_singleton rs r ih =>
    obtain ⟨hfresh, hr⟩ := List.forall_mem_append.mp hfresh
    have hr := List.forall_mem_singleton.mp hr
    have hfull : ∀ r ∈ rs, r.Full := fun r hr => (hfresh r hr).full
    obtain ⟨hmarks, hsupplied⟩ := ih hfresh
    have hlineage := lineage_run h hkeeps hfull
    have hnew := scheduled_new h hkeeps hfull
    have hdisciplined := fun e => disciplined_run h hkeeps hfresh (e := e)
    rw [history_snoc, history_snoc, history_snoc]
    cases r with
    | schedule e =>
      have hdrains : (t₀.run rs).drains (.schedule e) = [] := rfl
      have hcallbacks : (t₀.run rs).callbacks (.schedule e) = [] := rfl
      rw [hdrains, hcallbacks, List.append_nil, List.append_nil]
      refine ⟨hmarks, ?_⟩
      intro c hc items hawaits
      rcases List.mem_append.mp hc with hc | hc
      · exact hsupplied c hc items hawaits
      · have hundrawn : c.mark ∉ (t₀.history drains rs).flatMap Drain.marks := by
          rw [enrolled_mark hr.full hc]
          exact fun hdrawn => hnew (hlineage.known _ hdrawn)
        rw [if_neg hundrawn]
        apply List.filter_eq_nil_iff.mpr
        intro call hcall hsupplies
        exact hundrawn (Callback.mark_of_supplies hsupplies ▸ hmarks call hcall)
    | tick =>
      have henrolled : (t₀.run rs).enrolled .tick = [] := rfl
      rw [henrolled, List.append_nil, List.flatMap_append]
      constructor
      · intro call hcall
        rcases List.mem_append.mp hcall with hcall | hcall
        · exact List.mem_append_left _ (hmarks call hcall)
        · exact List.mem_append_right _ (mark_of_callbacks hcall)
      · intro e he items hawaits
        rw [List.filter_append, hsupplied e he items hawaits,
          (hdisciplined e he).supplier items hawaits]
        by_cases hbefore : e.mark ∈ (t₀.history drains rs).flatMap Drain.marks
        · simp only [hbefore, not_true, false_and, if_false, if_true, List.mem_append, true_or,
            List.append_nil]
        · simp only [hbefore, not_false_eq_true, true_and, if_false, List.mem_append, false_or,
            List.nil_append]

/-- The discipline of callbacks, whatever store calls fail on the way. Accepting commitments and
trying them again calls nothing. A tick at position `p` runs suppliers before it asks policies, and
each kind in the order in which the commitments of bucket `p` were filed; it does so for accepted
commitments only. For each of these its supplier runs in the tick that draws from it first and
never again, and its policy is asked once in each tick that draws from it and leaves something:
about bucket `p`, with the identity it was given first and the number of items that are left. -/
theorem callback_discipline {t₀ : Track α φ} (h : t₀.Opened)
    (hkeeps : Outage.KeepsEvents t₀.store.outage) {rs : List (Request α)}
    (hfresh : ∀ r ∈ rs, r.Fresh) :
    let t := t₀.run rs
    let ds := t₀.history drains rs
    (∀ e, Note.Quiet (t.schedule e).notes) ∧ Note.Quiet t.retryDeferred.notes ∧
      t.nextFrame.notes.filter Note.isCallback = (t.callbacks .tick).map Callback.note ∧
      (∀ d ∈ t.drains .tick, Callback.InTurn d.marks (t.callbacks .tick) ∧
        d.marks = (dueAt t.position (t₀.history filings rs ++ t.retryFilings)).map (·.mark)) ∧
      (∀ c ∈ t.callbacks .tick, c.mark ∈ (t₀.history enrolled rs).map (·.mark)) ∧
      ∀ e ∈ t₀.history enrolled rs, Disciplined t e ds ∧
        ∀ items, e.supply.Awaits items →
          (t₀.history callbacks rs).filter (·.supplies e.mark) =
            if e.mark ∈ ds.flatMap Drain.marks then [.supplier e.mark items.length] else [] := by
  intro t ds
  have hfull : ∀ r ∈ rs, r.Full := fun r hr => (hfresh r hr).full
  have hsound : t.Sound := (tally_run h hkeeps hfull).sound
  have hordered := ordered_run h hkeeps hfresh
  have hlineage := (lineage_run h hkeeps hfull).tick hsound (tally_run h hkeeps hfull).live_nodup
  refine ⟨fun e => schedule_quiet e t, retryDeferred_quiet t, nextFrame_callbacks hsound, ?_, ?_,
    fun e he => ⟨disciplined_run h hkeeps hfresh he, (supplied_run h hkeeps hfresh).2 e he⟩⟩
  · intro d hd
    refine ⟨callbacks_inTurn hd, ?_⟩
    rw [(drains_of_tick hsound hd).1, Drain.marks_ofDue, due_eq hsound,
      hordered.contents t.position (Nat.le_refl _), Commitment.dueAt_append]
  · intro c hc
    apply hlineage.known
    rw [List.flatMap_append]
    exact List.mem_append_right _ (mark_of_callbacks hc)

/-- Two commitments for bucket 1, one with a supplier that brings more than it declared. -/
def lazily : List (Request Nat) :=
  [.schedule { deliveryTime := 0, supply := .lazy 2 [1, 2, 9], policy := some (.plus 2) },
    .schedule { deliveryTime := 1, supply := .deferred [3], policy := some (.every 4) }, .tick]

theorem lazily_fresh : ∀ r ∈ lazily, r.Fresh := by
  simp only [lazily, List.forall_mem_cons]
  refine ⟨⟨rfl, .lazy 2 [1, 2, 9] (by decide)⟩, ⟨rfl, .deferred [3] (by decide)⟩, trivial, ?_⟩
  exact List.forall_mem_nil _

/-- The next tick runs both suppliers, in order, and asks the policy of the first commitment, whose
rollover the store refuses. The tick after it tries the rollover again without asking, and drains
nothing. -/
theorem callback_discipline_lazily :
    (∀ e ∈ troubled.history enrolled lazily,
        Disciplined (troubled.run lazily) e (troubled.history drains lazily)) ∧
      (troubled.run lazily).callbacks .tick =
        [.supplier 0 3, .supplier 1 1, .policy 0 false ⟨some 1, 1, 1, some 1⟩] ∧
      (troubled.run (lazily ++ [.tick])).stranded.map (·.mark) = [0] ∧
      (troubled.run (lazily ++ [.tick])).callbacks .tick = [] := by
  obtain ⟨_, _, _, _, _, hall⟩ :=
    callback_discipline troubled_opened troubled_keepsEvents lazily_fresh
  exact ⟨fun e he => (hall e he).1, by decide +kernel, by decide +kernel, by decide +kernel⟩

end Track
end BucketClock
