import BucketClock.Proofs.Track.Sound

/-!
What is in flight, counted by marks and supplies. An accepted commitment adds
its goods, retries change nothing, and a drain replaces the goods of the due
commitments by what it leaves of them (`nextFrame_ticked`).
-/

namespace BucketClock

/-! ## Shares in a drain -/

namespace Drain

open Commitment (survivors spent)

variable {α : Type} {es : List (Commitment α)}

theorem frame_ofDue (bucket width : Nat) (es : List (Commitment α)) :
    (ofDue bucket width es).frame = es.flatMap fun e => (e.draw width).value := by
  rw [frame, ofDue, List.flatMap_map]

theorem slicesOf_ofDue (n bucket width : Nat) (es : List (Commitment α)) :
    (ofDue bucket width es).slicesOf n =
      (es.filter (·.mark = n)).map fun e => (e.draw width).value := by
  rw [slicesOf, ofDue, List.filter_map, List.map_map]
  rfl

theorem mem_retired_ofDue {n bucket width : Nat} :
    n ∈ (ofDue bucket width es).retired ↔
      ∃ e ∈ es, e.mark = n ∧ (e.drawn width).supply.isExhausted = true := by
  simp only [ofDue, spent, List.mem_map, List.mem_filter]
  constructor
  · rintro ⟨_, ⟨⟨e, he, rfl⟩, hexhausted⟩, rfl⟩
    exact ⟨e, he, rfl, hexhausted⟩
  · rintro ⟨e, he, rfl, hexhausted⟩
    exact ⟨_, ⟨⟨e, he, rfl⟩, hexhausted⟩, rfl⟩

/-- A commitment that is not due has no share. -/
theorem no_share {n bucket width : Nat} (h : n ∉ es.map (·.mark)) :
    (ofDue bucket width es).slicesOf n = [] ∧ n ∉ (ofDue bucket width es).retired := by
  have hne : ∀ e ∈ es, ¬ e.mark = n := fun e he heq => h (List.mem_map.mpr ⟨e, he, heq⟩)
  constructor
  · rw [slicesOf_ofDue, List.filter_eq_nil_iff.mpr, List.map_nil]
    simpa using hne
  · rw [mem_retired_ofDue]
    rintro ⟨e, he, heq, _⟩
    exact hne e he heq

theorem filter_mark {e : Commitment α} (he : e ∈ es) (hnodup : (es.map (·.mark)).Nodup) :
    es.filter (·.mark = e.mark) = [e] := by
  induction es with
  | nil => cases he
  | cons e' es ih =>
    rw [List.map_cons, List.nodup_cons] at hnodup
    obtain ⟨hfirst, hrest⟩ := hnodup
    rcases List.mem_cons.mp he with rfl | he
    · have hnone : es.filter (·.mark = e.mark) = [] := by
        apply List.filter_eq_nil_iff.mpr
        intro e' he' heq
        exact hfirst (List.mem_map.mpr ⟨e', he', by simpa using heq⟩)
      rw [List.filter_cons_of_pos (by simp), hnone]
    · have hne : ¬ e'.mark = e.mark := fun heq => hfirst (heq ▸ List.mem_map_of_mem he)
      rw [List.filter_cons_of_neg (by simpa using hne), ih he hrest]

/-- A commitment that is due has one share, and is retired if the draw exhausts it. -/
theorem share (bucket width : Nat) {e : Commitment α} (he : e ∈ es)
    (hnodup : (es.map (·.mark)).Nodup) :
    (ofDue bucket width es).slicesOf e.mark = [(e.draw width).value] ∧
      (e.mark ∈ (ofDue bucket width es).retired ↔
        (e.drawn width).supply.isExhausted = true) := by
  constructor
  · rw [slicesOf_ofDue, filter_mark he hnodup, List.map_singleton]
  · rw [mem_retired_ofDue]
    constructor
    · rintro ⟨e', he', hmark, hexhausted⟩
      have heq : e' = e := List.inj_on_of_nodup_map hnodup he' he hmark
      rw [← heq]
      exact hexhausted
    · intro hexhausted
      exact ⟨e, he, rfl, hexhausted⟩

end Drain

/-! ## Goods in flight -/

namespace Track

open Commitment (Refiled goods survivors spent dueAt)

variable {α φ : Type} [Outage φ]

/-- What is in flight after a turn: what it filed and held back, and what it left alone. -/
theorem Turn.live_perm {t t' : Track α φ} {out others filed held : List (Commitment α)}
    {gone : Nat} (h : Turn t t' out filed held gone) (hout : t.live.Perm (out ++ others)) :
    t'.live.Perm ((filed ++ held) ++ others) := by
  have hsplit : (t'.live ++ out).Perm (((filed ++ held) ++ others) ++ out) := by
    refine h.live.trans ((hout.append_right _).trans ?_)
    rw [List.append_assoc]
    exact List.perm_append_comm.trans (List.perm_append_comm.append_right _)
  exact (List.perm_append_right_iff out).mp hsplit

theorem Turn.goods_perm {t t' : Track α φ} {out others filed held : List (Commitment α)}
    {gone : Nat} (h : Turn t t' out filed held gone) (hout : t.live.Perm (out ++ others)) :
    (t'.live.map goods).Perm ((filed ++ held).map goods ++ others.map goods) := by
  rw [← List.map_append]
  exact (h.live_perm hout).map goods

theorem retryDeferred_goods {t : Track α φ} (h : t.Sound) :
    (t.retryDeferred.state.live.map goods).Perm (t.live.map goods) := by
  obtain ⟨held, hrefiled, hturn, _, _⟩ := retryDeferred_turn h
  have hout : t.live.Perm (t.stranded ++ t.store.events) := List.perm_append_comm
  refine (hturn.goods_perm hout).trans ?_
  refine (hrefiled.goods_perm.append_right _).trans ?_
  rw [Commitment.map_goods_caughtUp, ← List.map_append]
  exact List.perm_append_comm.map goods

theorem Sound.mem_live {t : Track α φ} (h : t.Sound) {id : Nat} {e : Commitment α}
    (he : e ∈ t.store.contents id) : e ∈ t.live :=
  List.mem_append_left _ ((Store.contents_sublist h.ready.sane.tidy.orderly id).subset he)

/-- The due commitments are among those in flight. -/
theorem Sound.live_split {t : Track α φ} (h : t.Sound) (id : Nat) :
    ∃ others, t.live.Perm (t.store.contents id ++ others) := by
  have hsublist : (t.store.contents id).Sublist t.live :=
    (Store.contents_sublist h.ready.sane.tidy.orderly id).trans (List.sublist_append_left _ _)
  exact hsublist.exists_perm_append

/-- What a tick draws from: all that is stored in its bucket and what its retries add. -/
theorem due_eq {t : Track α φ} (h : t.Sound) :
    t.due = t.store.contents t.position ++ dueAt t.position t.retryFilings := by
  obtain ⟨_, _, hretry, hposition, _⟩ := retryDeferred_turn h
  exact hretry.contents t.position (Nat.le_of_eq hposition)

/-- What a tick does to the goods in flight: nothing, or it draws from those that are due and
leaves the others alone. -/
inductive Ticked (t t' : Track α φ) : List (List α) → List (Drain α) → Prop
  | still (goods : (t'.live.map goods).Perm (t.live.map goods))
      (position : t'.position = t.position)
      (retired : t'.counters.retired = t.counters.retired) : Ticked t t' [] []
  | drained {others : List (Nat × Supply α)}
      (before : (t.live.map goods).Perm (t.due.map goods ++ others))
      (after : (t'.live.map goods).Perm ((survivors t.frameWidth t.due).map goods ++ others))
      (position : t'.position = t.position + 1)
      (retired : t'.counters.retired = t.counters.retired +
        (Drain.ofDue t.position t.frameWidth t.due).retired.length) :
      Ticked t t' [(Drain.ofDue t.position t.frameWidth t.due).frame]
        [.ofDue t.position t.frameWidth t.due]

theorem nextFrame_ticked {t : Track α φ} (h : t.Sound) :
    Ticked t t.nextFrame.state (t.frames .tick) (t.drains .tick) := by
  obtain ⟨_, _, hretry, hposition, _⟩ := retryDeferred_turn h
  have hgoods := retryDeferred_goods h
  have hemitted := nextFrame_emitted h
  simp only [frames, drains]
  generalize t.nextFrame.value = value, t.nextFrame.state = t', t.settleFilings = filed
    at hemitted ⊢
  cases hemitted with
  | idle _ => exact .still hgoods hposition hretry.retired
  | refused _ _ hturn hsame _ =>
    refine .still ?_ (hsame.trans hposition) (hturn.retired.trans hretry.retired)
    have hlive := hturn.live.map goods
    simp only [List.append_nil] at hlive
    exact hlive.trans hgoods
  | framed _ _ hrefiled hturn hnext _ =>
    obtain ⟨others, hsplit⟩ := hretry.sound.live_split t.retryDeferred.state.position
    have hdue : t.retryDeferred.state.store.contents t.retryDeferred.state.position = t.due := by
      rw [due, hposition]
    rw [hdue, hretry.frameWidth] at hrefiled hturn
    rw [hdue] at hsplit
    have hsurvivors := hrefiled.goods_perm
    rw [Commitment.map_goods_onward] at hsurvivors
    have hbefore := hsplit.map goods
    rw [List.map_append] at hbefore
    rw [hdue, hretry.frameWidth, ← Drain.frame_ofDue t.position]
    refine .drained (hgoods.symm.trans hbefore)
      ((hturn.goods_perm hsplit).trans (hsurvivors.append_right _)) ?_ ?_
    · rw [hnext, hposition]
    · rw [hturn.retired, hretry.retired, Drain.ofDue, List.length_map, Nat.add_zero]

/-- A tick drains at most the bucket at the clock, and draws from commitments in flight. -/
theorem drains_of_tick {t : Track α φ} (h : t.Sound) {d : Drain α} (hd : d ∈ t.drains .tick) :
    d = .ofDue t.position t.frameWidth t.due ∧
      ∃ others, (t.live.map goods).Perm (t.due.map goods ++ others) := by
  have hticked := nextFrame_ticked h
  generalize t.frames .tick = frames, t.drains .tick = drains, t.nextFrame.state = t' at hticked hd
  cases hticked with
  | still _ _ _ => cases hd
  | drained hbefore _ _ _ => exact ⟨List.mem_singleton.mp hd, _, hbefore⟩

/-- The frame of a tick is that of its drain, and the clock moves on by one bucket. -/
theorem frame_of_tick {t : Track α φ} (h : t.Sound) {frame : List α}
    (hframe : t.nextFrame.value = .ok (some frame)) :
    t.drains .tick = [.ofDue t.position t.frameWidth t.due] ∧
      frame = (Drain.ofDue t.position t.frameWidth t.due).frame ∧
      t.nextFrame.state.position = t.position + 1 := by
  have hframes : t.frames .tick = [frame] := by simp only [frames, hframe]
  have hticked := nextFrame_ticked h
  rw [hframes] at hticked
  generalize t.drains .tick = drains, t.nextFrame.state = t' at hticked ⊢
  cases hticked with
  | drained _ _ hposition _ => exact ⟨rfl, rfl, hposition⟩

/-- An accepted commitment adds its goods to those in flight, and a refused one adds nothing. -/
theorem schedule_goods {t : Track α φ} (h : t.Sound) {e : Commitment α} (hfull : e.phase = .full) :
    ((t.perform (.schedule e)).live.map goods).Perm
        (t.live.map goods ++ (t.accepted (.schedule e)).map goods) ∧
      (t.perform (.schedule e)).counters.retired = t.counters.retired := by
  have hfull' : (t.numbered e).phase = .full := hfull
  simp only [accepted, perform]
  rcases schedule_turn h hfull' with ⟨e', hid, hvalue, _, hturn⟩ | ⟨error, hvalue, _, hturn⟩
  · simp only [hvalue]
    refine ⟨?_, hturn.retired⟩
    have hlive := hturn.live.map goods
    rw [List.append_nil, List.append_nil, List.map_append] at hlive
    have hgoods : [e'].map goods = [t.numbered e].map goods := by
      rw [List.map_singleton, List.map_singleton, hid.goods_eq, Commitment.goods_admitted]
    rw [hgoods] at hlive
    exact hlive
  · simp only [hvalue]
    refine ⟨?_, hturn.retired⟩
    have hlive := hturn.live.map goods
    simp only [List.append_nil] at hlive
    rw [List.map_nil, List.append_nil]
    exact hlive

end Track
end BucketClock
