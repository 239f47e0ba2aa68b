import BucketClock.Proofs.Commitment
import BucketClock.Proofs.Supply
import Mathlib.Order.Monotone.Basic

/-!
The stops of a commitment: the buckets in which it is drained one after the
other. They follow from the commitment, the frame width and the increment alone.
A commitment that is drained at a stop goes on to the next one
(`Standing.onward`).
-/

namespace BucketClock.Commitment

variable {α : Type}

/-- The bucket of the drain `j` of a commitment, counted from 0, and its policy before it. Each
stop is where the policy asks to go, but always past the stop before. -/
def stops (width increment : Nat) (e : Commitment α) : Nat → Nat × Option Policy
  | 0 => (e.deliveryTime, e.policy)
  | j + 1 =>
    let s := stops width increment e j
    goOn increment s.2 ⟨e.id, s.1, s.1, some (e.supply.rest.length - (j + 1) * width)⟩

def stop (width increment : Nat) (e : Commitment α) (j : Nat) : Nat := (stops width increment e j).1

/-- How many drains a commitment takes: one for each slice, and one if it has no items. -/
def drainCount (width : Nat) (e : Commitment α) : Nat :=
  max 1 ((e.supply.rest.length + width - 1) / width)

def lastStop (width increment : Nat) (e : Commitment α) : Nat :=
  stop width increment e (drainCount width e - 1)

theorem stop_lt_succ (width increment : Nat) (e : Commitment α) (j : Nat) :
    stop width increment e j < stop width increment e (j + 1) := by
  have hnext := lt_goOn increment (stops width increment e j).2
    ⟨e.id, stop width increment e j, stop width increment e j,
      some (e.supply.rest.length - (j + 1) * width)⟩
  exact hnext

theorem stop_strictMono (width increment : Nat) (e : Commitment α) :
    StrictMono (stop width increment e) :=
  strictMono_nat_of_lt_succ (stop_lt_succ width increment e)

theorem stop_le_lastStop {width j : Nat} {e : Commitment α} (h : j < drainCount width e)
    (increment : Nat) : stop width increment e j ≤ lastStop width increment e :=
  (stop_strictMono width increment e).monotone (Nat.le_sub_one_of_lt h)

/-- A drain is the last one exactly if it exhausts the items. -/
theorem lt_drainCount_iff {width : Nat} (h : 0 < width) (e : Commitment α) (j : Nat) :
    j + 1 < drainCount width e ↔ (j + 1) * width < e.supply.rest.length := by
  have hdiv : j + 2 ≤ (e.supply.rest.length + width - 1) / width ↔
      (j + 2) * width ≤ e.supply.rest.length + width - 1 := Nat.le_div_iff_mul_le h
  have hmul : (j + 2) * width = (j + 1) * width + width := Nat.succ_mul (j + 1) width
  have hpos : 0 < (j + 1) * width := Nat.mul_pos (Nat.succ_pos j) h
  unfold drainCount
  omega

/-! ## Even stops -/

/-- The step between two stops, where the policy does not look at the rollover. -/
def pace (increment : Nat) : Option Policy → Option Nat
  | none => some increment
  | some (.every step) => some (max step 1)
  | some (.custom _ _) => none

theorem goOn_eq_of_pace {increment step : Nat} {policy : Option Policy}
    (h : pace increment policy = some step) (r : Rollover) :
    goOn increment policy r = (max (Index.add r.position step) (r.position + 1), policy) := by
  match policy, h with
  | none, h =>
    cases h
    rfl
  | some (.every _), h =>
    cases h
    rfl

theorem goOn_of_pace {increment step : Nat} {policy : Option Policy}
    (h : pace increment policy = some step) (hpos : 0 < step) {r : Rollover}
    (hlast : r.position + step ≤ Index.last) :
    goOn increment policy r = (r.position + step, policy) := by
  have hmax : max (r.position + step) (r.position + 1) = r.position + step := by omega
  rw [goOn_eq_of_pace h, Index.add_eq_of_le hlast, hmax]

/-- Without a policy, and under one that keeps a step, the stops are that step apart. -/
theorem stops_of_pace {width increment step : Nat} {e : Commitment α}
    (h : pace increment e.policy = some step) (hpos : 0 < step) {j : Nat}
    (hlast : stop width increment e j < Index.last) :
    stops width increment e j = (e.deliveryTime + j * step, e.policy) := by
  induction j with
  | zero => rw [Nat.zero_mul, Nat.add_zero, stops]
  | succ j ih =>
    have hbefore := ih (Nat.lt_trans (stop_lt_succ width increment e j) hlast)
    rw [stop, stops, hbefore, goOn_eq_of_pace h] at hlast
    have hroom := Index.le_last_of_add_lt (Nat.lt_of_le_of_lt (Nat.le_max_left _ _) hlast)
    rw [stops, hbefore, Nat.succ_mul j step, ← Nat.add_assoc]
    exact goOn_of_pace h hpos hroom

theorem stop_of_pace {width increment step : Nat} {e : Commitment α}
    (h : pace increment e.policy = some step) (hincrement : 0 < increment)
    (hlast : lastStop width increment e < Index.last) {j : Nat} (hj : j < drainCount width e) :
    stop width increment e j = e.deliveryTime + j * step := by
  have hpos : 0 < step := by
    match hpolicy : e.policy, h with
    | none, h =>
      cases h
      exact hincrement
    | some (.every n), h =>
      cases h
      exact Nat.lt_of_lt_of_le Nat.one_pos (Nat.le_max_right n 1)
  have hstop := Nat.lt_of_le_of_lt (stop_le_lastStop hj increment) hlast
  exact congrArg Prod.fst (stops_of_pace h hpos hstop)

/-! ## On the way -/

/-- A commitment that stands at its stop `j`. -/
structure Standing (width increment : Nat) (e : Commitment α) (j : Nat) (c : Commitment α) :
    Prop where
  mark : c.mark = e.mark
  id : c.id = e.id
  deliveryTime : c.deliveryTime = stop width increment e j
  policy : c.policy = (stops width increment e j).2
  sound : c.supply.Sound
  rest : c.supply.rest = e.supply.rest.drop (j * width)

/-- At its stop a commitment hands out the slice of that stop. -/
theorem Standing.draw_value {width increment j : Nat} {e c : Commitment α}
    (h : Standing width increment e j c) :
    (c.draw width).value = (e.supply.rest.drop (j * width)).take width := by
  rw [← h.rest]
  exact Supply.take_value h.sound width

theorem Standing.isExhausted_iff {width increment j : Nat} {e c : Commitment α}
    (h : Standing width increment e j c) :
    (c.drawn width).supply.isExhausted = true ↔ e.supply.rest.length ≤ (j + 1) * width := by
  have hall := Supply.take_isExhausted h.sound width
  rw [h.rest, List.drop_drop, List.drop_eq_nil_iff, ← Nat.succ_mul] at hall
  exact hall

/-- After a drain at its stop a commitment goes on to its next stop. -/
theorem Standing.onward {width increment j : Nat} {e c c' : Commitment α}
    (h : Standing width increment e j c) (hlast : stop width increment e j < Index.last)
    (hid : e.id ≠ none)
    (hc' : ((c.drawn width).onward (stop width increment e j) increment).Identified c') :
    Standing width increment e (j + 1) c' := by
  have hremaining : (c.drawn width).supply.remaining =
      some (e.supply.rest.length - (j + 1) * width) := by
    have hleft := Supply.take_remaining h.sound width
    rw [h.rest, List.drop_drop, List.length_drop, ← Nat.succ_mul] at hleft
    exact hleft
  have hpolicy : (c.drawn width).policy = (stops width increment e j).2 := h.policy
  have hdrawn : (c.drawn width).id = e.id := h.id
  have htime : (c.drawn width).deliveryTime = stop width increment e j := h.deliveryTime
  have hnext := onward_goOn hlast increment (c.drawn width)
  rw [hremaining, hpolicy, hdrawn, htime] at hnext
  have hgoods := goods_onward (stop width increment e j) increment (c.drawn width)
  obtain ⟨bucket, policy, heq⟩ := onward_eq (stop width increment e j) increment (c.drawn width)
  obtain ⟨id, rfl, hsame⟩ := hc'
  have hsupply : ((c.drawn width).onward (stop width increment e j) increment).supply =
      (c.supply.take width).state := congrArg Prod.snd hgoods
  refine ⟨(congrArg Prod.fst hgoods).trans h.mark, ?_, congrArg Prod.fst hnext,
    congrArg Prod.snd hnext, ?_, ?_⟩
  · rw [heq] at hsame
    have hid' := hsame.resolve_left fun hnone => hid (h.id.symm.trans hnone)
    exact hid'.trans h.id
  · show ((c.drawn width).onward _ _).supply.Sound
    rw [hsupply]
    exact Supply.take_sound h.sound width
  · show ((c.drawn width).onward _ _).supply.rest = _
    rw [hsupply, Supply.take_rest h.sound, h.rest, List.drop_drop, Nat.succ_mul]

end BucketClock.Commitment
