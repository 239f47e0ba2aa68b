import BucketClock.Supply

/-!
The law of supplies. `Supply.rest` is what a supply can still hand out, whether
its items are at hand or still to be brought. A draw hands out the front of it
and leaves the remainder (`take_value`, `take_rest`), and a supply that was
drawn from is exhausted when nothing is left (`take_isExhausted`). This holds of
every supply that can be made and drawn from (`Reached`), by way of the
invariant `Sound`.
-/

namespace BucketClock.Supply

variable {α : Type}

/-- The items a supply can still hand out. -/
def rest (s : Supply α) : List α :=
  match s.supplier with
  | some items => items.take (s.size.getD items.length)
  | none => s.buffer

/-- The supplies a caller can come by: newly made ones, whose sizes are indices, and what
draws leave of them. -/
inductive Reached : Supply α → Prop
  | ofList (items : List α) (h : items.length ≤ Index.last) : Reached (.ofList items)
  | lazy (size : Nat) (items : List α) (h : size ≤ Index.last) : Reached (.lazy size items)
  | deferred (items : List α) (h : items.length ≤ Index.last) : Reached (.deferred items)
  | take {s : Supply α} (limit : Nat) (h : Reached s) : Reached (s.take limit).state

/-! ## The invariant -/

/-- The buffer holds what lies between the position and the size, and nothing is to be brought. -/
structure Opened (s : Supply α) : Prop where
  size : s.size = some (s.position + s.buffer.length)
  le_last : s.position + s.buffer.length ≤ Index.last
  brought : s.supplier = none ∨ s.size = some 0
  exhausted : s.phase = .exhausted → s.buffer = []

theorem Opened.rest {s : Supply α} (h : s.Opened) : s.rest = s.buffer := by
  have hsize := h.size
  cases hs : s.supplier with
  | none => simp [Supply.rest, hs]
  | some items =>
    rcases h.brought with hnone | hzero
    · rw [hnone] at hs
      cases hs
    · rw [hzero] at hsize
      have hlength : s.buffer.length = 0 := by
        simp only [Option.some.injEq] at hsize
        omega
      simp [Supply.rest, hs, hzero, List.length_eq_zero_iff.mp hlength]

/-- Nobody drew from a full supply; any other is open, and exhausted once its buffer is empty. -/
structure Sound (s : Supply α) : Prop where
  untouched : s.phase = .full → s.position = 0 ∧ s.rest.length ≤ Index.last ∧
    (s.supplier = none → s.size = some s.buffer.length)
  opened : s.phase ≠ .full → s.Opened ∧ (s.buffer = [] → s.phase = .exhausted)

theorem materialize_opened {s : Supply α} (h : s.Sound) (hfull : s.phase = .full) :
    s.materialize.state.Opened ∧ s.materialize.state.rest = s.rest := by
  obtain ⟨hposition, hlast, hsize⟩ := h.untouched hfull
  cases hs : s.supplier with
  | none =>
    have hrest : s.rest = s.buffer := by simp [rest, hs]
    rw [hrest] at hlast
    simp only [materialize, hs]
    refine ⟨⟨?_, ?_, ?_, ?_⟩, ?_⟩
    · simp [hsize hs, hposition]
    · simpa [hposition] using hlast
    · exact Or.inl rfl
    · intro h; cases h
    · simp [rest, hs]
  | some items =>
    have hrest : s.rest = items.take (s.size.getD items.length) := by simp [rest, hs]
    rw [hrest] at hlast
    simp only [List.length_take] at hlast
    simp only [materialize, hs]
    refine ⟨⟨?_, ?_, Or.inl rfl, ?_⟩, ?_⟩
    · simp [hposition]
    · simpa [hposition] using hlast
    · intro h; cases h
    · simp [rest, hs, List.take_eq_take_iff]

/-- The supply once its supplier ran, if it had to. -/
def brought (s : Supply α) : Supply α :=
  (if s.phase = .full then s.materialize else ⟨(), s, []⟩).state

theorem brought_opened {s : Supply α} (h : s.Sound) :
    s.brought.Opened ∧ s.brought.rest = s.rest := by
  unfold brought
  split
  · next hfull => exact materialize_opened h hfull
  · next hfull => exact ⟨(h.opened hfull).1, rfl⟩

/-! ## Drawing -/

/-- In an open supply a draw is a plain `take` and `drop` on the buffer. -/
theorem take_of_opened (s : Supply α) (limit : Nat) (h : s.brought.Opened) :
    (s.take limit).value = s.brought.buffer.take limit ∧
      (s.take limit).state = { s.brought with
        position := s.brought.position + min limit s.brought.buffer.length
        buffer := s.brought.buffer.drop limit
        phase := if s.brought.buffer.drop limit = [] then .exhausted else s.brought.phase } := by
  have hlast := h.le_last
  have hstop : min (Index.add s.brought.position limit)
      (s.brought.position + s.brought.buffer.length) =
      s.brought.position + min limit s.brought.buffer.length := by
    simp only [Index.add]
    omega
  have hvalue : (s.take limit).value = s.brought.buffer.take
      (min (Index.add s.brought.position limit) (s.brought.size.getD 0) - s.brought.position) := rfl
  have hstate : (s.take limit).state = { s.brought with
      position := min (Index.add s.brought.position limit) (s.brought.size.getD 0)
      buffer := s.brought.buffer.drop
        (min (Index.add s.brought.position limit) (s.brought.size.getD 0) - s.brought.position)
      phase := if min (Index.add s.brought.position limit) (s.brought.size.getD 0) ≥
        s.brought.size.getD 0 then .exhausted else s.brought.phase } := rfl
  rw [hvalue, hstate, h.size, Option.getD_some, hstop, Nat.add_sub_cancel_left]
  have hdrop : s.brought.buffer.drop (min limit s.brought.buffer.length) =
      s.brought.buffer.drop limit := by
    rcases Nat.le_total limit s.brought.buffer.length with hle | hle
    · rw [Nat.min_eq_left hle]
    · rw [Nat.min_eq_right hle, List.drop_length, List.drop_of_length_le hle]
  constructor
  · rw [List.take_eq_take_min]
    simp
  · rw [hdrop]
    have hiff : s.brought.position + min limit s.brought.buffer.length ≥
        s.brought.position + s.brought.buffer.length ↔ s.brought.buffer.drop limit = [] := by
      rw [List.drop_eq_nil_iff]
      omega
    simp only [hiff]

/-- A draw hands out the front of the rest. -/
theorem take_value {s : Supply α} (h : s.Sound) (limit : Nat) :
    (s.take limit).value = s.rest.take limit := by
  obtain ⟨hopened, hrest⟩ := brought_opened h
  rw [(take_of_opened s limit hopened).1, ← hrest, hopened.rest]

theorem take_opened {s : Supply α} (h : s.Sound) (limit : Nat) : (s.take limit).state.Opened := by
  obtain ⟨hopened, _⟩ := brought_opened h
  have hsize := hopened.size
  have hlast := hopened.le_last
  rw [(take_of_opened s limit hopened).2]
  refine ⟨?_, ?_, hopened.brought, ?_⟩
  · simp only [hsize, List.length_drop, Option.some.injEq]
    omega
  · simp only [List.length_drop]
    omega
  · intro hphase
    simp only at hphase ⊢
    split at hphase
    · assumption
    · simp [hopened.exhausted hphase]

/-- A draw leaves what it does not hand out. -/
theorem take_rest {s : Supply α} (h : s.Sound) (limit : Nat) :
    (s.take limit).state.rest = s.rest.drop limit := by
  obtain ⟨hopened, hrest⟩ := brought_opened h
  rw [(take_opened h limit).rest, ← hrest, hopened.rest, (take_of_opened s limit hopened).2]

theorem brought_phase (s : Supply α) : s.brought.phase ≠ .full := by
  unfold brought
  split
  · unfold materialize
    split <;> simp
  · assumption

/-- The first draw ends the full phase. -/
theorem take_phase (s : Supply α) (limit : Nat) : (s.take limit).state.phase ≠ .full := by
  have hphase := brought_phase s
  have htake : (s.take limit).state.phase =
      if min (Index.add s.brought.position limit) (s.brought.size.getD 0) ≥ s.brought.size.getD 0
      then .exhausted else s.brought.phase := rfl
  rw [htake]
  split
  · simp
  · exact hphase

theorem take_sound {s : Supply α} (h : s.Sound) (limit : Nat) : (s.take limit).state.Sound := by
  obtain ⟨hopened, _⟩ := brought_opened h
  have hopened' := take_opened h limit
  have hphase := brought_phase s
  rw [(take_of_opened s limit hopened).2] at hopened' ⊢
  constructor
  · intro hfull
    simp only at hfull
    split at hfull
    · cases hfull
    · exact absurd hfull hphase
  · intro _
    exact ⟨hopened', fun hempty => if_pos hempty⟩

/-- A supply that was drawn from is exhausted when nothing of it is left. -/
theorem take_isExhausted {s : Supply α} (h : s.Sound) (limit : Nat) :
    (s.take limit).state.isExhausted = true ↔ s.rest.drop limit = [] := by
  obtain ⟨hopened, _⟩ := brought_opened h
  have hopened' := take_opened h limit
  rw [← take_rest h limit, hopened'.rest, isExhausted, decide_eq_true_iff]
  constructor
  · exact hopened'.exhausted
  · rw [(take_of_opened s limit hopened).2]
    exact fun hempty => if_pos hempty

/-- How many items are left is known from the first draw on. -/
theorem take_remaining {s : Supply α} (h : s.Sound) (limit : Nat) :
    (s.take limit).state.remaining = some (s.rest.drop limit).length := by
  have hopened := take_opened h limit
  rw [← take_rest h limit, hopened.rest, remaining, hopened.size]
  simp

/-! ## Every supply is sound -/

theorem fresh_sound {size : Option Nat} {buffer : List α} {supplier : Option (List α)}
    (hlast : (fresh size buffer supplier).rest.length ≤ Index.last)
    (hsize : supplier = none → size = some buffer.length)
    (hbuffer : supplier ≠ none → buffer = []) : (fresh size buffer supplier).Sound := by
  constructor
  · intro _
    exact ⟨rfl, hlast, hsize⟩
  · intro hphase
    have hzero : size = some 0 := Decidable.byContradiction fun hne => hphase (if_neg hne)
    have hempty : buffer = [] := by
      cases supplier with
      | none =>
        have hlength := hsize rfl
        rw [hzero] at hlength
        exact List.length_eq_zero_iff.mp (Option.some.inj hlength).symm
      | some items => exact hbuffer (by simp)
    refine ⟨⟨?_, ?_, Or.inr hzero, ?_⟩, ?_⟩
    · simp [fresh, hzero, hempty]
    · simp [fresh, hempty]
    · intro _
      exact hempty
    · intro _
      exact if_pos hzero

theorem Reached.sound {s : Supply α} (h : s.Reached) : s.Sound := by
  induction h with
  | ofList items h =>
    apply fresh_sound
    · simpa [rest, fresh] using h
    · simp
    · simp
  | lazy size items h =>
    apply fresh_sound
    · simp only [rest, fresh, Option.getD_some, List.length_take]
      omega
    · simp
    · simp
  | deferred items h =>
    apply fresh_sound
    · simpa [rest, fresh] using h
    · simp
    · simp
  | take limit _ ih => exact take_sound ih limit

end BucketClock.Supply
