import BucketClock.Proofs.Supply.Draws

/-!
The life of a supply. It is full until the first draw, unless it is known to
hold nothing; a draw leaves it not empty or exhausted, and exhausted it stays
(`Phase.Moves`). Once its items are at hand (`Materialized`) its size is fixed
and the buffer holds what lies between the position and the size, so a draw
never reaches behind the buffer, and no difference of the two is cut off at 0.
`recipe_lives` says this of every supply, however it was made and drawn from.
-/

namespace BucketClock

inductive Phase.Moves : Phase → Phase → Prop
  | opened : Moves .full .notEmpty
  | skipped : Moves .full .exhausted
  | kept : Moves .notEmpty .notEmpty
  | ended : Moves .notEmpty .exhausted
  | over : Moves .exhausted .exhausted

namespace Supply

variable {α : Type}

/-- Its items are at hand: it was drawn from or never needed a supplier. -/
def Materialized (s : Supply α) : Prop := s.phase ≠ .full ∨ s.supplier = none

/-! ## What soundness says of the phases -/

/-- The buffer of a supply whose items are at hand ends at its size. -/
theorem Sound.size {s : Supply α} (h : s.Sound) (hm : s.Materialized) :
    s.size = some (s.position + s.buffer.length) := by
  by_cases hfull : s.phase = .full
  · obtain ⟨hposition, _, hsize⟩ := h.untouched hfull
    have hnone : s.supplier = none := hm.resolve_left (not_not_intro hfull)
    rw [hsize hnone, hposition, Nat.zero_add]
  · exact (h.opened hfull).1.size

theorem Sound.position_le {s : Supply α} (h : s.Sound) {size : Nat} (hsize : s.size = some size) :
    s.position ≤ size := by
  by_cases hfull : s.phase = .full
  · rw [(h.untouched hfull).1]
    exact Nat.zero_le _
  · have hopened := (h.opened hfull).1.size
    rw [hsize] at hopened
    cases hopened
    exact Nat.le_add_right _ _

theorem Sound.rest {s : Supply α} (h : s.Sound) (hm : s.Materialized) : s.rest = s.buffer := by
  by_cases hfull : s.phase = .full
  · have hnone : s.supplier = none := hm.resolve_left (not_not_intro hfull)
    simp only [Supply.rest, hnone]
  · exact (h.opened hfull).1.rest

/-- A supply that was drawn from is exhausted when its position is its size. -/
theorem Sound.exhausted_iff {s : Supply α} (h : s.Sound) (hdrawn : s.phase ≠ .full) :
    s.phase = .exhausted ↔ s.size = some s.position := by
  obtain ⟨hopened, hend⟩ := h.opened hdrawn
  have hsize := hopened.size
  constructor
  · intro hphase
    rw [hsize, hopened.exhausted hphase, List.length_nil, Nat.add_zero]
  · intro hposition
    rw [hposition, Option.some.injEq] at hsize
    exact hend (List.length_eq_zero_iff.mp (by omega))

/-- Nothing changes about an exhausted supply. -/
theorem Sound.take_exhausted {s : Supply α} (h : s.Sound) (hphase : s.phase = .exhausted)
    (limit : Nat) : (s.take limit).state = s := by
  have hdrawn : s.phase ≠ .full := by simp [hphase]
  have hbuffer := (h.opened hdrawn).1.exhausted hphase
  rw [(take_of_opened s limit (brought_opened h).1).2, brought_of_drawn hdrawn]
  obtain ⟨size, position, buffer, supplier, phase⟩ := s
  simp only at hbuffer hphase
  simp [hbuffer, hphase]

theorem Sound.moves {s : Supply α} (h : s.Sound) (limit : Nat) :
    s.phase.Moves (s.take limit).state.phase := by
  have hdrawn := s.take_phase limit
  cases hphase : s.phase with
  | full =>
    cases hafter : (s.take limit).state.phase with
    | full => exact absurd hafter hdrawn
    | notEmpty => exact .opened
    | exhausted => exact .skipped
  | notEmpty =>
    cases hafter : (s.take limit).state.phase with
    | full => exact absurd hafter hdrawn
    | notEmpty => exact .kept
    | exhausted => exact .ended
  | exhausted =>
    rw [h.take_exhausted hphase limit, hphase]
    exact .over

/-- A draw that has no supplier to run keeps the size. -/
theorem Sound.take_size {s : Supply α} (h : s.Sound) (hm : s.Materialized) (limit : Nat) :
    (s.take limit).state.size = s.size := by
  rw [(take_of_opened s limit (brought_opened h).1).2]
  show s.brought.size = s.size
  unfold brought
  split
  · next hfull =>
    have hnone : s.supplier = none := hm.resolve_left (not_not_intro hfull)
    simp only [materialize, hnone]
  · rfl

/-! ## Along a run -/

theorem draws_exhausted {s : Supply α} (h : s.Sound) (hphase : s.phase = .exhausted)
    (limits : List Nat) : (s.draws limits).state = s := by
  induction limits with
  | nil => rfl
  | cons limit limits ih =>
    simp only [draws]
    rw [h.take_exhausted hphase limit, ih]

theorem draws_size {s : Supply α} (h : s.Sound) (hm : s.Materialized) (limits : List Nat) :
    (s.draws limits).state.size = s.size ∧ (s.draws limits).state.Materialized := by
  induction limits generalizing s with
  | nil => exact ⟨rfl, hm⟩
  | cons limit limits ih =>
    obtain ⟨hsize, hkept⟩ := ih (take_sound h limit) (Or.inl (s.take_phase limit))
    exact ⟨hsize.trans (h.take_size hm limit), hkept⟩

theorem draws_phase (s : Supply α) {limits : List Nat} (hlimits : limits ≠ []) :
    (s.draws limits).state.phase ≠ .full := by
  induction limits generalizing s with
  | nil => exact absurd rfl hlimits
  | cons limit limits ih =>
    cases limits with
    | nil => exact s.take_phase limit
    | cons limit' limits => exact ih (s.take limit).state (List.cons_ne_nil _ _)

/-- The full phase is that of a supply nobody drew from, unless it is known to hold nothing. -/
theorem Recipe.draws_full (o : Recipe α) (limits : List Nat) :
    (o.supply.draws limits).state.phase = .full ↔ limits = [] ∧ o.declared ≠ some 0 := by
  by_cases hlimits : limits = []
  · subst hlimits
    simp only [draws, supply_phase]
    split
    · next hempty => simp [hempty]
    · next hempty => simp [hempty]
  · simp only [hlimits, false_and, iff_false]
    exact o.supply.draws_phase hlimits

/-- Before its supplier ran a supply has no items at hand. -/
theorem Recipe.buffer_of_supplier {o : Recipe α} (h : o.supply.supplier ≠ none) :
    o.supply.buffer = [] := by
  cases o with
  | ofList items => exact absurd rfl h
  | single item => exact absurd rfl h
  | lazy size items => rfl
  | deferred items => rfl

/-! ## The lifecycle -/

/-- What `s` is, if it was made as `o` says and drawn from with these limits. -/
structure Lives (o : Recipe α) (limits : List Nat) (s : Supply α) : Prop where
  exhausted : s.phase = .exhausted ↔ s.size = some s.position
  full : s.phase = .full ↔ limits = [] ∧ o.declared ≠ some 0
  moves : ∀ limit, s.phase.Moves (s.take limit).state.phase
  terminal : s.phase = .exhausted → ∀ more, (s.draws more).state = s
  /-- Once its items are at hand the size stays, -/
  fixed : s.Materialized → ∀ more,
    (s.draws more).state.size = s.size ∧ (s.draws more).state.Materialized
  /-- and the buffer holds what lies between the position and the size. -/
  level : s.Materialized → ∃ size, s.size = some size ∧ s.position ≤ size ∧
    s.buffer.length = size - s.position
  /-- A draw stops no earlier than it starts and takes no more than the buffer holds. -/
  bounds : ∀ limit,
    let m := s.brought
    let stop := min (Index.add m.position limit) (m.size.getD 0)
    m.position ≤ stop ∧ stop - m.position ≤ m.buffer.length ∧
      (s.take limit).state.position = stop ∧ (s.take limit).value.length = stop - m.position
  /-- What remains is a true difference. -/
  remaining : ∀ size, s.size = some size → s.position ≤ size
  advances : ∀ more, s.position ≤ (s.draws more).state.position
  /-- The items at hand are what further draws hand out. -/
  snapshot : s.Materialized → ∀ more, (s.draws more).value.flatten = s.buffer.take more.sum
  unopened : ¬ s.Materialized → s.position = 0 ∧ s.buffer = []

/-- Every supply lives as described, however it was made and drawn from. -/
theorem recipe_lives (o : Recipe α) (h : o.InRange) (limits : List Nat) :
    Lives o limits (o.supply.draws limits).state := by
  have hsound := draws_sound (Recipe.sound h) limits
  have hfull := o.draws_full limits
  generalize hs : (o.supply.draws limits).state = s at hsound hfull ⊢
  have hmade : s.phase = .full → s = o.supply := by
    intro hphase
    rw [(hfull.mp hphase).1] at hs
    exact hs.symm
  constructor
  case exhausted =>
    by_cases hphase : s.phase = .full
    · obtain ⟨_, hdeclared⟩ := hfull.mp hphase
      rw [hphase, hmade hphase, o.supply_size, o.supply_position]
      simp [hdeclared]
    · exact hsound.exhausted_iff hphase
  case full => exact hfull
  case moves => exact hsound.moves
  case terminal => exact draws_exhausted hsound
  case fixed => exact draws_size hsound
  case level =>
    intro hm
    exact ⟨_, hsound.size hm, Nat.le_add_right _ _, (Nat.add_sub_cancel_left _ _).symm⟩
  case bounds =>
    intro limit m stop
    have hopened := (brought_opened hsound).1
    have hstop : (s.take limit).state.position = stop := rfl
    have hcount : stop = m.position + min limit m.buffer.length := by
      rw [← hstop, (take_of_opened s limit hopened).2]
    have hvalue : (s.take limit).value.length = min limit m.buffer.length := by
      rw [(take_of_opened s limit hopened).1, List.length_take]
    exact ⟨by omega, by omega, hstop, by omega⟩
  case remaining => exact fun _ hsize => hsound.position_le hsize
  case advances =>
    intro more
    rw [draws_position hsound]
    exact Nat.le_add_right _ _
  case snapshot =>
    intro hm more
    rw [draws_flatten hsound, hsound.rest hm]
  case unopened =>
    intro hm
    obtain ⟨hphase, hsupplier⟩ := not_or.mp hm
    have heq := hmade (not_not.mp hphase)
    rw [heq] at hsupplier ⊢
    exact ⟨o.supply_position, Recipe.buffer_of_supplier hsupplier⟩

/-- A supply that is said to hold three items gets two of them, and a draw of nothing is enough to
find that out. -/
theorem recipe_lives_short :
    let o : Recipe Nat := .lazy 3 [7, 8]
    let s := (o.supply.draws [0]).state
    s.phase = .notEmpty ∧ s.size = some 2 ∧ s.buffer = [7, 8] ∧
      (s.draws [1, 1]).state.phase = .exhausted ∧ Lives o [0] s :=
  ⟨by decide +kernel, by decide +kernel, by decide +kernel, by decide +kernel,
    recipe_lives (.lazy 3 [7, 8]) (show 3 ≤ Index.last by decide) [0]⟩

end Supply
end BucketClock
