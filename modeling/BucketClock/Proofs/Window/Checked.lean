import BucketClock.Proofs.Window

/-!
Takes whose sums are checked. Most sums of indices stop at the last one, but a
window that grows forms its new size as it is, and one that hands items out
forms a difference. `takeChecked` forms the same sums and differences, and gives
up where one is no index; on a window that is kept as it should be it never
gives up and does what `take` does (`Kept.takeChecked_eq`).
-/

namespace BucketClock

namespace Index

def sum? (a b : Nat) : Option Nat := if a + b ≤ last then some (a + b) else none

def diff? (a b : Nat) : Option Nat := if b ≤ a then some (a - b) else none

theorem sum?_eq_some {a b : Nat} (h : a + b ≤ last) : sum? a b = some (a + b) := if_pos h

theorem diff?_eq_some {a b : Nat} (h : b ≤ a) : diff? a b = some (a - b) := if_pos h

end Index

namespace Window

variable {σ ι : Type}

/-! ## Takes with checked sums -/

/-- The items at hand are those from the position on, up to the size, and that is an index. -/
structure Kept (w : Window ι) : Prop where
  position : w.position ≤ w.size
  size : w.size ≤ Index.last
  items : w.items.length = w.size - w.position

/-- How many indices a take looks up. -/
def overflow (limit : Nat) (w : Window ι) : Nat := Index.add w.position limit - w.size

/-- Where a take that finds them stops. -/
def stop (limit : Nat) (w : Window ι) : Nat :=
  min (Index.add w.position limit) (w.size + w.overflow limit)

/-- Hands out the items before index `wanted`, of those at hand now. -/
def handOutChecked (wanted size : Nat) (items : List ι) (w : Window ι) :
    Option (List ι × Window ι) := do
  let stop := min wanted size
  let count ← Index.diff? stop w.position
  if count ≤ items.length then
    some (items.take count,
      ⟨size, stop, items.drop count, if stop = size then .exhausted else .notEmpty⟩)
  else none

/-- A take that gives up where a sum or a difference is no index, or where more items are to be
handed out than are at hand. -/
def takeChecked (look : Nat → σ → Outcome σ (Except TrackError ι)) (limit : Nat) (w : Window ι)
    (s : σ) : Option (Outcome (Window ι × σ) (Except TrackError (List ι))) :=
  let wanted := Index.add w.position limit
  let overflow := wanted - w.size
  if overflow = 0 then do
    let out ← w.handOutChecked wanted w.size w.items
    some ⟨.ok out.1, (out.2, s), []⟩
  else do
    let stop ← Index.sum? w.size overflow
    let grown := lookUp look w.size (stop - w.size) s
    match grown.value with
    | .error e => some ⟨.error e, (w, grown.state), grown.notes⟩
    | .ok found =>
      let size ← Index.sum? w.size overflow
      let out ← w.handOutChecked wanted size (w.items ++ found)
      some ⟨.ok out.1, (out.2, grown.state),
        grown.notes ++ [.logged (.windowGrown w.size overflow)]⟩

theorem lookUp_length {look : Nat → σ → Outcome σ (Except TrackError ι)} (start count : Nat)
    {s : σ} {found : List ι} (h : (lookUp look start count s).value = .ok found) :
    found.length = count := by
  induction count generalizing start s found with
  | zero =>
    cases h
    rfl
  | succ count ih =>
    simp only [lookUp] at h
    split at h
    · cases h
    · next x _ =>
      cases hrest : (lookUp look (start + 1) count (look start s).state).value with
      | error e => simp [hrest, Except.map] at h
      | ok found' =>
        have hfound : x :: found' = found := by simpa [hrest, Except.map] using h
        rw [← hfound, List.length_cons, ih (start + 1) hrest]

/-- A window grows up to where the take is to reach, if it is not that long already. -/
theorem grown_eq (w : Window ι) (limit : Nat) :
    w.size + w.overflow limit = max w.size (min (w.position + limit) Index.last) := by
  simp only [overflow, Index.add]
  omega

theorem Kept.grown_le_last {w : Window ι} (h : w.Kept) (limit : Nat) :
    w.size + w.overflow limit ≤ Index.last := by
  have hsize := h.size
  rw [w.grown_eq]
  omega

theorem stop_eq (w : Window ι) (limit : Nat) :
    w.stop limit = min (w.position + limit) Index.last := by
  rw [stop, w.grown_eq, Index.add]
  omega

theorem Kept.position_le_stop {w : Window ι} (h : w.Kept) (limit : Nat) :
    w.position ≤ w.stop limit := by
  have hposition := h.position
  have hsize := h.size
  rw [w.stop_eq]
  omega

/-- No more is handed out than there is once the window has grown. -/
theorem Kept.count_le {w : Window ι} (h : w.Kept) (limit : Nat) :
    w.stop limit - w.position ≤ w.items.length + w.overflow limit := by
  have hposition := h.position
  have hstop : w.stop limit ≤ w.size + w.overflow limit := Nat.min_le_right _ _
  rw [h.items]
  omega

theorem handOutChecked_eq {w : Window ι} {wanted size : Nat} {items : List ι}
    (hposition : w.position ≤ min wanted size)
    (hcount : min wanted size - w.position ≤ items.length) :
    w.handOutChecked wanted size items =
      some (items.take (min wanted size - w.position),
        ⟨size, min wanted size, items.drop (min wanted size - w.position),
          if min wanted size = size then .exhausted else .notEmpty⟩) := by
  simp only [handOutChecked, Index.diff?_eq_some hposition, Option.bind_eq_bind, Option.bind_some,
    if_pos hcount]

theorem Kept.takeChecked_eq {w : Window ι} (h : w.Kept)
    (look : Nat → σ → Outcome σ (Except TrackError ι)) (limit : Nat) (s : σ) :
    w.takeChecked look limit s = some (w.take look limit s) := by
  have hposition := h.position_le_stop limit
  have hcount := h.count_le limit
  have hsum := Index.sum?_eq_some (h.grown_le_last limit)
  simp only [stop] at hposition hcount
  simp only [overflow] at hposition hcount hsum
  simp only [takeChecked, take]
  by_cases hzero : Index.add w.position limit - w.size = 0
  · rw [hzero, Nat.add_zero] at hposition hcount
    rw [Nat.add_zero] at hcount
    simp only [hzero, ↓reduceIte, handOutChecked_eq hposition hcount, lookUp, Nat.add_zero,
      List.append_nil]
    rfl
  · simp only [hzero, ↓reduceIte, hsum, Option.bind_eq_bind, Option.bind_some,
      Nat.add_sub_cancel_left]
    cases hfound : (lookUp look w.size (Index.add w.position limit - w.size) s).value with
    | error e => rfl
    | ok found =>
      have hitems : (w.items ++ found).length =
          w.items.length + (Index.add w.position limit - w.size) := by
        rw [List.length_append, lookUp_length _ _ hfound]
      rw [← hitems] at hcount
      simp only [handOutChecked_eq hposition hcount, Option.bind_some]

/-- A take that succeeds leaves the window at the index that it stops at. -/
theorem Kept.take_ok {w : Window ι} (h : w.Kept)
    {look : Nat → σ → Outcome σ (Except TrackError ι)} {limit : Nat} {s : σ} {taken : List ι}
    (hok : (w.take look limit s).value = .ok taken) :
    (w.take look limit s).state.1.size = w.size + w.overflow limit ∧
      (w.take look limit s).state.1.position = w.stop limit ∧
      taken.length = w.stop limit - w.position ∧
      (w.take look limit s).state.1.items.length =
        w.size + w.overflow limit - w.stop limit := by
  have hcount := h.count_le limit
  have hposition := h.position_le_stop limit
  have hle := h.position
  have hitems := h.items
  simp only [take] at hok ⊢
  cases hfound : (lookUp look w.size (Index.add w.position limit - w.size) s).value with
  | error e => simp [hfound] at hok
  | ok found =>
    have hlength : found.length = w.overflow limit := lookUp_length _ _ hfound
    simp only [hfound, Except.ok.injEq] at hok ⊢
    change (w.items ++ found).take (w.stop limit - w.position) = taken at hok
    refine ⟨rfl, rfl, ?_, ?_⟩
    · rw [← hok, List.length_take, List.length_append, hlength]
      omega
    · change ((w.items ++ found).drop (w.stop limit - w.position)).length = _
      rw [List.length_drop, List.length_append, hlength]
      omega

theorem take_error {w : Window ι} {look : Nat → σ → Outcome σ (Except TrackError ι)} {limit : Nat}
    {s : σ} {e : TrackError} (herror : (w.take look limit s).value = .error e) :
    (w.take look limit s).state.1 = w := by
  simp only [take] at herror ⊢
  split at herror
  · rfl
  · cases herror

theorem Kept.take {w : Window ι} (h : w.Kept)
    (look : Nat → σ → Outcome σ (Except TrackError ι)) (limit : Nat) (s : σ) :
    (w.take look limit s).state.1.Kept := by
  cases hvalue : (w.take look limit s).value with
  | error e => rwa [take_error hvalue]
  | ok taken =>
    obtain ⟨hsize, hposition, _, hitems⟩ := h.take_ok hvalue
    refine ⟨?_, ?_, ?_⟩
    · rw [hsize, hposition]
      exact Nat.min_le_right _ _
    · rw [hsize]
      exact h.grown_le_last limit
    · rw [hsize, hposition, hitems]

theorem At.kept {p : Nat} {w : Window ι} (h : w.At p) (hlast : p ≤ Index.last) : w.Kept := by
  refine ⟨Nat.le_of_eq (h.position.trans h.size.symm), ?_, ?_⟩
  · rw [h.size]
    exact hlast
  · rw [h.items, h.size, h.position, Nat.sub_self, List.length_nil]

/-! ## The range -/

/-- How far a take reaches, and what it leaves. -/
structure InRange (look : Nat → σ → Outcome σ (Except TrackError ι))
    (limit : Nat) (w : Window ι) (s : σ) : Prop where
  /-- The window grows up to the index to reach, -/
  grown : w.size + w.overflow limit = max w.size (min (w.position + limit) Index.last)
  /-- and that is one. -/
  grown_le : w.size + w.overflow limit ≤ Index.last
  stop : w.stop limit = min (w.position + limit) Index.last
  /-- The difference that tells how much is handed out can be formed, -/
  ahead : w.position ≤ w.stop limit
  /-- and so much is at hand once the window has grown. -/
  enough : w.stop limit - w.position ≤ w.items.length + w.overflow limit
  checked : w.takeChecked look limit s = some (w.take look limit s)
  taken : ∀ items, (w.take look limit s).value = .ok items →
    items.length = w.stop limit - w.position ∧
      (w.take look limit s).state.1.position = w.stop limit ∧
      (w.take look limit s).state.1.size = w.size + w.overflow limit
  kept : (w.take look limit s).state.1.Kept

theorem Kept.range {w : Window ι} (h : w.Kept)
    (look : Nat → σ → Outcome σ (Except TrackError ι)) (limit : Nat) (s : σ) :
    w.InRange look limit s := by
  refine ⟨w.grown_eq limit, h.grown_le_last limit, w.stop_eq limit, h.position_le_stop limit,
    h.count_le limit, h.takeChecked_eq look limit s, ?_, h.take look limit s⟩
  intro items hitems
  obtain ⟨hsize, hposition, hlength, _⟩ := h.take_ok hitems
  exact ⟨hlength, hposition, hsize⟩

end Window
end BucketClock
