import BucketClock.Window

/-!
What taking from a window does. A property that every look-up keeps holds after
a take (`take_invariant`). A window hands out what it has at hand; one with
nothing at hand looks the next index up and stays as it was if that fails. At
the last index it has nothing more to give.
-/

namespace BucketClock.Window

variable {ι σ : Type}

theorem lookUp_invariant {P : σ → Prop} {look : Nat → σ → Outcome σ (Except TrackError ι)}
    (h : ∀ i s, P s → P (look i s).state) (start count : Nat) {s : σ} (hs : P s) :
    P (lookUp look start count s).state := by
  induction count generalizing start s with
  | zero => exact hs
  | succ count ih =>
    simp only [lookUp]
    split
    · exact h start s hs
    · exact ih (start + 1) (h start s hs)

theorem take_invariant {P : σ → Prop} {look : Nat → σ → Outcome σ (Except TrackError ι)}
    (h : ∀ i s, P s → P (look i s).state) (limit : Nat) (w : Window ι) {s : σ} (hs : P s) :
    P (w.take look limit s).state.2 := by
  have hfound := lookUp_invariant h w.size (Index.add w.position limit - w.size) hs
  simp only [take]
  split
  · exact hfound
  · exact hfound

/-- Nothing is at hand in a window at `position`. -/
structure At (position : Nat) (w : Window ι) : Prop where
  size : w.size = position
  position : w.position = position
  items : w.items = []

/-- A look-up that fails is all that a take does. -/
theorem At.take_refused {look : Nat → σ → Outcome σ (Except TrackError ι)} {p : Nat} {w : Window ι}
    (h : w.At p) (hlt : p < Index.last) {s s' : σ} {error : TrackError} {notes : List Note}
    (hlook : look p s = ⟨.error error, s', notes⟩) :
    w.take look 1 s = ⟨.error error, (w, s'), notes⟩ := by
  have hwanted : Index.add p 1 = p + 1 := Index.add_eq_of_le hlt
  simp only [take, h.size, h.position, hwanted, Nat.add_sub_cancel_left, lookUp, hlook]

theorem At.take_error {look : Nat → σ → Outcome σ (Except TrackError ι)} {p : Nat} {w : Window ι}
    (h : w.At p) (hlt : p < Index.last) {s : σ} {error : TrackError}
    (hlook : (look p s).value = .error error) :
    (w.take look 1 s).value = .error error ∧ (w.take look 1 s).state = (w, (look p s).state) := by
  generalize hanswer : look p s = answer at hlook ⊢
  obtain ⟨value, s', notes⟩ := answer
  cases hlook
  rw [h.take_refused hlt hanswer]
  exact ⟨rfl, rfl⟩

/-- A take from a window with nothing at hand hands out what it looks up. -/
theorem At.take_found {p : Nat} {w : Window ι} (h : w.At p) (hlt : p < Index.last)
    (look : Nat → σ → Outcome σ (Except TrackError ι)) {s : σ} {x : ι}
    (hlook : (look p s).value = .ok x) :
    w.take look 1 s = ⟨.ok [x], (⟨p + 1, p + 1, [], .exhausted⟩, (look p s).state),
      (look p s).notes ++ [.logged (.windowGrown p 1)]⟩ := by
  have hwanted : Index.add p 1 = p + 1 := Index.add_eq_of_le hlt
  simp [take, h.size, h.position, h.items, hwanted, lookUp, hlook, Except.map]

theorem At.take_ok {look : Nat → σ → Outcome σ (Except TrackError ι)} {p : Nat} {w : Window ι}
    (h : w.At p) (hlt : p < Index.last) {s : σ} {x : ι} (hlook : (look p s).value = .ok x) :
    (w.take look 1 s).value = .ok [x] ∧
      ∃ w', (w.take look 1 s).state = (w', (look p s).state) ∧ w'.At (p + 1) := by
  have hwanted : Index.add p 1 = p + 1 := Index.add_eq_of_le hlt
  simp only [take, h.size, h.position, h.items, hwanted, Nat.add_sub_cancel_left, lookUp, hlook,
    Except.map, Nat.min_self, List.nil_append]
  refine ⟨by simp, _, rfl, ⟨rfl, rfl, ?_⟩⟩
  simp

/-- The given items are at hand in a window at `position`. -/
structure AtHand (xs : List ι) (position : Nat) (w : Window ι) : Prop where
  size : w.size = position + xs.length
  position : w.position = position
  items : w.items = xs

theorem AtHand.at {p : Nat} {w : Window ι} (h : w.AtHand [] p) : w.At p :=
  ⟨h.size, h.position, h.items⟩

theorem At.atHand {p : Nat} {w : Window ι} (h : w.At p) : w.AtHand [] p :=
  ⟨h.size, h.position, h.items⟩

/-- What is at hand is handed out without a look-up. -/
theorem AtHand.take_cons {x : ι} {rest : List ι} {p : Nat} {w : Window ι}
    (h : w.AtHand (x :: rest) p) (hlt : p < Index.last)
    (look : Nat → σ → Outcome σ (Except TrackError ι)) (s : σ) :
    (w.take look 1 s).value = .ok [x] ∧
      ∃ w', (w.take look 1 s).state = (w', s) ∧ w'.AtHand rest (p + 1) := by
  have hwanted : Index.add p 1 = p + 1 := Index.add_eq_of_le hlt
  have hsize : w.size = p + 1 + rest.length := by
    rw [h.size, List.length_cons, Nat.add_right_comm, Nat.add_assoc]
  have hoverflow : p + 1 - w.size = 0 := by omega
  have hstop : min (p + 1) w.size = p + 1 := by omega
  simp only [take, h.position, h.items, hwanted, hoverflow, lookUp, Nat.add_zero, hstop,
    Nat.add_sub_cancel_left, List.append_nil, List.take_succ_cons, List.take_zero,
    List.drop_succ_cons, List.drop_zero]
  exact ⟨trivial, _, rfl, ⟨hsize, rfl, rfl⟩⟩

/-- At the last index nothing is handed out, whatever is at hand. -/
theorem AtHand.take_last {xs : List ι} {w : Window ι} (h : w.AtHand xs Index.last)
    (look : Nat → σ → Outcome σ (Except TrackError ι)) (s : σ) :
    (w.take look 1 s).value = .ok [] ∧
      ∃ w', (w.take look 1 s).state = (w', s) ∧ w'.AtHand xs Index.last := by
  have hwanted : Index.add Index.last 1 = Index.last := Index.next_last
  have hsize := h.size
  have hoverflow : Index.last - w.size = 0 := by omega
  have hstop : min Index.last w.size = Index.last := by omega
  simp only [take, h.position, h.items, hwanted, hoverflow, lookUp, Nat.add_zero, hstop,
    Nat.sub_self, List.append_nil, List.take_zero, List.drop_zero]
  exact ⟨trivial, _, rfl, ⟨hsize, rfl, rfl⟩⟩

theorem At.take_last {w : Window ι} (h : w.At Index.last)
    (look : Nat → σ → Outcome σ (Except TrackError ι)) (s : σ) :
    (w.take look 1 s).value = .ok [] ∧
      ∃ w', (w.take look 1 s).state = (w', s) ∧ w'.At Index.last := by
  obtain ⟨hvalue, w', hstate, hw'⟩ := h.atHand.take_last look s
  exact ⟨hvalue, w', hstate, hw'.at⟩

/-- A window with nothing at hand at the last index does not look anything up. -/
theorem At.take_nothing {w : Window ι} (h : w.At Index.last)
    (look : Nat → σ → Outcome σ (Except TrackError ι)) (s : σ) :
    w.take look 1 s = ⟨.ok [], (⟨Index.last, Index.last, [], .exhausted⟩, s), []⟩ := by
  have hwanted : Index.add Index.last 1 = Index.last := Index.next_last
  simp [take, h.size, h.position, h.items, hwanted, lookUp]

end BucketClock.Window
