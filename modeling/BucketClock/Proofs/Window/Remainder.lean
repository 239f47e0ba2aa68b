import BucketClock.Proofs.Timeline

/-!
What a window has at hand between two takes: the given items that were not
handed out yet and nothing else. An index beyond them is looked up by the take
that hands its item out, so it is never at hand, and a bucket that is drained is
looked up when its turn comes.

Main statement: `remainder`.
-/

namespace BucketClock.Window

variable {σ ι : Type} {src : Source σ ι} {initial : List ι} {w : Window ι}

/-! ## Phases -/

def Succeeded (src : Source σ ι) (w : Window ι) : List (Call σ) → Prop
  | [] => False
  | c :: cs =>
    (∃ taken, (w.take src.look c.limit c.repository).value = .ok taken) ∨
      Succeeded src (after src w c) cs

/-- The phase of a window over `initial`, of which a take was successful or not. -/
structure Phased (initial : List ι) (succeeded : Prop) (w : Window ι) : Prop where
  full : w.phase = .full ↔ 0 < initial.length ∧ ¬ succeeded
  exhausted : w.phase ≠ .full → (w.phase = .exhausted ↔ w.position = w.size)
  notEmpty : w.phase ≠ .full → (w.phase = .notEmpty ↔ w.position < w.size)

theorem ofList_phased (initial : List ι) : (ofList initial).Phased initial False := by
  cases initial with
  | nil => exact ⟨by simp [ofList], by simp [ofList], by simp [ofList]⟩
  | cons x xs => exact ⟨by simp [ofList], by simp [ofList], by simp [ofList]⟩

theorem phase_of_take {look : Nat → σ → Outcome σ (Except TrackError ι)} {limit : Nat} {s : σ}
    {taken : List ι} (h : (w.take look limit s).value = .ok taken) :
    let w' := (w.take look limit s).state.1
    w'.phase = if w'.position = w'.size then .exhausted else .notEmpty := by
  cases hfound : (lookUp look w.size (Index.add w.position limit - w.size) s).value with
  | error e => simp [take, hfound] at h
  | ok found => simp only [take, hfound]

/-- A successful take ends the first phase for good. -/
theorem Phased.after {succeeded : Prop} (h : w.Phased initial succeeded) (hover : w.Over initial)
    (c : Call σ) :
    (Window.after src w c).Phased initial
      (succeeded ∨ ∃ taken, (w.take src.look c.limit c.repository).value = .ok taken) := by
  have hsize := (hover.after src c).size
  unfold Window.after at hsize ⊢
  cases hvalue : (w.take src.look c.limit c.repository).value with
  | error e =>
    rw [(hover.take_error hvalue).1]
    simpa using h
  | ok taken =>
    have hphase := phase_of_take hvalue
    simp only at hphase
    split at hphase
    · next hend => exact ⟨by simp [hphase], by simp [hphase, hend], by simp [hphase, hend]⟩
    · next hmore =>
      have hlt : (w.take src.look c.limit c.repository).state.1.position <
          (w.take src.look c.limit c.repository).state.1.size := by omega
      exact ⟨by simp [hphase], by simp [hphase, hmore], by simp [hphase, hlt]⟩

theorem Phased.run {succeeded : Prop} (h : w.Phased initial succeeded) (hover : w.Over initial)
    (calls : List (Call σ)) :
    (Window.run src w calls).Phased initial (succeeded ∨ Succeeded src w calls) := by
  induction calls generalizing w succeeded with
  | nil => simpa [Succeeded, Window.run] using h
  | cons c calls ih =>
    have hnext := ih (h.after hover c) (hover.after src c)
    rw [or_assoc] at hnext
    exact hnext

/-! ## What is left -/

theorem Over.after_le (h : w.Over initial) (c : Call σ) :
    w.position ≤ (Window.after src w c).position := by
  unfold Window.after
  cases hvalue : (w.take src.look c.limit c.repository).value with
  | error e => exact Nat.le_of_eq (congrArg position (h.take_error hvalue).1).symm
  | ok taken =>
    obtain ⟨_, answers, hhanded⟩ := h.take_ok hvalue
    rw [hhanded.position, ← hhanded.length]
    exact Nat.le_add_right _ _

theorem Over.run_le (h : w.Over initial) (calls : List (Call σ)) :
    w.position ≤ (Window.run src w calls).position := by
  induction calls generalizing w with
  | nil => exact Nat.le_refl _
  | cons c calls ih => exact Nat.le_trans (h.after_le c) (ih (h.after src c))

theorem Handed.rest {limit : Nat} {s : σ} {o : Outcome (Window ι × σ) (Except TrackError (List ι))}
    {taken : List ι} {answers : List (Nat × ι)}
    (h : Handed src initial w limit s o taken answers) :
    taken.take (initial.length - w.position) ++ initial.drop (w.position + taken.length) =
      initial.drop w.position := by
  have hfront : taken.take (initial.length - w.position) =
      (initial.drop w.position).take taken.length := by
    apply List.ext_getElem?
    intro k
    by_cases hk : k < taken.length ∧ w.position + k < initial.length
    · rw [List.getElem?_take_of_lt (by omega), List.getElem?_take_of_lt hk.1, List.getElem?_drop]
      exact h.given hk.1 hk.2
    · rw [List.getElem?_eq_none, List.getElem?_eq_none]
      · rw [List.length_take, List.length_drop]
        omega
      · rw [List.length_take]
        omega
  rw [hfront, ← List.drop_drop, List.take_append_drop]

/-- What a run hands out of the given items, and what it leaves of them. -/
theorem Over.run_rest (h : w.Over initial) (calls : List (Call σ)) :
    ((handed src w calls).map (·.2)).take (initial.length - w.position) ++
      (Window.run src w calls).items = w.items := by
  induction calls generalizing w with
  | nil => simp [handed, Window.run]
  | cons c calls ih =>
    have hnext := ih (h.after src c)
    have hrun : Window.run src w (c :: calls) = Window.run src (Window.after src w c) calls := rfl
    rw [handed, List.map_append, hrun]
    cases hvalue : (w.take src.look c.limit c.repository).value with
    | error e =>
      have hsame : Window.after src w c = w := (h.take_error hvalue).1
      rw [hsame] at hnext ⊢
      exact hnext
    | ok taken =>
      obtain ⟨_, answers, hhanded⟩ := h.take_ok hvalue
      have hposition : (Window.after src w c).position = w.position + taken.length :=
        hhanded.position.trans hhanded.length.symm
      simp only
      rw [List.map_snd_zip (by simp), List.take_append, List.append_assoc,
        Nat.sub_sub, ← hposition, hnext, (h.after src c).items, hposition, hhanded.rest, h.items]

/-- After any run over given items, whatever the takes asked for and whether they succeeded: the
window reaches as far as the given items or the position, whichever is further; it has at hand
the given items that were not handed out, none of an index beyond them, and nothing at all once
all of those are handed out. It is full as long as there are given items and no take succeeded,
then exhausted where the position is the end and not empty before it. Neither the position nor
the size ever goes back. -/
theorem remainder (src : Source σ ι) (initial : List ι) (calls later : List (Call σ)) :
    let w := run src (ofList initial) calls
    let w' := run src (ofList initial) (calls ++ later)
    w.size = max initial.length w.position ∧
    w.items = initial.drop w.position ∧
    ((handed src (ofList initial) calls).map (·.2)).take initial.length ++ w.items = initial ∧
    (∀ k < w.items.length, w.position + k < initial.length) ∧
    (initial.length ≤ w.position → w.items = []) ∧
    w.items.length = w.size - w.position ∧
    w.Phased initial (Succeeded src (ofList initial) calls) ∧
    w.position ≤ w'.position ∧ w.size ≤ w'.size := by
  intro w w'
  have hstart := ofList_over initial
  have hover : w.Over initial := hstart.run calls
  have hover' : w'.Over initial := hstart.run (calls ++ later)
  have hsize := hover.size
  have hsize' := hover'.size
  have hlength : w.items.length = initial.length - w.position := by
    rw [hover.items, List.length_drop]
  have hposition : w.position ≤ w'.position := by
    have hlater : w' = run src w later := run_append src (ofList initial) calls later
    rw [hlater]
    exact hover.run_le later
  refine ⟨by omega, hover.items, hstart.run_rest calls, fun k hk => by omega, ?_, by omega, ?_,
    hposition, by omega⟩
  · intro hbeyond
    rw [hover.items, List.drop_eq_nil_iff]
    exact hbeyond
  · simpa using (ofList_phased initial).run hstart calls

/-- Takes of nothing, of two items, and of three of which the last cannot be looked up. -/
def mixedCalls : List (Call (Store Nat (List PlannedFailure))) :=
  [⟨0, holding 10 []⟩, ⟨2, holding 10 []⟩,
    ⟨3, holding 10 [{ kind := .get, id := some 4, failure := ⟨.told .backend "lost", .none⟩ }]⟩]

/-- One of three given slots is left, and bucket 3 was looked up but is not at hand. A take of
three then reaches beyond the given slots and leaves nothing. -/
theorem remainder_mixed :
    let src := Store.source Bucket.empty
    let w := run src (ofList [5, 6, 7]) mixedCalls
    let w' := run src (ofList [5, 6, 7]) (mixedCalls ++ [⟨3, holding 11 []⟩])
    w.position = 2 ∧ w.size = 3 ∧ w.items = [7] ∧ w.phase = .notEmpty ∧
      w'.position = 5 ∧ w'.size = 5 ∧ w'.items = [] ∧ w'.phase = .exhausted := by
  intro src w w'
  have hposition : w.position = 2 := by decide +kernel
  have hposition' : w'.position = 5 := by decide +kernel
  obtain ⟨hsize, hitems, _, _, _, _, hphased, _⟩ := remainder src [5, 6, 7] mixedCalls []
  obtain ⟨hsize', _, _, _, hnone', _, hphased', _⟩ :=
    remainder src [5, 6, 7] (mixedCalls ++ [⟨3, holding 11 []⟩]) []
  change w.size = max 3 w.position at hsize
  change w'.size = max 3 w'.position at hsize'
  change w.items = [5, 6, 7].drop w.position at hitems
  change 3 ≤ w'.position → w'.items = [] at hnone'
  rw [hposition] at hsize hitems
  rw [hposition'] at hsize' hnone'
  have hbegun : w.phase ≠ .full := by decide +kernel
  have hbegun' : w'.phase ≠ .full := by decide +kernel
  refine ⟨hposition, hsize, hitems, (hphased.notEmpty hbegun).mpr ?_, hposition', hsize',
    hnone' (by decide), (hphased'.exhausted hbegun').mpr (hposition'.trans hsize'.symm)⟩
  change w.position < w.size
  omega

end BucketClock.Window
