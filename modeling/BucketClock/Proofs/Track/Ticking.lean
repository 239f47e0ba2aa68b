import BucketClock.Proofs.Track.FrameCap

/-!
The ticking loop against the direct loop. They are written apart, and notice the
end of a run in their own ways: the direct loop says that its cap is reached or
that nothing is pending, the ticking loop says neither. All else is the same.
With the same cap they make the same ticks, hand the same items to the handler,
give the same answer and leave the same track, store and handler behind, whether
they end in a report or in an error (`run_matches_drive`).
-/

namespace BucketClock

namespace Note

def ofLoop : Note → Bool
  | .logged (.capReached ..) => true
  | .logged (.nothingPending ..) => true
  | .logged (.finished ..) => true
  | _ => false

def beneath (notes : List Note) : List Note := notes.filter (!·.ofLoop)

@[simp] theorem beneath_append (notes notes' : List Note) :
    beneath (notes ++ notes') = beneath notes ++ beneath notes' := List.filter_append _ _

end Note

namespace Outcome

variable {σ β : Type}

/-- The two end the same way: same answer, same state, and the same notes but for what loops say of
themselves. -/
structure Matches (o o' : Outcome σ β) : Prop where
  value : o.value = o'.value
  state : o.state = o'.state
  beneath : Note.beneath o.notes = Note.beneath o'.notes

theorem Matches.refl (o : Outcome σ β) : o.Matches o := ⟨rfl, rfl, rfl⟩

theorem Matches.after {o o' : Outcome σ β} (h : o.Matches o') (notes : List Note) :
    (o.after notes).Matches (o'.after notes) := by
  refine ⟨h.value, h.state, ?_⟩
  simp only [Outcome.after, Note.beneath_append, h.beneath]

end Outcome

namespace Track

variable {α φ σ : Type}

/-- The last word of a loop is the only thing in which two loops that stop at once differ, when the
notes before it are the same beneath the loops. -/
theorem finish_matches (r : DriveReport) (t : Track α φ) (s : σ) {notes notes' : List Note}
    (h : Note.beneath notes = Note.beneath notes') :
    (t.finish .ticking r s notes).Matches (t.finish .direct r s notes') := by
  refine ⟨rfl, rfl, ?_⟩
  simp only [finish, Note.beneath_append, h]
  rfl

end Track

namespace Ticker

open Track (troubled requests fussy)

variable {α φ σ : Type} [Outage φ]

/-! ## One round of the loop -/

section

variable {t : Track α φ} {r : DriveReport} {k : Ticker} (h : Handler σ α) (s : σ)

theorem runFrom_done (hdone : t.hasWork = false) :
    k.runFrom h r t s = t.finish .ticking r s [] := by
  rw [runFrom, if_neg (by simp [hdone])]

theorem runFrom_capped (hcap : r.atCap k.cap = true) :
    k.runFrom h r t s = t.finish .ticking r s [] := by
  rw [runFrom, if_pos hcap, ite_self]

theorem runFrom_error (hwork : t.hasWork = true) (hcap : r.atCap k.cap = false) {e : TrackError}
    (hvalue : t.nextFrame.value = .error e) :
    k.runFrom h r t s = ⟨.error e, (t.nextFrame.state, s), t.nextFrame.notes⟩ := by
  rw [runFrom, if_pos hwork, if_neg (by simp [hcap])]
  split
  · next e' he' =>
    rw [hvalue] at he'
    cases he'
    rfl
  · next hnone =>
    rw [hvalue] at hnone
    cases hnone
  · next frame hframe =>
    rw [hvalue] at hframe
    cases hframe

theorem runFrom_idle (hwork : t.hasWork = true) (hcap : r.atCap k.cap = false)
    (hvalue : t.nextFrame.value = .ok none) :
    k.runFrom h r t s = t.nextFrame.state.finish .ticking r s t.nextFrame.notes := by
  rw [runFrom, if_pos hwork, if_neg (by simp [hcap])]
  split
  · next e he =>
    rw [hvalue] at he
    cases he
  · rfl
  · next frame hframe =>
    rw [hvalue] at hframe
    cases hframe

theorem runFrom_frame (hwork : t.hasWork = true) (hcap : r.atCap k.cap = false) {frame : List α}
    (hvalue : t.nextFrame.value = .ok (some frame)) :
    k.runFrom h r t s =
      let d := r.dispatchFrame h t.position frame s
      (k.runFrom h d.state.1 t.nextFrame.state d.state.2).after (t.nextFrame.notes ++ d.notes) := by
  rw [runFrom, if_pos hwork, if_neg (by simp [hcap])]
  split
  · next e he =>
    rw [hvalue] at he
    cases he
  · next hnone =>
    rw [hvalue] at hnone
    cases hnone
  · next frame' hframe =>
    rw [hvalue] at hframe
    cases hframe
    rfl

end

/-! ## The two loops -/

/-- From any report on, the ticking loop ends as the direct loop with its cap does. -/
theorem runFrom_matches (k : Ticker) (h : Handler σ α) (r : DriveReport) (t : Track α φ) (s : σ) :
    (k.runFrom h r t s).Matches (t.driveFrom h k.cap r s) := by
  fun_induction Track.driveFrom h k.cap r t s with
  | case1 r t s _ hcap =>
    rw [runFrom_capped h s hcap]
    exact Track.finish_matches r t s rfl
  | case2 r t s hwork hcap e he =>
    rw [runFrom_error h s hwork (by simpa using hcap) he]
    exact .refl _
  | case3 r t s hwork hcap hnone =>
    rw [runFrom_idle h s hwork (by simpa using hcap) hnone]
    apply Track.finish_matches
    rw [Note.beneath_append]
    exact (List.append_nil _).symm
  | case4 r t s hwork hcap frame hframe d ih =>
    rw [runFrom_frame h s hwork (by simpa using hcap) hframe]
    exact ih.after _
  | case5 r t s hdone =>
    rw [runFrom_done h s (by simpa using hdone)]
    exact Track.finish_matches r t s rfl

def calls (k : Ticker) (h : Handler σ α) (t : Track α φ) (s : σ) : List (Nat × α) :=
  (k.run h.recorded t (s, [])).elim [] (·.state.2.2)

theorem run_of_period {k : Ticker} (hperiod : k.period ≠ 0) (h : Handler σ α) (t : Track α φ)
    (s : σ) : k.run h t s = some (k.runFrom h {} t s) := if_neg hperiod

/-- A run of a ticker is a drive with its cap: the handler is told the same items in the same order
and from the same buckets, the answer is the same report or the same error, and the track, its
store and the handler are left the same. The logs differ in nothing but what a loop says of
itself. -/
theorem run_matches_drive (k : Ticker) (hperiod : k.period ≠ 0) (h : Handler σ α) (t : Track α φ)
    (s : σ) :
    ∃ o, k.run h t s = some o ∧ o.Matches (t.drive h k.cap s) ∧
      k.calls h t s = t.calls h k.cap s := by
  refine ⟨k.runFrom h {} t s, run_of_period hperiod h t s, runFrom_matches k h {} t s, ?_⟩
  rw [calls, run_of_period hperiod, Option.elim_some,
    (runFrom_matches k h.recorded {} t (s, [])).state]
  rfl

/-- Under a cap of one frame a ticker hands out the first of two frames, whose rollover the store
refuses. -/
theorem run_matches_drive_troubled :
    let k : Ticker := ⟨5, some 1⟩
    let t := troubled.run (requests.take 3)
    k.period ≠ 0 ∧ k.calls fussy t [] = [(1, 1), (1, 3)] ∧
      (t.drive fussy (some 1) []).value.toOption = some ⟨1, 2, 0⟩ ∧
      ∃ o, k.run fussy t [] = some o ∧ o.Matches (t.drive fussy (some 1) []) ∧
        k.calls fussy t [] = t.calls fussy (some 1) [] := by
  intro k t
  have hperiod : k.period ≠ 0 := by decide
  exact ⟨hperiod, by decide +kernel, by decide +kernel,
    run_matches_drive k hperiod fussy t []⟩

end Ticker
end BucketClock
