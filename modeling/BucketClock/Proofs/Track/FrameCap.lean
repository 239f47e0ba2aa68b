import BucketClock.Proofs.Track.Drive

/-!
A cap on the frames of a drive. It cuts the drive and does nothing else. A drive
that stops before its cap, or fails, is the drive without a cap
(`driveFrom_below`); one that makes as many frames as it may is the front of it,
and a drive without a cap from where it stopped is the remainder
(`driveFrom_onward`). The reports of the two parts add up, since what a drive
does never depends on the report it started with (`driveFrom_plus`).

What the handler is told is seen through a handler that keeps a record of it
next to the state of the given one (`Handler.recorded`).
-/

namespace BucketClock

namespace DriveReport

def plus (r r' : DriveReport) : DriveReport where
  frames := r.frames + r'.frames
  delivered := r.delivered + r'.delivered
  failed := r.failed + r'.failed

theorem plus_empty (r : DriveReport) : r.plus {} = r := rfl

theorem plus_adding (r r' : DriveReport) (frames : Nat) (answers : List (Except Incident Unit)) :
    (r.plus r').adding frames answers = r.plus (r'.adding frames answers) := by
  simp only [adding, plus, Nat.add_assoc]

end DriveReport

namespace Handler

variable {α σ : Type}

def recorded (h : Handler σ α) : Handler (σ × List (Nat × α)) α := fun bucket item s =>
  let o := h bucket item s.1
  (o.1, o.2, s.2 ++ [(bucket, item)])

/-- The record changes neither the answers nor the state of the handler. -/
theorem hear_recorded (h : Handler σ α) (xs : List (Nat × α)) (s : σ) (record : List (Nat × α)) :
    h.recorded.hear xs (s, record) =
      ((h.hear xs s).1, (h.hear xs s).2, record ++ xs) := by
  induction xs generalizing s record with
  | nil => simp only [hear, List.append_nil]
  | cons x xs ih =>
    simp only [hear, recorded] at ih ⊢
    rw [ih, List.append_assoc, List.singleton_append]

end Handler

namespace Track

variable {α φ σ : Type} [Outage φ]

/-! ## What a drive does not depend on -/

/-- A drive from a report on adds to it what it would report itself. -/
theorem driveFrom_plus (h : Handler σ α) (base r : DriveReport) (t : Track α φ) (s : σ) :
    (t.driveFrom h none (base.plus r) s).value = (t.driveFrom h none r s).value.map base.plus ∧
      (t.driveFrom h none (base.plus r) s).state = (t.driveFrom h none r s).state := by
  fun_induction driveFrom h none r t s with
  | case1 r t s _ hcap => cases hcap
  | case2 r t s hwork _ e he =>
    rw [driveFrom_error h s hwork rfl he]
    exact ⟨rfl, rfl⟩
  | case3 r t s hwork _ hnone =>
    rw [driveFrom_idle h s hwork rfl hnone]
    exact ⟨rfl, rfl⟩
  | case4 r t s hwork _ frame hframe d ih =>
    rw [driveFrom_frame h s hwork rfl hframe]
    have hd : d.state = _ := DriveReport.dispatchFrame_state h t.position frame r s
    have hd' := DriveReport.dispatchFrame_state h t.position frame (base.plus r) s
    rw [DriveReport.plus_adding] at hd'
    rw [hd] at ih
    simp only [Outcome.after, hd, hd']
    exact ih
  | case5 r t s hdone =>
    rw [driveFrom_done h s (by simpa using hdone)]
    exact ⟨rfl, rfl⟩

def calls (h : Handler σ α) (cap : Option Nat) (t : Track α φ) (s : σ) : List (Nat × α) :=
  (t.drive h.recorded cap (s, [])).state.2.2

/-- A record does not change the drive, and what it holds before the drive is kept. -/
theorem driveFrom_recorded (h : Handler σ α) (cap : Option Nat) (r : DriveReport) (t : Track α φ)
    (s : σ) :
    ∃ told, ∀ record,
      (t.driveFrom h.recorded cap r (s, record)).value = (t.driveFrom h cap r s).value ∧
      (t.driveFrom h.recorded cap r (s, record)).state =
        ((t.driveFrom h cap r s).state.1, (t.driveFrom h cap r s).state.2, record ++ told) := by
  fun_induction driveFrom h cap r t s with
  | case1 r t s hwork hcap =>
    refine ⟨[], fun record => ?_⟩
    rw [driveFrom, if_pos hwork, if_pos hcap, List.append_nil]
    exact ⟨rfl, rfl⟩
  | case2 r t s hwork hcap e he =>
    refine ⟨[], fun record => ?_⟩
    rw [driveFrom_error h.recorded _ hwork (by simpa using hcap) he, List.append_nil]
    exact ⟨rfl, rfl⟩
  | case3 r t s hwork hcap hnone =>
    refine ⟨[], fun record => ?_⟩
    rw [driveFrom_idle h.recorded _ hwork (by simpa using hcap) hnone, List.append_nil]
    exact ⟨rfl, rfl⟩
  | case4 r t s hwork hcap frame hframe d ih =>
    obtain ⟨told, htold⟩ := ih
    refine ⟨frame.map (t.position, ·) ++ told, fun record => ?_⟩
    have hd : d.state = _ := DriveReport.dispatchFrame_state h t.position frame r s
    have hd' := DriveReport.dispatchFrame_state h.recorded t.position frame r (s, record)
    rw [Handler.hear_recorded] at hd'
    rw [hd] at htold
    rw [driveFrom_frame h.recorded _ hwork (by simpa using hcap) hframe, ← List.append_assoc]
    simp only [Outcome.after, hd, hd']
    exact htold _
  | case5 r t s hdone =>
    refine ⟨[], fun record => ?_⟩
    rw [driveFrom_done h.recorded _ (by simpa using hdone), List.append_nil]
    exact ⟨rfl, rfl⟩

theorem drive_recorded (h : Handler σ α) (cap : Option Nat) (t : Track α φ) (s : σ)
    (record : List (Nat × α)) :
    (t.drive h.recorded cap (s, record)).value = (t.drive h cap s).value ∧
      (t.drive h.recorded cap (s, record)).state =
        ((t.drive h cap s).state.1, (t.drive h cap s).state.2, record ++ calls h cap t s) := by
  obtain ⟨told, htold⟩ := driveFrom_recorded h cap {} t s
  have hcalls : calls h cap t s = told := congrArg (·.2.2) (htold []).2
  rw [hcalls]
  exact htold record

/-! ## Frames -/

theorem nextFrame_counts (t : Track α φ) :
    t.nextFrame.state.counters.frames = t.counters.frames + (t.frames .tick).length :=
  congrArg Prod.fst (nextFrame_output t)

/-- The track counts the frames of a drive, the report has as many, and a cap bounds them whether
the drive ends in a report or fails. -/
theorem driveFrom_counts (h : Handler σ α) (cap : Option Nat) (r : DriveReport) (t : Track α φ)
    (s : σ) :
    ∃ n, (t.driveFrom h cap r s).state.1.counters.frames = t.counters.frames + n ∧
      (∀ r', (t.driveFrom h cap r s).value = .ok r' → r'.frames = r.frames + n) ∧
      ∀ k, cap = some k → r.frames ≤ k → r.frames + n ≤ k := by
  fun_induction driveFrom h cap r t s with
  | case1 r t s _ _ =>
    refine ⟨0, rfl, ?_, fun _ _ hr => hr⟩
    rintro r' ⟨⟩
    rfl
  | case2 r t s _ _ e he =>
    have hcounts := t.nextFrame_counts
    simp only [frames, he, List.length_nil] at hcounts
    refine ⟨0, hcounts, ?_, fun _ _ hr => hr⟩
    intro r' hr'
    cases hr'
  | case3 r t s _ _ hnone =>
    have hcounts := t.nextFrame_counts
    simp only [frames, hnone, List.length_nil] at hcounts
    refine ⟨0, hcounts, ?_, fun _ _ hr => hr⟩
    rintro r' ⟨⟩
    rfl
  | case4 r t s _ hcap frame hframe d ih =>
    obtain ⟨n, hn, hreport, hbound⟩ := ih
    have hcounts := t.nextFrame_counts
    simp only [frames, hframe, List.length_singleton] at hcounts
    have hd : d.state.1.frames = r.frames + 1 := by
      rw [DriveReport.dispatchFrame_state h t.position frame r s]
      rfl
    rw [hd] at hreport hbound
    refine ⟨n + 1, by simp only [Outcome.after]; omega, ?_, ?_⟩
    · intro r' hr'
      rw [hreport r' hr']
      omega
    · rintro k rfl _
      have hbelow : r.frames < k := by simpa [DriveReport.atCap] using hcap
      have hle := hbound k rfl hbelow
      omega
  | case5 r t s _ =>
    refine ⟨0, rfl, ?_, fun _ _ hr => hr⟩
    rintro r' ⟨⟩
    rfl

/-! ## Cutting a drive -/

/-- A drive that fails or stops before its cap would have been the same without the cap. -/
theorem driveFrom_below (h : Handler σ α) (k : Nat) (r : DriveReport) (t : Track α φ) (s : σ)
    (hbelow : ∀ r', (t.driveFrom h (some k) r s).value = .ok r' → r'.frames < k) :
    t.driveFrom h none r s = t.driveFrom h (some k) r s := by
  fun_induction driveFrom h (some k) r t s with
  | case1 r t s _ hcap =>
    have hlt : r.frames < k := hbelow r rfl
    simp only [DriveReport.atCap, Option.any_some, decide_eq_true_eq] at hcap
    omega
  | case2 r t s hwork _ e he => rw [driveFrom_error h s hwork rfl he]
  | case3 r t s hwork _ hnone => rw [driveFrom_idle h s hwork rfl hnone]
  | case4 r t s hwork _ frame hframe d ih =>
    rw [driveFrom_frame h s hwork rfl hframe]
    exact congrArg (Outcome.after _) (ih hbelow)
  | case5 r t s hdone => rw [driveFrom_done h s (by simpa using hdone)]

/-- A drive that makes as many frames as it may is the front of the drive without a cap. -/
theorem driveFrom_onward (h : Handler σ α) (k : Nat) (r : DriveReport) (t : Track α φ) (s : σ)
    (r' : DriveReport) (hvalue : (t.driveFrom h (some k) r s).value = .ok r')
    (hfull : r'.frames = k) :
    let x := (t.driveFrom h (some k) r s).state
    (t.driveFrom h none r s).value = (x.1.driveFrom h none r' x.2).value ∧
      (t.driveFrom h none r s).state = (x.1.driveFrom h none r' x.2).state := by
  fun_induction driveFrom h (some k) r t s with
  | case1 r t s _ _ =>
    cases hvalue
    exact ⟨rfl, rfl⟩
  | case2 r t s _ _ e he => cases hvalue
  | case3 r t s _ hcap hnone =>
    cases hvalue
    simp [DriveReport.atCap, hfull] at hcap
  | case4 r t s hwork _ frame hframe d ih =>
    rw [driveFrom_frame h s hwork rfl hframe]
    exact ih hvalue
  | case5 r t s _ =>
    cases hvalue
    exact ⟨rfl, rfl⟩

/-- What a cap of `k` frames makes of a drive of `t`. -/
structure Cut (h : Handler σ α) (k : Nat) (t : Track α φ) (s : σ) : Prop where
  /-- No more than `k` frames come out. -/
  frames : (t.drive h (some k) s).state.1.counters.frames ≤ t.counters.frames + k
  reported : ∀ r, (t.drive h (some k) s).value = .ok r → r.frames ≤ k ∧
    (t.drive h (some k) s).state.1.counters.frames = t.counters.frames + r.frames
  /-- If it fails or makes fewer frames, the drive without a cap is the same, -/
  below : ((∃ e, (t.drive h (some k) s).value = .error e) ∨
      ∃ r, (t.drive h (some k) s).value = .ok r ∧ r.frames < k) →
    t.drive h none s = t.drive h (some k) s ∧ t.calls h none s = t.calls h (some k) s
  /-- and if not, that drive is this one and another without a cap from where it stopped. -/
  onward : ∀ r, (t.drive h (some k) s).value = .ok r → r.frames = k →
    let x := (t.drive h (some k) s).state
    t.calls h none s = t.calls h (some k) s ++ x.1.calls h none x.2 ∧
      (t.drive h none s).state = (x.1.drive h none x.2).state ∧
      (t.drive h none s).value = (x.1.drive h none x.2).value.map r.plus

/-- A cap only cuts a drive: below it nothing changes, and at it a second drive without a cap makes
up for what was cut off. -/
theorem drive_cut (h : Handler σ α) (k : Nat) (t : Track α φ) (s : σ) : Cut h k t s := by
  obtain ⟨n, hcounts, hreport, hbound⟩ := driveFrom_counts h (some k) {} t s
  have hle := hbound k rfl (Nat.zero_le k)
  rw [Nat.zero_add] at hle
  constructor
  case frames => exact Nat.le_trans (Nat.le_of_eq hcounts) (Nat.add_le_add_left hle _)
  case reported =>
    intro r hvalue
    have hframes : r.frames = n := (hreport r hvalue).trans (Nat.zero_add n)
    rw [hframes]
    exact ⟨hle, hcounts⟩
  case below =>
    intro hend
    have hbelow : ∀ r, (t.drive h (some k) s).value = .ok r → r.frames < k := by
      intro r hr
      rcases hend with ⟨e, he⟩ | ⟨r', hr', hlt⟩
      · rw [he] at hr
        cases hr
      · rw [hr'] at hr
        cases hr
        exact hlt
    have hrecord : t.drive h.recorded none (s, []) = t.drive h.recorded (some k) (s, []) := by
      apply driveFrom_below
      intro r hr
      exact hbelow r ((drive_recorded h (some k) t s []).1.symm.trans hr)
    exact ⟨driveFrom_below h k {} t s hbelow, congrArg (·.state.2.2) hrecord⟩
  case onward =>
    intro r hvalue hfull x
    obtain ⟨honward, hstate⟩ := driveFrom_onward h k {} t s r hvalue hfull
    obtain ⟨hplus, hplus'⟩ := driveFrom_plus h r {} x.1 x.2
    rw [DriveReport.plus_empty] at hplus hplus'
    refine ⟨?_, hstate.trans hplus', honward.trans hplus⟩
    -- the same cut, seen with the record that the first part leaves to the second
    obtain ⟨hrecvalue, hrecstate⟩ := drive_recorded h (some k) t s []
    obtain ⟨_, hrec⟩ :=
      driveFrom_onward h.recorded k {} t (s, []) r (hrecvalue.trans hvalue) hfull
    change _ = (driveFrom h.recorded none r (t.drive h.recorded (some k) (s, [])).state.1
      (t.drive h.recorded (some k) (s, [])).state.2).state at hrec
    have hsecond := (driveFrom_plus h.recorded r {} x.1 (x.2, t.calls h (some k) s)).2
    rw [DriveReport.plus_empty] at hsecond
    rw [hrecstate, List.nil_append, hsecond] at hrec
    have hlast := (drive_recorded h none x.1 x.2 (t.calls h (some k) s)).2
    rw [show t.calls h none s = (t.drive h.recorded none (s, [])).state.2.2 from rfl]
    exact congrArg (·.2.2) (hrec.trans hlast)

/-- Two frames are left to drive: bucket 1, whose rollover the store refuses, and bucket 2. A cap of
one frame stops after the first, and the drive from there makes the second. -/
theorem drive_cut_troubled :
    let t := troubled.run (requests.take 3)
    let x := (t.drive fussy (some 1) []).state
    t.calls fussy (some 1) [] = [(1, 1), (1, 3)] ∧ x.1.calls fussy none x.2 = [(2, 2)] ∧
      (t.drive fussy (some 1) []).value.toOption = some ⟨1, 2, 0⟩ ∧
      (t.drive fussy none []).value.toOption = some ⟨2, 2, 1⟩ ∧ Cut fussy 1 t [] :=
  ⟨by decide +kernel, by decide +kernel, by decide +kernel, by decide +kernel,
    drive_cut fussy 1 (troubled.run (requests.take 3)) []⟩

end Track
end BucketClock
