import BucketClock.Store.Outage

/-!
Properties of outages that no call takes away. A save that fails may lose the
commitments of the bucket it was handed; `Outage.KeepsEvents` says that this
never happens, whatever calls came before. With `Outage.WithoutEffect` no
failing call changes anything, and with `Outage.Removes` removals succeed. A
list of planned failures has such a property as soon as each failure in it fits
(`keepsEvents_plan`, `withoutEffect_plan`, `removes_plan`).
-/

namespace BucketClock

namespace Outage

variable {φ : Type} [Outage φ]

/-- A source of failures once it was asked about a series of calls. -/
def after (o : φ) (calls : List StoreCall) : φ := calls.foldl (fun o c => (meet o c).2) o

/-- Whatever calls came before, a failing save leaves the commitments in the bucket it was
handed. -/
def KeepsEvents (o : φ) : Prop :=
  ∀ calls id f, (meet (after o calls) (.save id)).1 = some f → f.effect ≠ .emptied

theorem KeepsEvents.meet {o : φ} (h : KeepsEvents o) (c : StoreCall) :
    KeepsEvents (Outage.meet o c).2 :=
  fun calls id f hf => h (c :: calls) id f hf

theorem keepsEvents_unit : KeepsEvents () := by
  intro calls id f hf
  cases hf

/-- Whatever calls came before, a call that fails changes nothing. -/
def WithoutEffect (o : φ) : Prop :=
  ∀ calls c f, (meet (after o calls) c).1 = some f → f.effect = .none

theorem withoutEffect_unit : WithoutEffect () := by
  intro calls c f hf
  cases hf

theorem WithoutEffect.keepsEvents {o : φ} (h : WithoutEffect o) : KeepsEvents o := by
  intro calls id f hf heffect
  rw [h calls _ f hf] at heffect
  cases heffect

def Removes (o : φ) : Prop := ∀ calls id, (meet (after o calls) (.remove id)).1 = none

/-- The second source of failures is the first one once it was asked about some calls. -/
def Asked (o o' : φ) : Prop := ∃ calls, o' = after o calls

theorem Asked.refl (o : φ) : Asked o o := ⟨[], rfl⟩

theorem asked_meet (o : φ) (c : StoreCall) : Asked o (meet o c).2 := ⟨[c], rfl⟩

theorem after_append (o : φ) (calls calls' : List StoreCall) :
    after o (calls ++ calls') = after (after o calls) calls' :=
  List.foldl_append

theorem Asked.trans {o o' o'' : φ} (h : Asked o o') (h' : Asked o' o'') : Asked o o'' := by
  obtain ⟨calls, rfl⟩ := h
  obtain ⟨calls', rfl⟩ := h'
  exact ⟨calls ++ calls', (after_append o calls calls').symm⟩

theorem KeepsEvents.asked {o o' : φ} (h : KeepsEvents o) (ho : Asked o o') : KeepsEvents o' := by
  obtain ⟨calls, rfl⟩ := ho
  intro calls' id f hf
  rw [← after_append] at hf
  exact h _ id f hf

theorem WithoutEffect.asked {o o' : φ} (h : WithoutEffect o) (ho : Asked o o') :
    WithoutEffect o' := by
  obtain ⟨calls, rfl⟩ := ho
  intro calls' c f hf
  rw [← after_append] at hf
  exact h _ c f hf

theorem Removes.asked {o o' : φ} (h : Removes o) (ho : Asked o o') : Removes o' := by
  obtain ⟨calls, rfl⟩ := ho
  intro calls' id
  rw [← after_append]
  exact h _ id

end Outage

/-! ## Planned failures -/

theorem meetPlan_failure {ps : List PlannedFailure} {c : StoreCall} {f : Failure}
    (h : (meetPlan ps c).1 = some f) : ∃ p ∈ ps, p.failure = f := by
  induction ps with
  | nil => cases h
  | cons p ps ih =>
    simp only [meetPlan] at h
    split at h
    · split at h
      · exact ⟨p, List.mem_cons_self, Option.some.inj h⟩
      · obtain ⟨q, hq, hf⟩ := ih h
        exact ⟨q, List.mem_cons_of_mem _ hq, hf⟩
    · obtain ⟨q, hq, hf⟩ := ih h
      exact ⟨q, List.mem_cons_of_mem _ hq, hf⟩

theorem meetPlan_failures (ps : List PlannedFailure) (c : StoreCall) :
    (meetPlan ps c).2.map (·.failure) = ps.map (·.failure) := by
  induction ps with
  | nil => rfl
  | cons p ps ih =>
    simp only [meetPlan]
    split
    · split
      · rfl
      · simp [ih]
    · simp [ih]

theorem after_failures (ps : List PlannedFailure) (calls : List StoreCall) :
    (Outage.after ps calls).map (·.failure) = ps.map (·.failure) := by
  induction calls generalizing ps with
  | nil => rfl
  | cons c calls ih => exact (ih _).trans (meetPlan_failures ps c)

/-- However far a plan has run, its failures are the planned ones. -/
theorem planned {ps : List PlannedFailure} {calls : List StoreCall} {c : StoreCall} {f : Failure}
    (h : (Outage.meet (Outage.after ps calls) c).1 = some f) : ∃ p ∈ ps, p.failure = f := by
  obtain ⟨q, hq, rfl⟩ := meetPlan_failure h
  have hmem : q.failure ∈ ps.map (·.failure) := by
    rw [← after_failures ps calls]
    exact List.mem_map_of_mem hq
  exact List.mem_map.mp hmem

theorem keepsEvents_plan {ps : List PlannedFailure} (h : ∀ p ∈ ps, p.failure.effect ≠ .emptied) :
    Outage.KeepsEvents ps := by
  intro calls id f hf
  obtain ⟨p, hp, rfl⟩ := planned hf
  exact h p hp

theorem withoutEffect_plan {ps : List PlannedFailure} (h : ∀ p ∈ ps, p.failure.effect = .none) :
    Outage.WithoutEffect ps := by
  intro calls c f hf
  obtain ⟨p, hp, rfl⟩ := planned hf
  exact h p hp

/-- A planned failure with nothing left to fail stays so. -/
theorem meetPlan_spent {k : CallKind} {ps : List PlannedFailure}
    (h : ∀ p ∈ ps, p.kind = k → p.count = 0) (c : StoreCall) :
    ∀ p ∈ (meetPlan ps c).2, p.kind = k → p.count = 0 := by
  induction ps with
  | nil => exact h
  | cons q ps ih =>
    obtain ⟨hq, hps⟩ := List.forall_mem_cons.mp h
    simp only [meetPlan]
    split
    · split
      · refine List.forall_mem_cons.mpr ⟨?_, hps⟩
        intro hk
        simp [hq hk]
      · exact List.forall_mem_cons.mpr ⟨hq, ih hps⟩
    · exact List.forall_mem_cons.mpr ⟨hq, ih hps⟩

theorem meetPlan_none {ps : List PlannedFailure} {c : StoreCall}
    (h : ∀ p ∈ ps, p.kind = c.kind → p.count = 0) : (meetPlan ps c).1 = none := by
  induction ps with
  | nil => rfl
  | cons q ps ih =>
    obtain ⟨hq, hps⟩ := List.forall_mem_cons.mp h
    have hidle : q.concerns c = false := by
      simp only [PlannedFailure.concerns, Bool.and_eq_false_iff, decide_eq_false_iff_not]
      by_cases hk : q.kind = c.kind
      · simp [hq hk]
      · exact Or.inl (Or.inl hk)
    simp only [meetPlan, hidle, Bool.false_eq_true, if_false]
    exact ih hps

theorem removes_plan {ps : List PlannedFailure}
    (h : ∀ p ∈ ps, p.kind = .remove → p.count = 0) : Outage.Removes ps := by
  intro calls id
  induction calls generalizing ps with
  | nil => exact meetPlan_none h
  | cons c calls ih => exact ih (meetPlan_spent h c)

end BucketClock
