import BucketClock.Journal

/-!
What an operation leaves behind: its answer, the state after it, and the notes
it made on the way. An operation reads the state only, so notes never influence
a later step.
-/

namespace BucketClock

structure Outcome (σ β : Type) where
  value : β
  state : σ
  notes : List Note := []

namespace Outcome

variable {σ τ β γ : Type}

/-- Puts earlier notes in front. -/
def after (notes : List Note) (o : Outcome σ β) : Outcome σ β :=
  { o with notes := notes ++ o.notes }

/-- Runs a step on every element in turn. -/
def each (step : γ → σ → Outcome σ Unit) : List γ → σ → Outcome σ Unit
  | [], s => ⟨(), s, []⟩
  | x :: xs, s =>
    let o := step x s
    (each step xs o.state).after o.notes

/-- A property that every step keeps holds after the loop. -/
theorem each_invariant {P : σ → Prop} {step : γ → σ → Outcome σ Unit} {xs : List γ}
    (h : ∀ x ∈ xs, ∀ s, P s → P (step x s).state) {s : σ} (hs : P s) :
    P (each step xs s).state := by
  induction xs generalizing s with
  | nil => exact hs
  | cons x xs ih =>
    apply ih fun y hy => h y (List.mem_cons_of_mem _ hy)
    exact h x List.mem_cons_self s hs

/-- A loop keeps what each of its steps keeps. -/
theorem each_keeps (view : σ → β) {step : γ → σ → Outcome σ Unit}
    (h : ∀ x s, view (step x s).state = view s) (xs : List γ) (s : σ) :
    view (each step xs s).state = view s :=
  each_invariant (P := fun s' => view s' = view s) (fun x _ s' hs' => (h x s').trans hs') rfl

end Outcome
end BucketClock
