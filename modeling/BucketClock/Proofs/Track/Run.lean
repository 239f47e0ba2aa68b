import BucketClock.Proofs.Store.Events
import BucketClock.Proofs.Supply
import BucketClock.Track.Tick

/-!
Runs of a track. A caller schedules commitments and ticks, in any order, and
numbers the commitments it gets accepted. What happens on the way is observed
without a part in it: which commitments were accepted, which commits succeeded
and in what order, which frames were handed out, and which slices of which
commitments a frame is made of.

The wall-clock reading of a track stands still during a run: all that a track
does with it is to copy it into audit entries.
-/

namespace BucketClock

namespace Outcome

variable {σ γ δ ε : Type}

/-- What is seen on the way when a step runs on every element in turn. -/
def trace (step : γ → σ → Outcome σ Unit) (see : γ → σ → List δ) : List γ → σ → List δ
  | [], _ => []
  | x :: xs, s => see x s ++ trace step see xs (step x s).state

/-- A loop adds to a list what its steps add, as long as they keep what they need for that. -/
theorem each_appends_of (view : σ → List δ) {P : σ → Prop} {step : γ → σ → Outcome σ Unit}
    {see : γ → σ → List δ} (hP : ∀ x s, P s → P (step x s).state)
    (h : ∀ x s, P s → view (step x s).state = view s ++ see x s) (xs : List γ) {s : σ}
    (hs : P s) : view (each step xs s).state = view s ++ trace step see xs s := by
  induction xs generalizing s with
  | nil => exact (List.append_nil _).symm
  | cons x xs ih =>
    have hall : view (each step (x :: xs) s).state = view (each step xs (step x s).state).state :=
      rfl
    rw [hall, ih (hP x s hs), h x s hs, trace, List.append_assoc]

theorem each_appends (view : σ → List δ) {step : γ → σ → Outcome σ Unit} {see : γ → σ → List δ}
    (h : ∀ x s, view (step x s).state = view s ++ see x s) (xs : List γ) (s : σ) :
    view (each step xs s).state = view s ++ trace step see xs s :=
  each_appends_of (P := fun _ => True) view (fun _ _ _ => trivial) (fun x s _ => h x s) xs trivial

/-- What a loop enters in an account, entry by entry. -/
theorem each_folds (view : σ → ε) (enter : ε → δ → ε) {step : γ → σ → Outcome σ Unit}
    {see : γ → σ → List δ} (h : ∀ x s, view (step x s).state = (see x s).foldl enter (view s))
    (xs : List γ) (s : σ) :
    view (each step xs s).state = (trace step see xs s).foldl enter (view s) := by
  induction xs generalizing s with
  | nil => rfl
  | cons x xs ih =>
    have hall : view (each step (x :: xs) s).state = view (each step xs (step x s).state).state :=
      rfl
    rw [hall, ih, h, trace, List.foldl_append]

/-- What is seen of a loop in a way that respects concatenation is seen of its steps that way. -/
theorem trace_hom {f : List δ → List ε} (hnil : f [] = [])
    (happend : ∀ l l', f (l ++ l') = f l ++ f l')
    (step : γ → σ → Outcome σ Unit) (see : γ → σ → List δ) (xs : List γ) (s : σ) :
    f (trace step see xs s) = trace step (fun x s => f (see x s)) xs s := by
  induction xs generalizing s with
  | nil => exact hnil
  | cons x xs ih => rw [trace, happend, ih, trace]

/-- What depends on the elements only. -/
theorem trace_flatMap (step : γ → σ → Outcome σ Unit) (see : γ → List δ) (xs : List γ) (s : σ) :
    trace step (fun x _ => see x) xs s = xs.flatMap see := by
  induction xs generalizing s with
  | nil => rfl
  | cons x xs ih => rw [trace, ih, List.flatMap_cons]

end Outcome

namespace Track

variable {α φ δ : Type}

/-- Tracks over an empty store, set up by their owner and not used yet. -/
inductive Opened : Track α φ → Prop
  | ofStore (outage : φ) : Opened (ofStore (.empty outage))
  | withName {t : Track α φ} (name : String) : Opened t → Opened (t.withName name)
  | withFrameWidth {t : Track α φ} (width : Nat) : Opened t → Opened (t.withFrameWidth width)
  | withIncrement {t : Track α φ} (increment : Nat) : Opened t → Opened (t.withIncrement increment)
  | withAudit {t : Track α φ} (trail : AuditTrail) : Opened t → Opened (t.withAudit trail)
  | stamped {t : Track α φ} (stamp : Nat) : Opened t → Opened { t with stamp := stamp }

/-- The commitments in flight: those stored and those held back. -/
def live (t : Track α φ) : List (Commitment α) := t.store.events ++ t.stranded

inductive Request (α : Type) where
  | schedule (e : Commitment α)
  | tick

def Request.Full : Request α → Prop
  | .schedule e => e.phase = .full
  | .tick => True

/-- A commitment to schedule is full, with a supply that a caller can come by. -/
def Request.Fresh : Request α → Prop
  | .schedule e => e.phase = .full ∧ e.supply.Reached
  | .tick => True

theorem Request.Fresh.full {r : Request α} (h : r.Fresh) : r.Full := by
  cases r with
  | schedule e => exact h.1
  | tick => trivial

/-- A commitment under the number it gets if it is accepted. The number is the caller's mark. -/
def numbered (t : Track α φ) (e : Commitment α) : Commitment α :=
  { e with mark := t.counters.scheduled }

variable [Outage φ]

def perform (t : Track α φ) : Request α → Track α φ
  | .schedule e => (t.schedule (t.numbered e)).state
  | .tick => t.nextFrame.state

def run (t : Track α φ) (rs : List (Request α)) : Track α φ := rs.foldl perform t

/-- All that is seen during a run, in order. -/
def history (see : Track α φ → Request α → List δ) (t : Track α φ) : List (Request α) → List δ
  | [] => []
  | r :: rs => see t r ++ history see (t.perform r) rs

/-! ## Observations -/

/-- The commitments accepted, as they were submitted. -/
def accepted (t : Track α φ) : Request α → List (Commitment α)
  | .schedule e =>
    match (t.schedule (t.numbered e)).value with
    | .ok () => [t.numbered e]
    | .error _ => []
  | .tick => []

/-- What a commit of `e` files: the commitment with its identity, or nothing if it fails. -/
def filing (e : Commitment α) (t : Track α φ) : List (Commitment α) :=
  match (t.store.commit t.timeline.factory e).value with
  | .ok id => [{ e with id := id }]
  | .error _ => []

def retryFiling (e : Commitment α) (t : Track α φ) : List (Commitment α) :=
  t.filing (e.caughtUp t.position)

def settleFiling (position : Nat) (e : Commitment α) (t : Track α φ) : List (Commitment α) :=
  if e.supply.isExhausted then [] else t.filing (e.onward position t.increment)

def cleared (t : Track α φ) : Track α φ :=
  (Outcome.each removeBucket t.stale { t with stale := [] }).state

def retryFilings (t : Track α φ) : List (Commitment α) :=
  Outcome.trace retry retryFiling t.cleared.stranded { t.cleared with stranded := [] }

def drainFilings (slot : Slot) (t : Track α φ) : List (Commitment α) :=
  let moved := ((t.store.bucket slot).deliverWith t.frameWidth).state.takeEvents
  Outcome.trace (settle t.position) (settleFiling t.position) moved.1
    { t with store := t.store.update slot moved.2 }

def settleFilings (t : Track α φ) : List (Commitment α) :=
  let retried := t.retryDeferred.state
  if retried.pending = 0 then []
  else
    match retried.takeBucket.value with
    | .error _ => []
    | .ok slot => retried.takeBucket.state.drainFilings slot

/-- The commits that succeed, in order. -/
def filings (t : Track α φ) : Request α → List (Commitment α)
  | .schedule e =>
    if e.phase = .exhausted then [] else t.filing ((t.numbered e).admitted t.position)
  | .tick => t.retryFilings ++ t.settleFilings

theorem filings_schedule (t : Track α φ) {e : Commitment α} (hfull : e.phase = .full) :
    t.filings (.schedule e) = t.filing ((t.numbered e).admitted t.position) := by
  have hne : e.phase ≠ .exhausted := by simp [hfull]
  rw [filings, if_neg hne]

def frames (t : Track α φ) : Request α → List (List α)
  | .schedule _ => []
  | .tick =>
    match t.nextFrame.value with
    | .ok (some frame) => [frame]
    | _ => []

/-- The commitments that a tick draws from, in order. -/
def due (t : Track α φ) : List (Commitment α) := t.retryDeferred.state.store.contents t.position

end Track

/-- A tick that handed out a frame: the bucket it drained, the slices the frame is made of with
the numbers of their commitments, and the numbers of the commitments it retired. -/
structure Drain (α : Type) where
  bucket : Nat
  slices : List (Nat × List α)
  retired : List Nat

namespace Drain

variable {α : Type}

def ofDue (bucket width : Nat) (es : List (Commitment α)) : Drain α where
  bucket := bucket
  slices := es.map fun e => (e.mark, (e.draw width).value)
  retired := (Commitment.spent width es).map (·.mark)

def frame (d : Drain α) : List α := d.slices.flatMap (·.2)

def slicesOf (n : Nat) (d : Drain α) : List (List α) := (d.slices.filter (·.1 = n)).map (·.2)

end Drain

namespace Track

variable {α φ δ : Type} [Outage φ]

/-- The drains of a run; `frames_eq_drains` ties them to the frames handed out. -/
def drains (t : Track α φ) : Request α → List (Drain α)
  | .schedule _ => []
  | .tick =>
    match t.nextFrame.value with
    | .ok (some _) => [.ofDue t.position t.frameWidth t.due]
    | _ => []

theorem run_append (t : Track α φ) (rs rs' : List (Request α)) :
    t.run (rs ++ rs') = (t.run rs).run rs' := by
  simp [run]

theorem history_append (see : Track α φ → Request α → List δ) (t : Track α φ)
    (rs rs' : List (Request α)) :
    t.history see (rs ++ rs') = t.history see rs ++ (t.run rs).history see rs' := by
  induction rs generalizing t with
  | nil => rfl
  | cons r rs ih => simp [history, ih, run]

theorem history_snoc (see : Track α φ → Request α → List δ) (t : Track α φ)
    (rs : List (Request α)) (r : Request α) :
    t.history see (rs ++ [r]) = t.history see rs ++ see (t.run rs) r := by
  rw [history_append]
  simp [history]

theorem run_snoc (t : Track α φ) (rs : List (Request α)) (r : Request α) :
    t.run (rs ++ [r]) = (t.run rs).perform r := by
  rw [run_append]
  rfl

/-! ## A run with failures -/

/-- A track whose store refuses the third save, and makes a removal that it reports as failed. -/
def troubled : Track Nat (List PlannedFailure) :=
  .ofStore (.empty
    [{ kind := .save, skip := 2, failure := ⟨.told .backend "refused", .none⟩ },
     { kind := .remove, failure := ⟨.told .backend "timeout", .applied⟩ }])

theorem troubled_opened : troubled.Opened := .ofStore _

theorem troubled_keepsEvents : Outage.KeepsEvents troubled.store.outage :=
  keepsEvents_plan (by decide)

/-- Two commitments for bucket 1 and two ticks. The third save is the rollover of the first. -/
def requests : List (Request Nat) :=
  [.schedule { deliveryTime := 0, supply := .ofList [1, 2] },
    .schedule { deliveryTime := 1, supply := .ofList [3] }, .tick, .tick]

theorem requests_fresh : ∀ r ∈ requests, r.Fresh := by
  simp only [requests, List.forall_mem_cons]
  refine ⟨⟨rfl, .ofList [1, 2] (by decide)⟩, ⟨rfl, .ofList [3] (by decide)⟩, trivial, trivial, ?_⟩
  exact List.forall_mem_nil _

end Track
end BucketClock
