import BucketClock.Outcome
import BucketClock.Supply

/-!
Windows: a sequence without end of which a stretch is at hand. Taking past the
stretch looks the missing indices up first, in order; if one of them cannot be
looked up nothing is taken and the window stays as it was.
-/

namespace BucketClock

/-- `items` are those at indices `position` to `size - 1`. -/
structure Window (ι : Type) where
  size : Nat
  position : Nat := 0
  items : List ι
  phase : Phase

namespace Window

variable {ι σ : Type}

def ofList (initial : List ι) : Window ι where
  size := initial.length
  items := initial
  phase := if initial.isEmpty then .exhausted else .full

/-- Looks up `count` indices from `start` on and stops at the first that fails. -/
def lookUp (look : Nat → σ → Outcome σ (Except TrackError ι)) :
    (start count : Nat) → σ → Outcome σ (Except TrackError (List ι))
  | _, 0, s => ⟨.ok [], s, []⟩
  | start, count + 1, s =>
    let o := look start s
    match o.value with
    | .error e => ⟨.error e, o.state, o.notes⟩
    | .ok x =>
      let r := lookUp look (start + 1) count o.state
      ⟨r.value.map (x :: ·), r.state, o.notes ++ r.notes⟩

/-- Takes `limit` items, or as many as there are indices left. -/
def take (look : Nat → σ → Outcome σ (Except TrackError ι)) (limit : Nat) (w : Window ι) (s : σ) :
    Outcome (Window ι × σ) (Except TrackError (List ι)) :=
  let wanted := Index.add w.position limit
  let overflow := wanted - w.size
  let grown := lookUp look w.size overflow s
  match grown.value with
  | .error e => ⟨.error e, (w, grown.state), grown.notes⟩
  | .ok found =>
    let size := w.size + overflow
    let items := w.items ++ found
    let stop := min wanted size
    let count := stop - w.position
    let news := if overflow = 0 then [] else [.logged (.windowGrown w.size overflow)]
    ⟨.ok (items.take count),
      (⟨size, stop, items.drop count, if stop = size then .exhausted else .notEmpty⟩,
        grown.state),
      grown.notes ++ news⟩

def describe (w : Window ι) : String :=
  Text.describeRecord "ExpandingResource"
    [("size", Text.describeNat w.size), ("position", Text.describeNat w.position),
     ("window", Text.describeNat w.items.length), ("state", w.phase.describe)] true

/-- A window that hands something out moves forward, within the range of indices. -/
theorem take_advances {look : Nat → σ → Outcome σ (Except TrackError ι)} {limit : Nat}
    {w : Window ι} {s : σ} {found : List ι} (h : (w.take look limit s).value = .ok found)
    (hne : found ≠ []) :
    w.position < (w.take look limit s).state.1.position ∧
      (w.take look limit s).state.1.position ≤ Index.last := by
  simp only [take] at h ⊢
  split at h
  · cases h
  · simp only [Except.ok.injEq] at h
    have hcount : min (Index.add w.position limit)
        (w.size + (Index.add w.position limit - w.size)) - w.position ≠ 0 := by
      intro hzero
      rw [hzero] at h
      exact hne (by simpa using h.symm)
    have hlast := Index.add_le_last w.position limit
    constructor
    · show w.position < min _ _
      omega
    · show min _ _ ≤ Index.last
      omega

end Window
end BucketClock
