import BucketClock.Proofs.Track.Run

/-!
What a track counts of its output: the frames and the items in them. Filing a
commitment leaves these counts alone, with the timeline, the clock and the
removals that wait (`base`); only the drain of a bucket adds to them, so a tick
adds exactly the frame that it hands out (`nextFrame_output`). What the owner of a
track has set for its drains is left alone by everything (`perform_settings`).
-/

namespace BucketClock.Track

variable {α φ : Type}

/-- The frames handed out so far, and the items in them. -/
def output (t : Track α φ) : Nat × Nat := (t.counters.frames, t.counters.deliveredItems)

/-- What the filing of commitments leaves alone. -/
def base (t : Track α φ) : Timeline α × Nat × List Nat × Nat × Nat :=
  (t.timeline, t.position, t.stale, t.output)

theorem base_output {t t' : Track α φ} (h : t'.base = t.base) : t'.output = t.output :=
  congrArg (·.2.2.2) h

variable [Outage φ]

theorem place_base (e : Commitment α) (t : Track α φ) : (t.place e).state.base = t.base := by
  simp only [place]
  split
  · rfl
  · split
    · rfl
    · rfl

theorem rollOver_base (e : Commitment α) (t : Track α φ) : (t.rollOver e).state.base = t.base := by
  have hplace := place_base e t
  simp only [rollOver]
  split
  · exact hplace
  · split
    · exact hplace
    · exact hplace

theorem retry_base (e : Commitment α) (t : Track α φ) : (t.retry e).state.base = t.base :=
  rollOver_base _ t

theorem settle_base (position : Nat) (e : Commitment α) (t : Track α φ) :
    (t.settle position e).state.base = t.base := by
  simp only [settle]
  split
  · rfl
  · split
    · exact rollOver_base _ t
    · exact rollOver_base _ t

/-- A removal concerns the store and the removals that wait. -/
theorem removeBucket_same (id : Nat) (t : Track α φ) :
    ∃ store stale, (t.removeBucket id).state = { t with store := store, stale := stale } := by
  simp only [removeBucket]
  split
  · exact ⟨_, t.stale, rfl⟩
  · exact ⟨_, _, rfl⟩

/-- The fetch of a bucket concerns the timeline and the store. -/
theorem takeBucket_same (t : Track α φ) :
    ∃ timeline store, t.takeBucket.state = { t with timeline := timeline, store := store } := by
  simp only [takeBucket]
  split
  · exact ⟨_, _, rfl⟩
  · split
    · exact ⟨_, _, rfl⟩
    · exact ⟨_, _, rfl⟩

theorem removeBucket_output (id : Nat) (t : Track α φ) :
    (t.removeBucket id).state.output = t.output := by
  obtain ⟨_, _, hsame⟩ := removeBucket_same id t
  rw [hsame]
  rfl

theorem retryDeferred_output (t : Track α φ) : t.retryDeferred.state.output = t.output := by
  have hremoved : t.cleared.output = t.output :=
    Outcome.each_keeps output removeBucket_output t.stale { t with stale := [] }
  have hretried := Outcome.each_keeps base retry_base t.cleared.stranded
    { t.cleared with stranded := [] }
  exact (base_output hretried).trans hremoved

theorem takeBucket_output (t : Track α φ) : t.takeBucket.state.output = t.output := by
  obtain ⟨_, _, hsame⟩ := takeBucket_same t
  rw [hsame]
  rfl

theorem drain_output (slot : Slot) (t : Track α φ) :
    (t.drain slot).state.output =
      (t.output.1 + 1, t.output.2 + (t.drain slot).value.length) := by
  simp only [drain]
  generalize (t.store.bucket slot).deliverWith t.frameWidth = delivered
  have hsettled := Outcome.each_keeps base (settle_base t.position) delivered.state.events
    { t with store := t.store.update slot { delivered.state with events := [] } }
  have hremoved := (removeBucket_output (t.store.bucket slot).id _).trans (base_output hsettled)
  show (_ + 1, _ + _) = _
  exact Prod.ext (congrArg (·.1 + 1) hremoved)
    (congrArg (·.2 + delivered.value.length) hremoved)

/-- A tick counts the frame that it hands out, if it does. -/
theorem nextFrame_output (t : Track α φ) :
    t.nextFrame.state.output =
      (t.output.1 + (t.frames .tick).length, t.output.2 + (t.frames .tick).flatten.length) := by
  have htaken := (takeBucket_output t.retryDeferred.state).trans (retryDeferred_output t)
  simp only [frames, nextFrame]
  split
  · exact retryDeferred_output t
  · cases hvalue : t.retryDeferred.state.takeBucket.value with
    | error e => exact htaken
    | ok slot =>
      have hdrained := drain_output slot t.retryDeferred.state.takeBucket.state
      rw [htaken] at hdrained
      simpa using hdrained

/-! ## Settings -/

def settings (t : Track α φ) : Nat × Nat := (t.frameWidth, t.increment)

theorem place_settings (e : Commitment α) (t : Track α φ) :
    (t.place e).state.settings = t.settings := by
  simp only [place]
  split
  · rfl
  · split
    · rfl
    · rfl

theorem rollOver_settings (e : Commitment α) (t : Track α φ) :
    (t.rollOver e).state.settings = t.settings := by
  have hplace := place_settings e t
  simp only [rollOver]
  split
  · exact hplace
  · split
    · exact hplace
    · exact hplace

theorem retry_settings (e : Commitment α) (t : Track α φ) :
    (t.retry e).state.settings = t.settings := rollOver_settings _ t

theorem settle_settings (position : Nat) (e : Commitment α) (t : Track α φ) :
    (t.settle position e).state.settings = t.settings := by
  simp only [settle]
  split
  · rfl
  · split
    · exact rollOver_settings _ t
    · exact rollOver_settings _ t

theorem removeBucket_settings (id : Nat) (t : Track α φ) :
    (t.removeBucket id).state.settings = t.settings := by
  obtain ⟨_, _, hsame⟩ := removeBucket_same id t
  rw [hsame]
  rfl

theorem retryDeferred_settings (t : Track α φ) : t.retryDeferred.state.settings = t.settings := by
  have hremoved : t.cleared.settings = t.settings :=
    Outcome.each_keeps settings removeBucket_settings t.stale { t with stale := [] }
  have hretried := Outcome.each_keeps settings retry_settings t.cleared.stranded
    { t.cleared with stranded := [] }
  exact hretried.trans hremoved

theorem takeBucket_settings (t : Track α φ) : t.takeBucket.state.settings = t.settings := by
  obtain ⟨_, _, hsame⟩ := takeBucket_same t
  rw [hsame]
  rfl

theorem drain_settings (slot : Slot) (t : Track α φ) :
    (t.drain slot).state.settings = t.settings :=
  (removeBucket_settings _ _).trans (Outcome.each_keeps settings (settle_settings t.position) _ _)

theorem nextFrame_settings (t : Track α φ) : t.nextFrame.state.settings = t.settings := by
  have htaken := (takeBucket_settings t.retryDeferred.state).trans (retryDeferred_settings t)
  simp only [nextFrame]
  split
  · exact retryDeferred_settings t
  · split
    · exact htaken
    · exact (drain_settings _ _).trans htaken

theorem schedule_settings (e : Commitment α) (t : Track α φ) :
    (t.schedule e).state.settings = t.settings := by
  simp only [schedule]
  split
  · rfl
  · exact place_settings e t
  · split
    · exact place_settings _ t
    · exact place_settings e t

theorem perform_settings (t : Track α φ) (r : Request α) :
    (t.perform r).settings = t.settings := by
  cases r with
  | schedule e => exact schedule_settings _ t
  | tick => exact nextFrame_settings t

end BucketClock.Track
