import BucketClock.Proofs.Store.Calm
import BucketClock.Proofs.Track.Goods
import Mathlib.Data.List.Induction

/-!
Tracks over a store that never fails. Nothing is held back there, and a tick
drains its bucket as long as anything is in flight (`nextFrame_framed`).
-/

namespace BucketClock.Track

open Commitment (survivors dueAt)

variable {α : Type}

theorem place_ok (t : Track α Unit) (e : Commitment α) :
    (t.place e).value = .ok () ∧ (t.place e).state.stranded = t.stranded := by
  simp only [place, Store.commit_ok]
  split
  · exact ⟨rfl, rfl⟩
  · exact ⟨rfl, rfl⟩

theorem rollOver_stranded (t : Track α Unit) (e : Commitment α) :
    (t.rollOver e).state.stranded = t.stranded := by
  obtain ⟨hvalue, hstranded⟩ := t.place_ok e
  simp only [rollOver, hvalue]
  exact hstranded

theorem settle_stranded (position : Nat) (e : Commitment α) (t : Track α Unit) :
    (t.settle position e).state.stranded = t.stranded := by
  simp only [settle]
  split
  · rfl
  · split
    · exact rollOver_stranded t _
    · exact rollOver_stranded t _

theorem removeBucket_stranded (t : Track α Unit) (id : Nat) :
    (t.removeBucket id).state.stranded = t.stranded := by
  simp only [removeBucket]
  split
  · rfl
  · rfl

theorem drain_stranded (t : Track α Unit) (slot : Slot) :
    (t.drain slot).state.stranded = t.stranded := by
  show (removeBucket _ _).state.stranded = _
  rw [removeBucket_stranded]
  exact Outcome.each_keeps stranded (settle_stranded _) _ _

theorem takeBucket_stranded (t : Track α Unit) : t.takeBucket.state.stranded = t.stranded := by
  simp only [takeBucket]
  split
  · rfl
  · split
    · rfl
    · rfl

theorem nextFrame_stranded (t : Track α Unit) :
    t.nextFrame.state.stranded = t.retryDeferred.state.stranded := by
  have htaken := takeBucket_stranded t.retryDeferred.state
  simp only [nextFrame]
  split
  · rfl
  · split
    · exact htaken
    · exact (drain_stranded _ _).trans htaken

theorem schedule_stranded (t : Track α Unit) (e : Commitment α) :
    (t.schedule e).state.stranded = t.stranded := by
  unfold schedule
  cases e.phase with
  | exhausted => rfl
  | notEmpty => exact (t.place_ok e).2
  | full =>
    simp only
    split
    · exact (t.place_ok _).2
    · exact (t.place_ok e).2

/-- The retries of a tick have nothing to do. -/
theorem retryDeferred_calm {t : Track α Unit} (h : t.Sound) (hstranded : t.stranded = []) :
    Turn t t.retryDeferred.state [] [] [] 0 ∧ t.retryDeferred.state.position = t.position ∧
      t.retryDeferred.state.stranded = [] := by
  obtain ⟨held, hrefiled, hturn, hposition, hheld⟩ := retryDeferred_turn h
  rw [hstranded] at hrefiled hturn
  rw [List.map_nil] at hrefiled
  generalize t.retryFilings = filed at hrefiled hturn
  cases hrefiled
  exact ⟨hturn, hposition, hheld⟩

/-- A tick with something in flight drains its bucket, and files again all that is left. -/
theorem nextFrame_framed {t : Track α Unit} (h : t.Sound) (hstranded : t.stranded = [])
    (hlast : t.position < Index.last) (hlive : t.live ≠ []) :
    (∃ frame, t.nextFrame.value = .ok (some frame)) ∧
      t.nextFrame.state.position = t.position + 1 ∧ t.nextFrame.state.stranded = [] ∧
      t.due = t.store.contents t.position ∧
      ∃ filed, Commitment.Refiled
          ((survivors t.frameWidth t.due).map (·.onward t.position t.increment)) filed [] ∧
        ∀ id, t.position < id →
          t.nextFrame.state.store.contents id = t.store.contents id ++ dueAt id filed := by
  obtain ⟨hturn, hposition, hheld⟩ := retryDeferred_calm h hstranded
  have hcontents : ∀ id, t.position ≤ id →
      t.retryDeferred.state.store.contents id = t.store.contents id := by
    intro id hid
    have hsame := hturn.contents id (hposition ▸ hid)
    exact hsame.trans (List.append_nil _)
  have hdue : t.due = t.store.contents t.position := hcontents t.position (Nat.le_refl _)
  have hpending : t.retryDeferred.state.pending ≠ 0 := by
    have hlength := (retryDeferred_goods h).length_eq
    rw [List.length_map, List.length_map, ← hturn.sound.pending] at hlength
    rw [hlength]
    exact fun hzero => hlive (List.length_eq_zero_iff.mp hzero)
  have hemitted := nextFrame_emitted h
  have hsame := nextFrame_stranded t
  generalize t.nextFrame.value = value, t.nextFrame.state = t', t.settleFilings = filed
    at hemitted hsame ⊢
  cases hemitted with
  | idle hzero => exact absurd hzero hpending
  | refused _ hcause _ _ _ =>
    rcases hcause with hend | ⟨error, herror⟩
    · omega
    · obtain ⟨slot, hslot, _⟩ := Store.fetch_ok Bucket.empty t.retryDeferred.state.position
        t.retryDeferred.state.store
      rw [hslot] at herror
      cases herror
  | @framed _ _ held _ _ hrefiled' hturn' hnext hstranded' =>
    have hheld' : held = [] := by
      rw [hsame] at hstranded'
      exact List.self_eq_append_right.mp hstranded'
    have hbucket : t.retryDeferred.state.store.contents t.retryDeferred.state.position = t.due := by
      rw [hposition]
      rfl
    rw [hbucket, hturn.frameWidth, hturn.increment, hposition, hheld'] at hrefiled'
    refine ⟨⟨_, rfl⟩, by rw [hnext, hposition], hsame.trans hheld, hdue, filed, hrefiled', ?_⟩
    intro id hid
    rw [hturn'.contents id (by omega), hcontents id (Nat.le_of_lt hid)]

/-- Nothing is ever held back. -/
theorem stranded_run {t₀ : Track α Unit} (h : t₀.Opened) {rs : List (Request α)}
    (hfull : ∀ r ∈ rs, r.Full) :
    Later t₀ (t₀.run rs) ∧ (t₀.run rs).stranded = [] := by
  induction rs using List.reverseRecOn with
  | nil =>
    exact ⟨⟨h.sound Outage.keepsEvents_unit, rfl, rfl⟩, h.unused.stranded⟩
  | append_singleton rs r ih =>
    obtain ⟨hfull, hr⟩ := List.forall_mem_append.mp hfull
    obtain ⟨hlater, hstranded⟩ := ih hfull
    rw [run_snoc]
    refine ⟨hlater.trans (hlater.sound.perform (List.forall_mem_singleton.mp hr)), ?_⟩
    cases r with
    | schedule e => exact (schedule_stranded _ _).trans hstranded
    | tick =>
      have hheld := (retryDeferred_calm hlater.sound hstranded).2.2
      exact (nextFrame_stranded _).trans hheld

end BucketClock.Track
