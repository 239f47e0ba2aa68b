import BucketClock.Proofs.Store.Commit

/-!
Commits into any orderly store, with any factory. A commit makes its calls in
turn and ends at the first that fails (`Outage.firstFailure`). It files the
commitment behind those of its bucket, or hands it back and every bucket made so
far is as it was; a save that fails after it took effect may leave the bucket
that the factory made on the shelf.

Main statement: `commit_committed`.
-/

namespace BucketClock

/-- The failure of the first call that fails, when calls are made in turn until one does. -/
def Outage.firstFailure {φ : Type} [Outage φ] (o : φ) : List StoreCall → Option Failure
  | [] => none
  | c :: cs =>
    match (Outage.meet o c).1 with
    | some f => some f
    | none => firstFailure (Outage.meet o c).2 cs

namespace Store

open Outage (firstFailure)

variable {α φ : Type}

/-- The slot that a look-up under `id` answers: the stored one, or the next. -/
def slotFor (id : Nat) (s : Store α φ) : Slot := (s.lookup id).getD s.nextSlot

/-- The bucket that a look-up under `id` answers: the stored one, or one that the factory makes. -/
def bucketFor (factory : Nat → Bucket α) (id : Nat) (s : Store α φ) : Bucket α :=
  match s.lookup id with
  | some slot => s.bucket slot
  | none => factory id

def commitCalls (factory : Nat → Bucket α) (e : Commitment α) (s : Store α φ) : List StoreCall :=
  [.get e.deliveryTime, .assign e.deliveryTime, .save (s.bucketFor factory e.deliveryTime).id]

/-- From `s` to `s'` a bucket was looked up: at most a slot was made for it. -/
structure Prepared (factory : Nat → Bucket α) (id : Nat) (s s' : Store α φ) : Prop where
  shelf : s'.shelf = s.shelf
  nextId : s'.nextId = s.nextId
  nextSlot : s.nextSlot ≤ s'.nextSlot
  made : s.slotFor id < s'.nextSlot
  bucket : ∀ i, s'.bucket i =
    if s.slotFor id = i then s.bucketFor factory id else s.bucket i

/-- The bucket that a look-up answers is the one in the slot, if the slot was made before. -/
theorem bucketFor_eq {s : Store α φ} {id : Nat} (h : s.slotFor id < s.nextSlot)
    (factory : Nat → Bucket α) : s.bucketFor factory id = s.bucket (s.slotFor id) := by
  cases hl : s.lookup id with
  | some slot => simp only [bucketFor, slotFor, hl, Option.getD_some]
  | none =>
    simp only [slotFor, hl, Option.getD_none] at h
    exact absurd h (Nat.lt_irrefl _)

theorem Prepared.kept {factory : Nat → Bucket α} {id : Nat} {s s' : Store α φ}
    (h : Prepared factory id s s') : ∀ i < s.nextSlot, s'.bucket i = s.bucket i := by
  intro i hi
  rw [h.bucket]
  split
  · next heq =>
    rw [← heq]
    exact bucketFor_eq (heq ▸ hi) factory
  · rfl

variable [Outage φ]

def asked (c : StoreCall) (s : Store α φ) : Store α φ :=
  { s with outage := (Outage.meet s.outage c).2 }

/-! ## The calls of a commit -/

/-- A look-up that fails leaves no trace. -/
theorem fetch_failed {s : Store α φ} {id : Nat} {f : Failure}
    (h : (Outage.meet s.outage (.get id)).1 = some f) (factory : Nat → Bucket α) :
    s.fetch factory id = ⟨.error f.error, s.asked (.get id), [.called (.get id) .failed]⟩ := by
  simp only [fetch, get, h]
  rfl

theorem fetch_done {s : Store α φ} (horderly : s.Orderly) {id : Nat}
    (h : (Outage.meet s.outage (.get id)).1 = none) (factory : Nat → Bucket α) :
    (s.fetch factory id).value = .ok (s.slotFor id) ∧
      (s.fetch factory id).state.outage = (Outage.meet s.outage (.get id)).2 ∧
      Prepared factory id s (s.fetch factory id).state := by
  have hget : s.get id = ⟨.ok (s.lookup id), s.asked (.get id),
      [.called (.get id) (if (s.lookup id).isSome then .hit else .miss)]⟩ := by
    simp only [get, h]
    rfl
  simp only [fetch, hget]
  cases hl : s.lookup id with
  | some slot =>
    have hslot : s.slotFor id = slot := by simp only [slotFor, hl, Option.getD_some]
    have hbucket : s.bucketFor factory id = s.bucket slot := by simp only [bucketFor, hl]
    refine ⟨by rw [hslot], rfl, ⟨rfl, rfl, Nat.le_refl _, ?_, ?_⟩⟩
    · rw [hslot]
      exact horderly.made id slot hl
    · intro i
      rw [hslot, hbucket]
      by_cases hi : slot = i
      · rw [if_pos hi, hi]
        rfl
      · rw [if_neg hi]
        rfl
  | none =>
    have hslot : s.slotFor id = s.nextSlot := by simp only [slotFor, hl, Option.getD_none]
    have hbucket : s.bucketFor factory id = factory id := by simp only [bucketFor, hl]
    refine ⟨by rw [hslot]; rfl, rfl, ⟨rfl, rfl, Nat.le_succ _, ?_, ?_⟩⟩
    · rw [hslot]
      exact Nat.lt_succ_self _
    · intro i
      rw [hslot, hbucket]
      exact bucket_make (factory id) i _

/-- Asking for an identity touches the count of identities only. -/
theorem assign_state (e : Commitment α) (s : Store α φ) :
    ∃ n, s.nextId ≤ n ∧
      (s.assign e).state.2 = { s.asked (.assign e.deliveryTime) with nextId := n } ∧
      e.Identified (s.assign e).state.1 := by
  have hidentify : ∃ n, s.nextId ≤ n ∧
      ((s.asked (.assign e.deliveryTime)).identify e).2 =
        { s.asked (.assign e.deliveryTime) with nextId := n } ∧
      e.Identified ((s.asked (.assign e.deliveryTime)).identify e).1 := by
    simp only [identify]
    split
    · exact ⟨s.nextId, Nat.le_refl _, rfl, .refl e⟩
    · next hid => exact ⟨s.nextId + 1, Nat.le_succ _, rfl, some s.nextId, rfl, Or.inl hid⟩
  simp only [assign]
  split
  · split
    · exact hidentify
    · exact ⟨s.nextId, Nat.le_refl _, rfl, .refl e⟩
  · exact hidentify

theorem assign_failed {e : Commitment α} {s : Store α φ} {f : Failure}
    (h : (Outage.meet s.outage (.assign e.deliveryTime)).1 = some f) :
    (s.assign e).value = .error f.error := by
  simp only [assign, h]

theorem assign_done {e : Commitment α} {s : Store α φ}
    (h : (Outage.meet s.outage (.assign e.deliveryTime)).1 = none) :
    (s.assign e).value = .ok () := by
  simp only [assign, h]

/-- A save that fails may have stored its slot all the same. -/
theorem save_failed {s : Store α φ} {slot : Slot} {f : Failure}
    (h : (Outage.meet s.outage (.save (s.bucket slot).id)).1 = some f)
    (hkeeps : f.effect ≠ .emptied) :
    (s.save slot).value = .error f.error ∧
      ∃ shelf, (s.save slot).state =
          { s.asked (.save (s.bucket slot).id) with shelf := shelf } ∧
        (shelf = s.shelf ∨
          f.effect = .applied ∧ shelf = s.shelf.insert (s.bucket slot).id slot) := by
  simp only [save, h]
  cases heffect : f.effect with
  | none => exact ⟨trivial, s.shelf, rfl, Or.inl rfl⟩
  | applied => exact ⟨trivial, _, rfl, Or.inr ⟨rfl, rfl⟩⟩
  | emptied => exact absurd heffect hkeeps

theorem save_done {s : Store α φ} {slot : Slot}
    (h : (Outage.meet s.outage (.save (s.bucket slot).id)).1 = none) :
    (s.save slot).value = .ok () ∧ (s.save slot).state =
      { s.asked (.save (s.bucket slot).id) with
        shelf := s.shelf.insert (s.bucket slot).id slot } := by
  simp only [save, h]
  exact ⟨trivial, rfl⟩

/-! ## Commits -/

/-- How a commit of `e` into an orderly store can end. -/
inductive Committed (factory : Nat → Bucket α) (e : Commitment α) (s : Store α φ) :
    Except (Refusal α) (Option Nat) → Store α φ → Prop
  | done {id : Option Nat} {s' : Store α φ}
      (calls : firstFailure s.outage (s.commitCalls factory e) = none)
      (identified : e.Identified { e with id := id })
      (nextSlot : s.nextSlot ≤ s'.nextSlot) (made : s.slotFor e.deliveryTime < s'.nextSlot)
      (shelf : s'.shelf = s.shelf.insert (s.bucketFor factory e.deliveryTime).id
        (s.slotFor e.deliveryTime))
      (bucket : ∀ i, s'.bucket i = if s.slotFor e.deliveryTime = i then
        (s.bucketFor factory e.deliveryTime).commit { e with id := id } else s.bucket i) :
      Committed factory e s (.ok id) s'
  | failed {f : Failure} {e' : Commitment α} {s' : Store α φ}
      (calls : firstFailure s.outage (s.commitCalls factory e) = some f)
      (identified : e.Identified e') (nextId : s.nextId ≤ s'.nextId)
      (nextSlot : s.nextSlot ≤ s'.nextSlot)
      (bucket : ∀ i < s.nextSlot, s'.bucket i = s.bucket i)
      (shelf : s'.shelf = s.shelf ∨
        f.effect = .applied ∧ firstFailure s.outage (s.commitCalls factory e).dropLast = none ∧
          s.slotFor e.deliveryTime < s'.nextSlot ∧
          s'.bucket (s.slotFor e.deliveryTime) = s.bucketFor factory e.deliveryTime ∧
          s'.shelf = s.shelf.insert (s.bucketFor factory e.deliveryTime).id
            (s.slotFor e.deliveryTime)) :
      Committed factory e s (.error ⟨f.error, some e'⟩) s'

/-- Between the look-up and the save of a commit: the bucket holds `e` as `e'`, and nothing else
changed on a shelf or in a slot. -/
structure Loaded (factory : Nat → Bucket α) (e e' : Commitment α) (s full : Store α φ) : Prop where
  calls : firstFailure s.outage (s.commitCalls factory e) =
    firstFailure full.outage [.save (s.bucketFor factory e.deliveryTime).id]
  before : firstFailure s.outage (s.commitCalls factory e).dropLast = none
  keeps : Outage.KeepsEvents full.outage
  identified : e.Identified e'
  nextId : s.nextId ≤ full.nextId
  nextSlot : s.nextSlot ≤ full.nextSlot
  made : s.slotFor e.deliveryTime < full.nextSlot
  shelf : full.shelf = s.shelf
  bucket : ∀ i, full.bucket i = if s.slotFor e.deliveryTime = i then
    (s.bucketFor factory e.deliveryTime).commit e' else s.bucket i

theorem Loaded.saved {factory : Nat → Bucket α} {e e' : Commitment α} {s full : Store α φ}
    (h : Loaded factory e e' s full) {u : Unit}
    (hsave : (full.save (s.slotFor e.deliveryTime)).value = .ok u) :
    Committed factory e s (.ok e'.id) (full.save (s.slotFor e.deliveryTime)).state := by
  have hid : (full.bucket (s.slotFor e.deliveryTime)).id =
      (s.bucketFor factory e.deliveryTime).id := by
    rw [h.bucket, if_pos rfl]
    rfl
  have hcalls := h.calls
  simp only [firstFailure] at hcalls
  rw [← hid] at hcalls
  cases hm : (Outage.meet full.outage (.save (full.bucket (s.slotFor e.deliveryTime)).id)).1 with
  | some f =>
    rw [(save_failed hm (h.keeps [] _ f hm)).1] at hsave
    cases hsave
  | none =>
    rw [hm] at hcalls
    obtain ⟨id, rfl, hidentified⟩ := h.identified
    rw [(save_done hm).2]
    refine .done hcalls ⟨id, rfl, hidentified⟩ h.nextSlot h.made ?_ h.bucket
    rw [hid, h.shelf]

theorem Loaded.withdrawn {factory : Nat → Bucket α} {e e' : Commitment α} {s full : Store α φ}
    (h : Loaded factory e e' s full) {error : TrackError}
    (hsave : (full.save (s.slotFor e.deliveryTime)).value = .error error) :
    ((full.save (s.slotFor e.deliveryTime)).state.bucket (s.slotFor e.deliveryTime)).retractLast =
        (some e', s.bucketFor factory e.deliveryTime) ∧
      Committed factory e s (.error ⟨error, some e'⟩)
        ((full.save (s.slotFor e.deliveryTime)).state.update (s.slotFor e.deliveryTime)
          (s.bucketFor factory e.deliveryTime)) := by
  have hid : (full.bucket (s.slotFor e.deliveryTime)).id =
      (s.bucketFor factory e.deliveryTime).id := by
    rw [h.bucket, if_pos rfl]
    rfl
  have hcalls := h.calls
  simp only [firstFailure] at hcalls
  rw [← hid] at hcalls
  cases hm : (Outage.meet full.outage (.save (full.bucket (s.slotFor e.deliveryTime)).id)).1 with
  | none =>
    rw [(save_done hm).1] at hsave
    cases hsave
  | some f =>
    rw [hm] at hcalls
    obtain ⟨hvalue, shelf, hstate, hshelf⟩ := save_failed hm (h.keeps [] _ f hm)
    rw [hvalue] at hsave
    cases hsave
    have hbucket : ∀ i, (full.save (s.slotFor e.deliveryTime)).state.bucket i = full.bucket i := by
      intro i
      rw [hstate]
      rfl
    rw [hid, h.shelf] at hshelf
    constructor
    · rw [hbucket, h.bucket, if_pos rfl, retractLast_commit]
    · rw [hstate]
      refine .failed hcalls h.identified h.nextId h.nextSlot ?_ ?_
      · intro i hi
        rw [bucket_update]
        split
        · next heq =>
          rw [← heq]
          exact bucketFor_eq (heq ▸ hi) factory
        · next hne =>
          rw [← hstate, hbucket, h.bucket, if_neg hne]
      · refine hshelf.imp_right fun ⟨heffect, hinsert⟩ =>
          ⟨heffect, h.before, h.made, ?_, hinsert⟩
        rw [bucket_update, if_pos rfl]

/-- A commit into an orderly store files the commitment in the bucket that it looked up, or hands
it back and leaves the buckets made so far as they were. -/
theorem commit_committed {s : Store α φ} (h : s.Orderly) (hkeeps : Outage.KeepsEvents s.outage)
    (factory : Nat → Bucket α) (e : Commitment α) :
    Committed factory e s (s.commit factory e).value (s.commit factory e).state := by
  simp only [commit]
  cases hget : (Outage.meet s.outage (.get e.deliveryTime)).1 with
  | some f =>
    rw [fetch_failed hget]
    refine .failed ?_ (.refl e) (Nat.le_refl _) (Nat.le_refl _) (fun _ _ => rfl) (Or.inl rfl)
    simp only [commitCalls, firstFailure, hget]
  | none =>
    obtain ⟨hvalue, houtage, hprepared⟩ := fetch_done h hget factory
    have hkeeps₁ := hkeeps.meet (.get e.deliveryTime)
    rw [← houtage] at hkeeps₁
    simp only [hvalue]
    generalize (s.fetch factory e.deliveryTime).state = s₁ at houtage hprepared hkeeps₁ ⊢
    obtain ⟨n, hn, hassigned, hid⟩ := assign_state e s₁
    have hnextId : s.nextId ≤ n := hprepared.nextId ▸ hn
    cases hassign : (Outage.meet s₁.outage (.assign e.deliveryTime)).1 with
    | some f =>
      simp only [assign_failed hassign, hassigned]
      refine .failed ?_ hid hnextId hprepared.nextSlot (hprepared.kept) (Or.inl hprepared.shelf)
      simp only [commitCalls, firstFailure, hget, ← houtage, hassign]
    | none =>
      simp only [assign_done hassign, hassigned]
      generalize (s₁.assign e).state.1 = e' at hid ⊢
      generalize hnamed : ({ s₁.asked (.assign e.deliveryTime) with nextId := n } : Store α φ) = s₂
      have hbucket : ∀ i, s₂.bucket i = s₁.bucket i := by
        intro i
        rw [← hnamed]
        rfl
      have hloaded : Loaded factory e e' s (s₂.update (s.slotFor e.deliveryTime)
          ((s₂.bucket (s.slotFor e.deliveryTime)).commit e')) := by
        refine ⟨?_, ?_, ?_, hid, ?_, ?_, ?_, ?_, ?_⟩
        · rw [← hnamed]
          simp only [commitCalls, firstFailure, hget, ← houtage, hassign]
          rfl
        · simp only [commitCalls, List.dropLast, firstFailure, hget, ← houtage, hassign]
        · rw [← hnamed]
          exact hkeeps₁.meet _
        · rw [← hnamed]
          exact hnextId
        · rw [← hnamed]
          exact hprepared.nextSlot
        · rw [← hnamed]
          exact hprepared.made
        · rw [← hnamed]
          exact hprepared.shelf
        · intro i
          rw [bucket_update, hbucket, hbucket, hprepared.bucket, hprepared.bucket, if_pos rfl]
          split
          · rfl
          · rfl
      generalize s₂.update (s.slotFor e.deliveryTime)
        ((s₂.bucket (s.slotFor e.deliveryTime)).commit e') = full at hloaded ⊢
      cases hsave : (full.save (s.slotFor e.deliveryTime)).value with
      | ok u => exact hloaded.saved hsave
      | error error =>
        obtain ⟨hretract, hcommitted⟩ := hloaded.withdrawn hsave
        simp only [hretract]
        exact hcommitted

end Store
end BucketClock
