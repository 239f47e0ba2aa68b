import BucketClock.Proofs.Store.Contents

/-!
A store that never fails. Every commit succeeds there and gives the commitment
the identity that the store assigns. It appends the commitment to its bucket and
leaves slots off the shelf alone (`commit_appends`).
-/

namespace BucketClock.Store

variable {α φ : Type}

/-- A slot that was made and is off the shelf. -/
structure Aside (slot : Slot) (s : Store α φ) : Prop where
  made : slot < s.nextSlot
  off : ∀ id, s.lookup id ≠ some slot

/-- From `s` to `s'` the slots off the shelf stayed as they were. -/
def Undisturbed (s s' : Store α φ) : Prop :=
  ∀ slot, s.Aside slot → s'.Aside slot ∧ s'.bucket slot = s.bucket slot

theorem Undisturbed.refl (s : Store α φ) : Undisturbed s s := fun _ h => ⟨h, rfl⟩

theorem Undisturbed.trans {s s' s'' : Store α φ} (h : Undisturbed s s') (h' : Undisturbed s' s'') :
    Undisturbed s s'' := by
  intro slot haside
  obtain ⟨haside', hbucket⟩ := h slot haside
  obtain ⟨haside'', hbucket'⟩ := h' slot haside'
  exact ⟨haside'', hbucket'.trans hbucket⟩

theorem fetch_ok (factory : Nat → Bucket α) (id : Nat) (s : Store α Unit) :
    ∃ slot, (s.fetch factory id).value = .ok slot ∧
      (s.fetch factory id).state.nextId = s.nextId := by
  have hget : (s.get id).value = .ok (s.lookup id) := rfl
  simp only [fetch, hget]
  cases s.lookup id with
  | some slot => exact ⟨slot, rfl, rfl⟩
  | none => exact ⟨_, rfl, rfl⟩

/-- A fetch finds the slot of a bucket or makes one; either way the slot is not one that was made
before and is off the shelf. -/
theorem fetch_serves {s : Store α Unit} (h : s.Orderly) (id : Nat) :
    ∃ slot s', (s.fetch .empty id).value = .ok slot ∧ (s.fetch .empty id).state = s' ∧
      s'.Orderly ∧ (∀ j, s'.contents j = s.contents j) ∧ s'.Serves id slot ∧ Undisturbed s s' ∧
      ¬ s.Aside slot := by
  have hget : s.get id = ⟨.ok (s.lookup id), s, (s.get id).notes⟩ := rfl
  simp only [fetch]
  rw [hget]
  cases hl : s.lookup id with
  | some slot =>
    exact ⟨slot, s, rfl, rfl, h, fun _ => rfl, h.serves hl, .refl s, fun ha => ha.off id hl⟩
  | none =>
    obtain ⟨horderly, hcontents, hserves⟩ := h.make hl
    refine ⟨_, _, rfl, rfl, horderly, hcontents, hserves, ?_,
      fun ha => absurd ha.made (Nat.lt_irrefl _)⟩
    intro other ha
    refine ⟨⟨Nat.lt_succ_of_lt ha.made, ha.off⟩, ?_⟩
    rw [bucket_make, if_neg]
    exact Nat.ne_of_gt ha.made

def identity (e : Commitment α) (s : Store α Unit) : Nat := e.id.getD s.nextId

theorem identify_eq (e : Commitment α) (s : Store α φ) :
    ∃ n, s.identify e = ({ e with id := some (e.id.getD s.nextId) }, { s with nextId := n }) := by
  obtain ⟨id, deliveryTime, supply, phase, policy, mark⟩ := e
  cases id with
  | some id => exact ⟨s.nextId, rfl⟩
  | none => exact ⟨s.nextId + 1, rfl⟩

theorem commit_ok (factory : Nat → Bucket α) (e : Commitment α) (s : Store α Unit) :
    (s.commit factory e).value = .ok (some (s.identity e)) := by
  obtain ⟨slot, hvalue, hnext⟩ := fetch_ok factory e.deliveryTime s
  obtain ⟨n, hidentify⟩ := identify_eq e (s.fetch factory e.deliveryTime).state
  rw [hnext] at hidentify
  simp only [commit, hvalue]
  exact congrArg (Except.ok ·.1.id) hidentify

/-- Storing a served slot once a commitment was put into it. -/
theorem Serves.appended {s : Store α φ} {e : Commitment α} {slot : Slot}
    (hs : s.Serves e.deliveryTime slot) (h : s.Orderly) (n : Nat) :
    let s' := (update slot ((s.bucket slot).commit e) { s with nextId := n }).put slot
    s'.Orderly ∧
      (∀ j, s'.contents j = if j = e.deliveryTime then s.contents j ++ [e] else s.contents j) ∧
      ∀ other, s.Aside other → slot ≠ other → s'.Aside other ∧ s'.bucket other = s.bucket other := by
  intro s'
  have hbucket : ∀ i, s'.bucket i = if slot = i then (s.bucket slot).commit e else s.bucket i :=
    fun i => bucket_update slot i _ _
  have hid : ((s.bucket slot).commit e).id = e.deliveryTime := hs.own
  have hshelf : s'.shelf = s.shelf.insert e.deliveryTime slot := by
    have hkey : (s'.bucket slot).id = e.deliveryTime := by rw [hbucket, if_pos rfl, hid]
    exact congrArg (s.shelf.insert · slot) hkey
  obtain ⟨horderly, hcontents⟩ := hs.insert h hid hshelf hbucket rfl
  refine ⟨horderly, ?_, ?_⟩
  · intro j
    rw [hcontents]
    split
    · next heq => rw [heq, ← hs.events, Bucket.commit]
    · rfl
  · intro other hother hne
    refine ⟨⟨hother.made, ?_⟩, by rw [hbucket, if_neg hne]⟩
    intro j hj
    rw [lookup, hshelf, Shelf.find?_insert] at hj
    split at hj
    · exact hne (Option.some.inj hj)
    · exact hother.off j hj

structure Appended (e : Commitment α) (s s' : Store α φ) : Prop where
  orderly : s'.Orderly
  contents : ∀ j, s'.contents j =
    if j = e.deliveryTime then s.contents j ++ [e] else s.contents j
  undisturbed : Undisturbed s s'

theorem Appended.contents_dueAt {s s' : Store α φ} {e : Commitment α} (h : Appended e s s')
    (id : Nat) : s'.contents id = s.contents id ++ Commitment.dueAt id [e] := by
  rw [h.contents]
  split
  · next heq => simp [Commitment.dueAt, heq]
  · next hne => simp [Commitment.dueAt, Ne.symm hne]

theorem commit_appends {s : Store α Unit} (h : s.Orderly) (e : Commitment α) :
    Appended { e with id := some (s.identity e) } s (s.commit .empty e).state := by
  obtain ⟨slot, s₁, hvalue, hfetched, horderly, hcontents, hserves, hundisturbed, hnew⟩ :=
    fetch_serves h e.deliveryTime
  obtain ⟨_, _, hnext⟩ := fetch_ok .empty e.deliveryTime s
  obtain ⟨n, hidentify⟩ := identify_eq e s₁
  rw [hfetched] at hnext
  rw [hnext] at hidentify
  have hstate : (s.commit .empty e).state =
      (update slot ((s₁.bucket slot).commit { e with id := some (s.identity e) })
        { s₁ with nextId := n }).put slot := by
    simp only [commit, hvalue, hfetched]
    show ((s₁.identify e).2.update slot
      (((s₁.identify e).2.bucket slot).commit (s₁.identify e).1)).put slot = _
    rw [hidentify]
    rfl
  have hfiled : s₁.Serves { e with id := some (s.identity e) }.deliveryTime slot := hserves
  obtain ⟨horderly', hcontents', hundisturbed'⟩ := hfiled.appended horderly n
  rw [hstate]
  refine ⟨horderly', ?_, ?_⟩
  · intro j
    rw [hcontents', hcontents]
  · intro other hother
    obtain ⟨hother', hsame⟩ := hundisturbed other hother
    obtain ⟨hother'', hsame'⟩ := hundisturbed' other hother' fun heq => hnew (heq ▸ hother)
    exact ⟨hother'', hsame'.trans hsame⟩

end BucketClock.Store
