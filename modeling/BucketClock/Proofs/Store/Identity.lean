import BucketClock.Proofs.Store.Commit

/-!
The identities that a store hands out. It counts from one number to the next and
gives a number to every commitment without an identity that it is asked to
identify, even if the call fails after that, or the commit the call was made
for. So the identities of a series of commits are consecutive
(`commit_consecutive`), and none of them is handed out twice. A commitment with
an identity keeps it, and a commit that succeeds answers the identity that the
commitment is filed under (`commit_named`).
-/

namespace BucketClock

/-- The numbers count on from `n`, and `n'` is the next one. -/
structure Consecutive (ids : List Nat) (n n' : Nat) : Prop where
  range : ids = List.range' n ids.length
  next : n' = n + ids.length

namespace Consecutive

theorem nil (n : Nat) : Consecutive [] n n := ⟨rfl, rfl⟩

theorem single (n : Nat) : Consecutive [n] n (n + 1) := ⟨rfl, rfl⟩

theorem append {ids ids' : List Nat} {n n' n'' : Nat} (h : Consecutive ids n n')
    (h' : Consecutive ids' n' n'') : Consecutive (ids ++ ids') n n'' := by
  constructor
  · rw [List.length_append, ← List.range'_append_1, ← h.range, ← h.next, ← h'.range]
  · rw [h'.next, h.next, List.length_append, Nat.add_assoc]

theorem nodup {ids : List Nat} {n n' : Nat} (h : Consecutive ids n n') : ids.Nodup := by
  rw [h.range]
  exact List.nodup_range'

end Consecutive

namespace Store

variable {α φ : Type} [Outage φ]

/-! ## What calls do to the count -/

theorem fetch_nextId (factory : Nat → Bucket α) (id : Nat) (s : Store α φ) :
    (s.fetch factory id).state.nextId = s.nextId := by
  simp only [fetch, get]
  cases (Outage.meet s.outage (.get id)).1 with
  | some f => rfl
  | none =>
    simp only
    split
    · rfl
    · rfl
    · rfl

theorem save_nextId (slot : Slot) (s : Store α φ) : (s.save slot).state.nextId = s.nextId := by
  simp only [save]
  split
  · split
    · rfl
    · rfl
    · rfl
  · rfl

theorem remove_nextId (id : Nat) (s : Store α φ) : (s.remove id).state.nextId = s.nextId := by
  simp only [remove]
  split
  · split
    · rfl
    · rfl
  · rfl

/-- The identity that a call to identify a commitment gives to it, whether the call succeeds or
not; none if it has one already. -/
def given (e : Commitment α) (s : Store α φ) : List Nat :=
  match e.id with
  | some _ => []
  | none => (s.assign e).state.1.id.toList

theorem assign_consecutive (e : Commitment α) (s : Store α φ) :
    Consecutive (s.given e) s.nextId (s.assign e).state.2.nextId := by
  cases hid : e.id with
  | some id =>
    simp only [given, assign, identify, hid]
    split
    · split
      · exact .nil _
      · exact .nil _
    · exact .nil _
  | none =>
    simp only [given, assign, identify, hid]
    split
    · split
      · exact .single _
      · rw [hid]
        exact .nil _
    · exact .single _

/-- A call that succeeds leaves a commitment with the identity it had, or with the given one. -/
theorem assign_named {e : Commitment α} {s : Store α φ} (h : (s.assign e).value = .ok ()) :
    (e.id ≠ none → (s.assign e).state.1.id = e.id) ∧
      (e.id = none → (s.given e).map some = [(s.assign e).state.1.id]) := by
  constructor
  · intro hsome
    obtain ⟨id, hid⟩ := Option.ne_none_iff_exists'.mp hsome
    simp only [assign] at h ⊢
    split at h
    · cases h
    · simp only [identify, hid]
  · intro hnone
    obtain ⟨id, hid⟩ := Option.ne_none_iff_exists'.mp (assign_id h)
    simp only [given, hnone, hid]
    rfl

/-! ## Commits -/

def handed (factory : Nat → Bucket α) (e : Commitment α) (s : Store α φ) : List Nat :=
  match (s.fetch factory e.deliveryTime).value with
  | .error _ => []
  | .ok _ => (s.fetch factory e.deliveryTime).state.given e

theorem commit_consecutive (factory : Nat → Bucket α) (e : Commitment α) (s : Store α φ) :
    Consecutive (s.handed factory e) s.nextId (s.commit factory e).state.nextId := by
  have hfetched := fetch_nextId factory e.deliveryTime s
  simp only [handed, commit]
  cases (s.fetch factory e.deliveryTime).value with
  | error error =>
    rw [← hfetched]
    exact .nil _
  | ok slot =>
    have hgiven := assign_consecutive e (s.fetch factory e.deliveryTime).state
    rw [hfetched] at hgiven
    simp only
    split
    · exact hgiven
    · split
      · rw [save_nextId]
        exact hgiven
      · show Consecutive _ _ (Store.save slot _).state.nextId
        rw [save_nextId]
        exact hgiven

theorem commit_named {factory : Nat → Bucket α} {e : Commitment α} {s : Store α φ}
    {id : Option Nat} (h : (s.commit factory e).value = .ok id) :
    (e.id ≠ none → id = e.id) ∧ (e.id = none → (s.handed factory e).map some = [id]) := by
  simp only [commit] at h
  simp only [handed]
  generalize s.fetch factory e.deliveryTime = fetched at h ⊢
  obtain ⟨value, state, notes⟩ := fetched
  cases value with
  | error error => cases h
  | ok slot =>
    dsimp only at h ⊢
    split at h
    · cases h
    · next hassigned =>
      split at h
      · cases h
        exact assign_named hassigned
      · cases h

end Store
end BucketClock
