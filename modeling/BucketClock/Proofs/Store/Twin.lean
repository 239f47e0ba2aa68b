import BucketClock.Proofs.Alike
import BucketClock.Proofs.Store.Calm
import BucketClock.Proofs.Store.Identity
import Mathlib.Data.List.Sort

/-!
Twin stores. Two stores that never fail are twins when they hold the same
commitments in the same order under the same ids and are to hand out the same
identity next. Their buckets may lie in different slots, as slots are given out
in the order in which buckets are made. What is stored in twins is the same
(`Twin.stored`), and no call tells them apart: they answer a commit the same way
and stay twins (`Twin.commit`).
-/

namespace BucketClock.Store

variable {α : Type}

/-! ## What is stored, by contents -/

/-- The stored buckets are read off the ids on the shelf and the contents under them. -/
theorem Orderly.stored_eq {φ : Type} {s : Store α φ} (h : s.Orderly) :
    s.stored = s.bucketIds.map fun id => (id, ⟨id, s.contents id⟩) := by
  rw [stored, bucketIds, Shelf.keys, List.map_map]
  apply List.map_congr_left
  rintro ⟨id, slot⟩ hmem
  have hl : s.lookup id = some slot := (Shelf.mem_entries_iff h.sorted id slot).mp hmem
  simp only [Function.comp_apply, contents_of_lookup hl]
  exact congrArg (fun own => (id, Bucket.mk own (s.bucket slot).events)) (h.own id slot hl)

/-- Two orderly stores with the same ids have them in the same order. -/
theorem Orderly.bucketIds_ext {φ : Type} {s s' : Store α φ} (h : s.Orderly) (h' : s'.Orderly)
    (hids : ∀ id, id ∈ s.bucketIds ↔ id ∈ s'.bucketIds) : s.bucketIds = s'.bucketIds :=
  List.Pairwise.eq_of_mem_iff h.sorted h'.sorted hids

theorem lookup_isSome_iff {φ : Type} (id : Nat) (s : Store α φ) :
    (s.lookup id).isSome = true ↔ id ∈ s.bucketIds := by
  rw [Option.isSome_iff_exists]
  exact (Shelf.mem_keys_iff id s.shelf).symm

/-- Emptying the slot that serves a bucket. -/
theorem Serves.emptied {φ : Type} {s : Store α φ} {id : Nat} {slot : Slot} (hs : s.Serves id slot)
    (h : s.Orderly) :
    (s.update slot ⟨id, []⟩).Orderly ∧
      ∀ j, (s.update slot ⟨id, []⟩).contents j = if j = id then [] else s.contents j := by
  obtain ⟨horderly, hcontents⟩ := h.clear hs.own
  refine ⟨horderly, fun j => ?_⟩
  rw [hcontents]
  by_cases hj : s.lookup j = some slot
  · rw [if_pos hj, if_pos ((h.own j slot hj).symm.trans hs.own)]
  · rw [if_neg hj]
    split
    · next heq =>
      apply contents_of_none
      cases hl : s.lookup j with
      | none => rfl
      | some other =>
        rw [heq] at hl hj
        rw [hs.only other hl] at hl
        exact absurd hl hj
    · rfl

/-! ## Calls on a store that never fails -/

/-- What a fetch tells, and that it leaves the shelf alone. -/
theorem fetch_calm (factory : Nat → Bucket α) (id : Nat) (s : Store α Unit) :
    (s.fetch factory id).state.shelf = s.shelf ∧ (s.fetch factory id).notes =
      [.called (.get id) (if (s.lookup id).isSome then .hit else .miss)] := by
  have hget : s.get id = ⟨.ok (s.lookup id), s,
    [.called (.get id) (if (s.lookup id).isSome then .hit else .miss)]⟩ := rfl
  simp only [fetch, hget]
  cases s.lookup id with
  | some slot => exact ⟨rfl, rfl⟩
  | none => exact ⟨rfl, rfl⟩

theorem identify_calm (e : Commitment α) (s : Store α Unit) :
    (s.identify e).2.shelf = s.shelf ∧ (s.identify e).2.buckets = s.buckets ∧
      (s.identify e).2.nextId = (if e.id = none then s.nextId + 1 else s.nextId) := by
  cases hid : e.id with
  | none =>
    simp only [identify, hid]
    exact ⟨trivial, trivial, rfl⟩
  | some id =>
    simp only [identify, hid]
    exact ⟨trivial, trivial, rfl⟩

/-- A commit leaves the ids of the stored buckets and that of its own, and uses an identity up if
the commitment had none. -/
theorem commit_calm {s : Store α Unit} (h : s.Orderly) (e : Commitment α) :
    (∀ id, id ∈ (s.commit .empty e).state.bucketIds ↔ id = e.deliveryTime ∨ id ∈ s.bucketIds) ∧
      (s.commit .empty e).state.nextId = (if e.id = none then s.nextId + 1 else s.nextId) ∧
      (s.commit .empty e).notes =
        [.called (.get e.deliveryTime) (if (s.lookup e.deliveryTime).isSome then .hit else .miss),
          .called (.assign e.deliveryTime) .done, .called (.save e.deliveryTime) .done] := by
  obtain ⟨slot, s₁, hvalue, hfetched, _, _, hserves, _, _⟩ := fetch_serves h e.deliveryTime
  obtain ⟨hshelf, hnotes⟩ := fetch_calm Bucket.empty e.deliveryTime s
  have hnext := fetch_nextId Bucket.empty e.deliveryTime s
  rw [hfetched] at hshelf hnext
  obtain ⟨hshelf', hbuckets, hnext'⟩ := identify_calm e s₁
  have hown : ((s₁.identify e).2.bucket slot).id = e.deliveryTime := by
    rw [bucket, hbuckets]
    exact hserves.own
  -- the slot is saved under the id of the bucket in it
  have hkey : (((s₁.identify e).2.update slot
      (((s₁.identify e).2.bucket slot).commit (s₁.identify e).1)).bucket slot).id =
        e.deliveryTime := by
    rw [bucket_update, if_pos rfl]
    exact hown
  have hsaved : (s.commit .empty e).state.shelf = s.shelf.insert e.deliveryTime slot := by
    simp only [commit, hvalue, hfetched]
    refine (congrArg (Shelf.insert · slot (s₁.identify e).2.shelf) hkey).trans ?_
    rw [hshelf', hshelf]
  refine ⟨?_, ?_, ?_⟩
  · intro id
    rw [← lookup_isSome_iff, ← lookup_isSome_iff, lookup, hsaved, Shelf.find?_insert]
    by_cases hid : id = e.deliveryTime
    · simp [hid]
    · rw [if_neg hid, or_iff_right hid]
      rfl
  · simp only [commit, hvalue, hfetched]
    exact hnext'.trans (by rw [hnext])
  · simp only [commit, hvalue, hfetched, hnotes]
    exact congrArg (fun key => [_, _, Note.called (.save key) .done]) hkey

/-! ## Twins -/

/-- The same contents under the same ids, and the same identity for the next commitment. -/
structure Twin (s s' : Store α Unit) : Prop where
  left : s.Orderly
  right : s'.Orderly
  contents : ∀ id, s.contents id = s'.contents id
  ids : ∀ id, id ∈ s.bucketIds ↔ id ∈ s'.bucketIds
  nextId : s.nextId = s'.nextId

theorem Twin.stored {s s' : Store α Unit} (h : s.Twin s') : s.stored = s'.stored := by
  rw [h.left.stored_eq, h.right.stored_eq, h.left.bucketIds_ext h.right h.ids]
  simp only [h.contents]

theorem Twin.identity {s s' : Store α Unit} (h : s.Twin s') (e : Commitment α) :
    s.identity e = s'.identity e := by
  rw [Store.identity, Store.identity, h.nextId]

theorem Twin.lookup_isSome {s s' : Store α Unit} (h : s.Twin s') (id : Nat) :
    (s.lookup id).isSome = (s'.lookup id).isSome := by
  rw [Bool.eq_iff_iff, lookup_isSome_iff, lookup_isSome_iff]
  exact h.ids id

/-- Twins answer a commit the same way, and stay twins. -/
theorem Twin.commit {s s' : Store α Unit} (h : s.Twin s') (e : Commitment α) :
    (s.commit .empty e).value = (s'.commit .empty e).value ∧
      (s.commit .empty e).notes = (s'.commit .empty e).notes ∧
      (s.commit .empty e).state.Twin (s'.commit .empty e).state := by
  have hfiled := commit_appends h.left e
  have hfiled' := commit_appends h.right e
  obtain ⟨hids, hnext, hnotes⟩ := commit_calm h.left e
  obtain ⟨hids', hnext', hnotes'⟩ := commit_calm h.right e
  refine ⟨?_, ?_, hfiled.orderly, hfiled'.orderly, ?_, ?_, ?_⟩
  · rw [commit_ok, commit_ok, h.identity]
  · rw [hnotes, hnotes', h.lookup_isSome]
  · intro id
    rw [hfiled.contents_dueAt, hfiled'.contents_dueAt, h.contents, h.identity]
  · intro id
    rw [hids, hids', h.ids]
  · rw [hnext, hnext', h.nextId]

/-- A fetch from twins finds slots that serve the same bucket. -/
theorem Twin.fetch {s s' : Store α Unit} (h : s.Twin s') (id : Nat) :
    ∃ slot slot', (s.fetch .empty id).value = .ok slot ∧ (s'.fetch .empty id).value = .ok slot' ∧
      (s.fetch .empty id).notes = (s'.fetch .empty id).notes ∧
      (s.fetch .empty id).state.Twin (s'.fetch .empty id).state ∧
      (s.fetch .empty id).state.Serves id slot ∧ (s'.fetch .empty id).state.Serves id slot' := by
  obtain ⟨slot, s₁, hvalue, hstate, horderly, hcontents, hserves, _, _⟩ := fetch_serves h.left id
  obtain ⟨slot', s₁', hvalue', hstate', horderly', hcontents', hserves', _, _⟩ :=
    fetch_serves h.right id
  obtain ⟨hshelf, hnotes⟩ := fetch_calm Bucket.empty id s
  obtain ⟨hshelf', hnotes'⟩ := fetch_calm Bucket.empty id s'
  rw [hstate] at hshelf
  rw [hstate'] at hshelf'
  refine ⟨slot, slot', hvalue, hvalue', ?_, ?_, hstate ▸ hserves, hstate' ▸ hserves'⟩
  · rw [hnotes, hnotes', h.lookup_isSome]
  · refine ⟨hstate ▸ horderly, hstate' ▸ horderly', ?_, ?_, ?_⟩
    · intro j
      rw [hstate, hstate', hcontents, hcontents', h.contents]
    · intro j
      rw [hstate, hstate', bucketIds, bucketIds, hshelf, hshelf']
      exact h.ids j
    · rw [fetch_nextId, fetch_nextId, h.nextId]

/-- The slots of a bucket are emptied in both. -/
theorem Twin.emptied {s s' : Store α Unit} (h : s.Twin s') {id : Nat} {slot slot' : Slot}
    (hs : s.Serves id slot) (hs' : s'.Serves id slot') :
    (s.update slot ⟨id, []⟩).Twin (s'.update slot' ⟨id, []⟩) := by
  obtain ⟨horderly, hcontents⟩ := hs.emptied h.left
  obtain ⟨horderly', hcontents'⟩ := hs'.emptied h.right
  refine ⟨horderly, horderly', ?_, h.ids, h.nextId⟩
  intro j
  rw [hcontents, hcontents', h.contents]

theorem Twin.erase {s s' : Store α Unit} (h : s.Twin s') (id : Nat) :
    (s.erase id).Twin (s'.erase id) := by
  obtain ⟨horderly, hlookup, hcontents⟩ := h.left.erase id
  obtain ⟨horderly', hlookup', hcontents'⟩ := h.right.erase id
  refine ⟨horderly, horderly', ?_, ?_, h.nextId⟩
  · intro j
    rw [hcontents, hcontents', h.contents]
  · intro j
    rw [← lookup_isSome_iff, ← lookup_isSome_iff, hlookup, hlookup']
    split
    · exact Iff.rfl
    · rw [h.lookup_isSome]

end BucketClock.Store
