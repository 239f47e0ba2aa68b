import BucketClock.Proofs.Commitment
import BucketClock.Proofs.Store.Outage
import BucketClock.Proofs.Store.Shelf
import BucketClock.Store.Basic

/-!
What a store holds, seen through its shelf and its slots. `Store.contents` lists
the commitments stored under an id. In an `Orderly` store shelf keys ascend and a
stored slot holds the bucket of its key; it is `Tidy` if in addition no
commitment lies in a slot that is off the shelf, which makes the view exact.
Storing a slot that serves a bucket changes the contents of that bucket only
(`Serves.insert`, `Serves.store`).
-/

namespace BucketClock

namespace Store

variable {α φ : Type}

def contents (id : Nat) (s : Store α φ) : List (Commitment α) :=
  match s.lookup id with
  | some slot => (s.bucket slot).events
  | none => []

structure Tidy (s : Store α φ) : Prop where
  sorted : s.shelf.keys.Pairwise (· < ·)
  made : ∀ id slot, s.lookup id = some slot → slot < s.nextSlot
  own : ∀ id slot, s.lookup id = some slot → (s.bucket slot).id = id
  shelved : ∀ slot, (s.bucket slot).events ≠ [] → ∃ id, s.lookup id = some slot

/-- What is left of a tidy store where slots off the shelf may hold anything. -/
structure Orderly (s : Store α φ) : Prop where
  sorted : s.shelf.keys.Pairwise (· < ·)
  made : ∀ id slot, s.lookup id = some slot → slot < s.nextSlot
  own : ∀ id slot, s.lookup id = some slot → (s.bucket slot).id = id

theorem Tidy.orderly {s : Store α φ} (h : s.Tidy) : s.Orderly := ⟨h.sorted, h.made, h.own⟩

theorem Orderly.tidy {s : Store α φ} (h : s.Orderly)
    (hshelved : ∀ slot, (s.bucket slot).events ≠ [] → ∃ id, s.lookup id = some slot) : s.Tidy :=
  ⟨h.sorted, h.made, h.own, hshelved⟩

/-- The slot holds bucket `id` as it is stored, or stands ready for it if it is not stored. -/
structure Serves (id : Nat) (slot : Slot) (s : Store α φ) : Prop where
  made : slot < s.nextSlot
  own : (s.bucket slot).id = id
  events : (s.bucket slot).events = s.contents id
  only : ∀ other, s.lookup id = some other → other = slot

theorem contents_of_lookup {id : Nat} {slot : Slot} {s : Store α φ} (h : s.lookup id = some slot) :
    s.contents id = (s.bucket slot).events := by
  simp [contents, h]

theorem contents_of_none {id : Nat} {s : Store α φ} (h : s.lookup id = none) :
    s.contents id = [] := by
  simp [contents, h]

/-- Contents are read off the shelf and the slots. -/
theorem contents_congr {s s' : Store α φ} (hlookup : ∀ id, s'.lookup id = s.lookup id)
    (hbucket : ∀ slot, s'.bucket slot = s.bucket slot) (id : Nat) :
    s'.contents id = s.contents id := by
  simp only [contents, hlookup, hbucket]

theorem mem_bucketIds_of_contents {id : Nat} {s : Store α φ} (h : s.contents id ≠ []) :
    id ∈ s.bucketIds := by
  apply (Shelf.mem_keys_iff id s.shelf).mpr
  cases hl : s.lookup id with
  | none => exact absurd (contents_of_none hl) h
  | some slot => exact ⟨slot, hl⟩

theorem Orderly.serves {s : Store α φ} (h : s.Orderly) {id : Nat} {slot : Slot}
    (hl : s.lookup id = some slot) : s.Serves id slot := by
  refine ⟨h.made id slot hl, h.own id slot hl, (contents_of_lookup hl).symm, ?_⟩
  intro other ho
  rw [hl] at ho
  exact (Option.some.inj ho).symm

theorem Tidy.serves {s : Store α φ} (h : s.Tidy) {id : Nat} {slot : Slot}
    (hl : s.lookup id = some slot) : s.Serves id slot :=
  h.orderly.serves hl

/-! ## Changes of the shelf and the slots -/

/-- Storing a served slot whose bucket is `b` replaces the contents of one id. -/
theorem Serves.insert {s s' : Store α φ} {id : Nat} {slot : Slot} {b : Bucket α}
    (hs : s.Serves id slot) (h : s.Orderly) (hb : b.id = id)
    (hshelf : s'.shelf = s.shelf.insert id slot)
    (hbucket : ∀ i, s'.bucket i = if slot = i then b else s.bucket i)
    (hnext : s'.nextSlot = s.nextSlot) :
    s'.Orderly ∧ ∀ j, s'.contents j = if j = id then b.events else s.contents j := by
  have hlookup : ∀ j, s'.lookup j = if j = id then some slot else s.lookup j := by
    intro j
    rw [lookup, hshelf, Shelf.find?_insert]
    rfl
  have hother : ∀ j, j ≠ id → ∀ i, s.lookup j = some i → slot ≠ i := by
    rintro j hj i hi rfl
    exact hj ((h.own j slot hi).symm.trans hs.own)
  constructor
  · refine ⟨?_, ?_, ?_⟩
    · rw [hshelf]
      exact Shelf.keys_insert_sorted h.sorted id slot
    · intro j i hi
      rw [hnext]
      rw [hlookup] at hi
      split at hi
      · rw [← Option.some.inj hi]
        exact hs.made
      · exact h.made j i hi
    · intro j i hi
      rw [hlookup] at hi
      split at hi
      · next hj => rw [← Option.some.inj hi, hbucket, if_pos rfl, hb, hj]
      · next hj => rw [hbucket, if_neg (hother j hj i hi), h.own j i hi]
  · intro j
    by_cases hj : j = id
    · rw [if_pos hj, contents_of_lookup (by rw [hlookup, if_pos hj]), hbucket, if_pos rfl]
    · rw [if_neg hj]
      have hl : s'.lookup j = s.lookup j := by rw [hlookup, if_neg hj]
      cases hi : s.lookup j with
      | none => rw [contents_of_none (hl.trans hi), contents_of_none hi]
      | some i =>
        rw [contents_of_lookup (hl.trans hi), contents_of_lookup hi, hbucket,
          if_neg (hother j hj i hi)]

theorem Serves.store {s s' : Store α φ} {id : Nat} {slot : Slot} {b : Bucket α}
    (hs : s.Serves id slot) (h : s.Tidy) (hb : b.id = id)
    (hshelf : s'.shelf = s.shelf.insert id slot)
    (hbucket : ∀ i, s'.bucket i = if slot = i then b else s.bucket i)
    (hnext : s'.nextSlot = s.nextSlot) :
    s'.Tidy ∧ ∀ j, s'.contents j = if j = id then b.events else s.contents j := by
  obtain ⟨horderly, hcontents⟩ := hs.insert h.orderly hb hshelf hbucket hnext
  refine ⟨horderly.tidy ?_, hcontents⟩
  have hlookup : ∀ j, s'.lookup j = if j = id then some slot else s.lookup j := by
    intro j
    rw [lookup, hshelf, Shelf.find?_insert]
    rfl
  intro i hi
  rw [hbucket] at hi
  split at hi
  · next heq => exact ⟨id, by rw [hlookup, if_pos rfl, heq]⟩
  · next hne =>
    obtain ⟨j, hj⟩ := h.shelved i hi
    refine ⟨j, ?_⟩
    rw [hlookup, if_neg, hj]
    rintro rfl
    exact hne (hs.only i hj).symm

theorem make_bucket_of_lookup {s : Store α φ} (h : s.Orderly) (b : Bucket α) {j : Nat} {i : Slot}
    (hi : s.lookup j = some i) : (s.make b).2.bucket i = s.bucket i := by
  rw [bucket_make, if_neg]
  exact Nat.ne_of_gt (h.made j i hi)

/-- A new slot for an empty bucket that is not stored. -/
theorem Orderly.make {s : Store α φ} (h : s.Orderly) {id : Nat} (hnone : s.lookup id = none) :
    (s.make (.empty id)).2.Orderly ∧
      (∀ j, (s.make (.empty id)).2.contents j = s.contents j) ∧
      (s.make (.empty id)).2.Serves id (s.make (.empty id)).1 := by
  have hlookup : ∀ j, (s.make (.empty id)).2.lookup j = s.lookup j := fun _ => rfl
  have hcontents : ∀ j, (s.make (.empty id)).2.contents j = s.contents j := by
    intro j
    cases hi : s.lookup j with
    | none => rw [contents_of_none ((hlookup j).trans hi), contents_of_none hi]
    | some i =>
      rw [contents_of_lookup ((hlookup j).trans hi), contents_of_lookup hi,
        make_bucket_of_lookup h _ hi]
  refine ⟨⟨h.sorted, ?_, ?_⟩, hcontents, ⟨?_, ?_, ?_, ?_⟩⟩
  · intro j i hi
    exact Nat.lt_succ_of_lt (h.made j i hi)
  · intro j i hi
    rw [make_bucket_of_lookup h _ hi]
    exact h.own j i hi
  · exact Nat.lt_succ_self _
  · rw [bucket_make]
    exact congrArg Bucket.id (if_pos rfl)
  · rw [bucket_make, hcontents, contents_of_none hnone]
    exact congrArg Bucket.events (if_pos rfl)
  · intro other ho
    rw [hlookup, hnone] at ho
    cases ho

/-- Emptying the slot of a bucket touches the contents of that bucket only. -/
theorem Orderly.clear {s : Store α φ} (h : s.Orderly) {id : Nat} {slot : Slot}
    (hown : (s.bucket slot).id = id) :
    (s.update slot ⟨id, []⟩).Orderly ∧
      ∀ j, (s.update slot ⟨id, []⟩).contents j =
        if s.lookup j = some slot then [] else s.contents j := by
  have hlookup : ∀ j, (s.update slot ⟨id, []⟩).lookup j = s.lookup j := fun _ => rfl
  constructor
  · refine ⟨h.sorted, h.made, ?_⟩
    intro j i hi
    rw [bucket_update]
    split
    · next heq =>
      subst heq
      exact hown.symm.trans (h.own j slot hi)
    · exact h.own j i hi
  · intro j
    cases hi : s.lookup j with
    | none =>
      rw [contents_of_none ((hlookup j).trans hi), contents_of_none hi]
      split <;> rfl
    | some i =>
      rw [contents_of_lookup ((hlookup j).trans hi), contents_of_lookup hi, bucket_update]
      by_cases heq : slot = i
      · rw [if_pos heq, if_pos (congrArg some heq.symm)]
      · rw [if_neg heq, if_neg fun hsame => heq (Option.some.inj hsame).symm]

theorem Serves.clear {s : Store α φ} {id : Nat} {slot : Slot} (hs : s.Serves id slot) (h : s.Tidy) :
    (s.update slot ⟨id, []⟩).Tidy ∧
      ∀ j, (s.update slot ⟨id, []⟩).contents j = if j = id then [] else s.contents j := by
  obtain ⟨horderly, hcontents⟩ := h.orderly.clear hs.own
  refine ⟨horderly.tidy ?_, ?_⟩
  · intro i hi
    rw [bucket_update] at hi
    split at hi
    · exact absurd rfl hi
    · exact h.shelved i hi
  · intro j
    rw [hcontents]
    by_cases hj : j = id
    · rw [if_pos hj]
      split
      · rfl
      · next hne =>
        apply contents_of_none
        cases hi : s.lookup j with
        | none => rfl
        | some i =>
          rw [hj] at hi hne
          exact absurd (hs.only i hi ▸ hi) hne
    · rw [if_neg hj, if_neg]
      intro hi
      exact hj ((h.own j slot hi).symm.trans hs.own)

/-- Taking an id off the shelf takes its contents away. -/
theorem Orderly.erase {s : Store α φ} (h : s.Orderly) (id : Nat) :
    (s.erase id).Orderly ∧ (∀ j, (s.erase id).lookup j = if j = id then none else s.lookup j) ∧
      ∀ j, (s.erase id).contents j = if j = id then [] else s.contents j := by
  have hlookup : ∀ j, (s.erase id).lookup j = if j = id then none else s.lookup j :=
    fun j => Shelf.find?_erase id j s.shelf
  have hstored : ∀ j i, (s.erase id).lookup j = some i → s.lookup j = some i := by
    intro j i hi
    rw [hlookup] at hi
    split at hi
    · cases hi
    · exact hi
  refine ⟨⟨Shelf.keys_erase_sorted h.sorted id, ?_, ?_⟩, hlookup, ?_⟩
  · exact fun j i hi => h.made j i (hstored j i hi)
  · exact fun j i hi => h.own j i (hstored j i hi)
  · intro j
    by_cases hj : j = id
    · rw [if_pos hj, contents_of_none (by rw [hlookup, if_pos hj])]
    · simp only [contents, hlookup, if_neg hj]
      rfl

/-- Taking an id without contents off the shelf changes no contents. -/
theorem Tidy.erase {s : Store α φ} (h : s.Tidy) {id : Nat} (hempty : s.contents id = []) :
    (s.erase id).Tidy ∧ ∀ j, (s.erase id).contents j = s.contents j := by
  obtain ⟨horderly, hlookup, hcontents⟩ := h.orderly.erase id
  refine ⟨horderly.tidy ?_, ?_⟩
  · intro i hi
    obtain ⟨j, hj⟩ := h.shelved i hi
    refine ⟨j, ?_⟩
    rw [hlookup, if_neg, hj]
    rintro rfl
    exact hi ((contents_of_lookup hj).symm.trans hempty)
  · intro j
    rw [hcontents]
    split
    · next heq => rw [heq, hempty]
    · rfl

end Store
end BucketClock
