import BucketClock.Proofs.Store.Harmless
import BucketClock.Proofs.Store.Withdrawal

/-!
Orderly stores whose failing saves keep their commitments. Every call leaves such
a store as orderly as it was, whatever the factory makes. A commit that fails
leaves the stored buckets alone, or stores the bucket that the factory made
(`Committed.stored`). Where the factory makes empty buckets a commit appends to one
bucket or changes no contents (`Committed.contents`).
-/

namespace BucketClock.Store

variable {α φ : Type}

/-! ## Orderly stores -/

/-- Making slots and changing buckets under their ids keeps a store orderly. -/
theorem Orderly.kept {s s' : Store α φ} (h : s.Orderly) (hshelf : s'.shelf = s.shelf)
    (hnext : s.nextSlot ≤ s'.nextSlot)
    (hbucket : ∀ i < s.nextSlot, (s'.bucket i).id = (s.bucket i).id) : s'.Orderly := by
  have hlookup : ∀ j, s'.lookup j = s.lookup j := by
    intro j
    rw [lookup, hshelf]
    rfl
  refine ⟨?_, ?_, ?_⟩
  · rw [hshelf]
    exact h.sorted
  · intro j i hi
    rw [hlookup] at hi
    exact Nat.lt_of_lt_of_le (h.made j i hi) hnext
  · intro j i hi
    rw [hlookup] at hi
    rw [hbucket i (h.made j i hi)]
    exact h.own j i hi

/-- No other id leads to the slot that a look-up answers. -/
theorem Orderly.slotFor_ne {s : Store α φ} (h : s.Orderly) (factory : Nat → Bucket α)
    {id j : Nat} {i : Slot} (hi : s.lookup j = some i) (hj : j ≠ (s.bucketFor factory id).id) :
    s.slotFor id ≠ i := by
  rintro rfl
  have hmade := h.made j _ hi
  apply hj
  rw [bucketFor_eq hmade factory, h.own j _ hi]

/-- Storing the slot that a look-up answers, under the id of its bucket. -/
theorem Orderly.stock {s s' : Store α φ} (h : s.Orderly) {factory : Nat → Bucket α} {id : Nat}
    (hshelf : s'.shelf = s.shelf.insert (s.bucketFor factory id).id (s.slotFor id))
    (hnext : s.nextSlot ≤ s'.nextSlot) (hmade : s.slotFor id < s'.nextSlot)
    (hown : (s'.bucket (s.slotFor id)).id = (s.bucketFor factory id).id)
    (hbucket : ∀ i < s.nextSlot, s.slotFor id ≠ i → s'.bucket i = s.bucket i) :
    s'.Orderly ∧ ∀ j, s'.lookup j =
      if j = (s.bucketFor factory id).id then some (s.slotFor id) else s.lookup j := by
  have hlookup : ∀ j, s'.lookup j =
      if j = (s.bucketFor factory id).id then some (s.slotFor id) else s.lookup j := by
    intro j
    rw [lookup, hshelf, Shelf.find?_insert]
    rfl
  refine ⟨⟨?_, ?_, ?_⟩, hlookup⟩
  · rw [hshelf]
    exact Shelf.keys_insert_sorted h.sorted _ _
  · intro j i hi
    rw [hlookup] at hi
    split at hi
    · rw [← Option.some.inj hi]
      exact hmade
    · exact Nat.lt_of_lt_of_le (h.made j i hi) hnext
  · intro j i hi
    rw [hlookup] at hi
    split at hi
    · next heq => rw [← Option.some.inj hi, hown, heq]
    · next hne =>
      rw [hbucket i (h.made j i hi) (h.slotFor_ne factory hi hne)]
      exact h.own j i hi

/-- What a look-up answers where missing buckets are made empty. -/
theorem Orderly.bucketFor_empty {s : Store α φ} (h : s.Orderly) (id : Nat) :
    s.bucketFor .empty id = ⟨id, s.contents id⟩ := by
  cases hl : s.lookup id with
  | some slot =>
    rw [contents_of_lookup hl]
    simp only [bucketFor, hl]
    exact congrArg (Bucket.mk · (s.bucket slot).events) (h.own id slot hl)
  | none =>
    rw [contents_of_none hl]
    simp only [bucketFor, hl]
    rfl

theorem Orderly.stock_contents {s s' : Store α φ} (h : s.Orderly) {id : Nat}
    (hlookup : ∀ j, s'.lookup j = if j = id then some (s.slotFor id) else s.lookup j)
    (hbucket : ∀ i < s.nextSlot, s.slotFor id ≠ i → s'.bucket i = s.bucket i) (j : Nat) :
    s'.contents j = if j = id then (s'.bucket (s.slotFor id)).events else s.contents j := by
  split
  · next heq => rw [contents_of_lookup (by rw [hlookup, if_pos heq])]
  · next hne =>
    have hsame : s'.lookup j = s.lookup j := by rw [hlookup, if_neg hne]
    cases hl : s.lookup j with
    | none => rw [contents_of_none (hsame.trans hl), contents_of_none hl]
    | some i =>
      have hother : s.slotFor id ≠ i := by
        apply h.slotFor_ne .empty hl
        rw [h.bucketFor_empty id]
        exact hne
      rw [contents_of_lookup (hsame.trans hl), contents_of_lookup hl,
        hbucket i (h.made j i hl) hother]

/-- Contents are read off the shelf and the slots on it. -/
theorem Orderly.contents_kept {s s' : Store α φ} (h : s.Orderly) (hshelf : s'.shelf = s.shelf)
    (hbucket : ∀ i < s.nextSlot, s'.bucket i = s.bucket i) (j : Nat) :
    s'.contents j = s.contents j := by
  have hsame : s'.lookup j = s.lookup j := by
    rw [lookup, hshelf]
    rfl
  cases hl : s.lookup j with
  | none => rw [contents_of_none (hsame.trans hl), contents_of_none hl]
  | some i =>
    rw [contents_of_lookup (hsame.trans hl), contents_of_lookup hl, hbucket i (h.made j i hl)]

/-- The stored buckets are read off the shelf and its slots. -/
theorem stored_congr {s s' : Store α φ} (h : s.shelf.keys.Pairwise (· < ·))
    (hshelf : s'.shelf = s.shelf)
    (hbucket : ∀ j i, s.lookup j = some i → s'.bucket i = s.bucket i) : s'.stored = s.stored := by
  rw [stored, stored, hshelf]
  apply List.map_congr_left
  rintro ⟨j, i⟩ hmem
  rw [hbucket j i ((Shelf.mem_entries_iff h j i).mp hmem)]

/-- The stored buckets before and after a bucket that was made for `id` is stored: it joins them
under its own id. If that is not `id`, it may stand in place of the one stored there. -/
inductive Restocked (id : Nat) (b : Bucket α) :
    List (Nat × Bucket α) → List (Nat × Bucket α) → Prop
  | joined (front back : List (Nat × Bucket α)) :
      Restocked id b (front ++ back) (front ++ (b.id, b) :: back)
  | replaced (front back : List (Nat × Bucket α)) (old : Bucket α) (misnamed : b.id ≠ id) :
      Restocked id b (front ++ (b.id, old) :: back) (front ++ (b.id, b) :: back)

/-- The next slot is stored with a bucket that was made because `id` was missing. -/
theorem Orderly.restocked {s s' : Store α φ} (h : s.Orderly) {id : Nat} {b : Bucket α}
    (hmissing : s.lookup id = none) (hshelf : s'.shelf = s.shelf.insert b.id s.nextSlot)
    (hslot : s'.bucket s.nextSlot = b) (hbucket : ∀ i < s.nextSlot, s'.bucket i = s.bucket i) :
    Restocked id b s.stored s'.stored := by
  have hkept : ∀ es : List (Nat × Slot), (∀ a ∈ es, a ∈ s.shelf.entries) →
      es.map (fun a => (a.1, s'.bucket a.2)) = es.map fun a => (a.1, s.bucket a.2) := by
    intro es hes
    refine List.map_congr_left fun a ha => ?_
    rw [hbucket a.2 (h.made a.1 a.2 ((Shelf.mem_entries_iff h.sorted a.1 a.2).mp (hes a ha)))]
  obtain ⟨front, back, hinserted, hentries⟩ := s.shelf.entries_insert b.id s.nextSlot
  have hafter : s'.stored = front.map (fun a => (a.1, s'.bucket a.2)) ++
      (b.id, b) :: back.map fun a => (a.1, s'.bucket a.2) := by
    rw [stored, hshelf, hinserted, List.map_append, List.map_cons, hslot]
  rcases hentries with hentries | ⟨old, hentries⟩
  · have hbefore : s.stored = front.map (fun a => (a.1, s.bucket a.2)) ++
        back.map fun a => (a.1, s.bucket a.2) := by
      rw [stored, hentries, List.map_append]
    rw [hafter, hbefore, hkept front fun a ha => hentries ▸ List.mem_append_left _ ha,
      hkept back fun a ha => hentries ▸ List.mem_append_right _ ha]
    exact .joined _ _
  · have hbefore : s.stored = front.map (fun a => (a.1, s.bucket a.2)) ++
        (b.id, s.bucket old) :: back.map fun a => (a.1, s.bucket a.2) := by
      rw [stored, hentries, List.map_append, List.map_cons]
    have hold : s.lookup b.id = some old := by
      refine (Shelf.mem_entries_iff h.sorted b.id old).mp ?_
      rw [hentries]
      exact List.mem_append_right _ List.mem_cons_self
    rw [hafter, hbefore, hkept front fun a ha => hentries ▸ List.mem_append_left _ ha,
      hkept back fun a ha => hentries ▸ List.mem_append_right _ (List.mem_cons_of_mem _ ha)]
    refine .replaced _ _ _ fun heq => ?_
    rw [heq, hmissing] at hold
    cases hold

/-! ## Commits -/

variable [Outage φ]

theorem Committed.orderly {factory : Nat → Bucket α} {e : Commitment α} {s s' : Store α φ}
    {value : Except (Refusal α) (Option Nat)} (hc : Committed factory e s value s')
    (h : s.Orderly) : s'.Orderly := by
  cases hc with
  | done _ _ hnext hmade hshelf hbucket =>
    refine (h.stock hshelf hnext hmade ?_ ?_).1
    · rw [hbucket, if_pos rfl]
      rfl
    · intro i _ hne
      rw [hbucket, if_neg hne]
  | failed _ _ _ hnext hbucket hshelf =>
    rcases hshelf with hshelf | ⟨_, _, hmade, hslot, hshelf⟩
    · exact h.kept hshelf hnext fun i hi => congrArg Bucket.id (hbucket i hi)
    · exact (h.stock hshelf hnext hmade (congrArg Bucket.id hslot) fun i hi _ => hbucket i hi).1

/-- A commit that fails leaves the stored buckets alone. Only a save that took effect may store
one, and that is the bucket that the factory made. -/
theorem Committed.stored {factory : Nat → Bucket α} {e : Commitment α} {s s' : Store α φ}
    {refusal : Refusal α} (hc : Committed factory e s (.error refusal) s') (h : s.Orderly) :
    ∃ f, Outage.firstFailure s.outage (s.commitCalls factory e) = some f ∧
      refusal.error = f.error ∧ s.nextId ≤ s'.nextId ∧
      (∀ i < s.nextSlot, s'.bucket i = s.bucket i) ∧
      (s'.stored = s.stored ∨
        f.effect = .applied ∧
          Outage.firstFailure s.outage (s.commitCalls factory e).dropLast = none ∧
          s.lookup e.deliveryTime = none ∧
          Restocked e.deliveryTime (factory e.deliveryTime) s.stored s'.stored) := by
  cases hc with
  | @failed f _ _ hcalls _ hnextId _ hbucket hshelf =>
    refine ⟨f, hcalls, rfl, hnextId, hbucket, ?_⟩
    have hkept : ∀ j i, s.lookup j = some i → s'.bucket i = s.bucket i :=
      fun j i hi => hbucket i (h.made j i hi)
    rcases hshelf with hshelf | ⟨heffect, hbefore, _, hslot, hshelf⟩
    · exact Or.inl (stored_congr h.sorted hshelf hkept)
    · cases hl : s.lookup e.deliveryTime with
      | some slot =>
        -- the bucket was stored before, and is stored again in its place
        left
        simp only [bucketFor, slotFor, hl, Option.getD_some, h.own _ slot hl] at hshelf
        rw [Shelf.insert_of_find? h.sorted hl] at hshelf
        exact stored_congr h.sorted hshelf hkept
      | none =>
        right
        simp only [bucketFor, slotFor, hl, Option.getD_none] at hslot hshelf
        exact ⟨heffect, hbefore, rfl, h.restocked hl hshelf hslot hbucket⟩

/-- Where missing buckets are made empty, a commit appends to one bucket or changes no contents. -/
theorem Committed.contents {e : Commitment α} {s s' : Store α φ}
    {value : Except (Refusal α) (Option Nat)} (hc : Committed .empty e s value s')
    (h : s.Orderly) (id : Nat) :
    s'.contents id = s.contents id ++ Commitment.dueAt id
      (match value with
        | .ok identity => [{ e with id := identity }]
        | .error _ => []) := by
  have hserved := h.bucketFor_empty e.deliveryTime
  cases hc with
  | done _ _ hnext hmade hshelf hbucket =>
    have hslot := hbucket (s.slotFor e.deliveryTime)
    have hother : ∀ i < s.nextSlot, s.slotFor e.deliveryTime ≠ i → s'.bucket i = s.bucket i := by
      intro i _ hne
      rw [hbucket, if_neg hne]
    rw [if_pos rfl] at hslot
    obtain ⟨_, hlookup⟩ := h.stock hshelf hnext hmade (by rw [hslot]; rfl) hother
    rw [hserved] at hlookup
    rw [h.stock_contents hlookup hother, hslot, hserved]
    split
    · next heq =>
      rw [heq, Commitment.dueAt_eq_self]
      · rfl
      · intro e' he'
        rw [List.mem_singleton.mp he']
    · next hne =>
      rw [Commitment.dueAt_eq_nil, List.append_nil]
      intro e' he'
      rw [List.mem_singleton.mp he']
      exact Ne.symm hne
  | failed _ _ _ hnext hbucket hshelf =>
    refine Eq.trans ?_ (List.append_nil _).symm
    rcases hshelf with hshelf | ⟨_, _, hmade, hslot, hshelf⟩
    · exact h.contents_kept hshelf hbucket id
    · have hother : ∀ i < s.nextSlot, s.slotFor e.deliveryTime ≠ i → s'.bucket i = s.bucket i :=
        fun i hi _ => hbucket i hi
      obtain ⟨_, hlookup⟩ := h.stock hshelf hnext hmade (congrArg Bucket.id hslot) hother
      rw [hserved] at hlookup
      rw [h.stock_contents hlookup hother, hslot, hserved]
      split
      · next heq => rw [heq]
      · rfl

/-! ## Sturdy stores -/

/-- An orderly store whose failing saves keep the commitments. -/
structure Sturdy (s : Store α φ) : Prop where
  orderly : s.Orderly
  keeps : Outage.KeepsEvents s.outage

theorem sturdy_empty {outage : φ} (h : Outage.KeepsEvents outage) :
    (Store.empty outage : Store α φ).Sturdy := by
  have hnone : ∀ id, (Store.empty outage : Store α φ).lookup id = none := fun _ => rfl
  refine ⟨⟨.nil, ?_, ?_⟩, h⟩
  · intro id slot hslot
    rw [hnone] at hslot
    cases hslot
  · intro id slot hslot
    rw [hnone] at hslot
    cases hslot

theorem Sturdy.commit {s : Store α φ} (h : s.Sturdy) (factory : Nat → Bucket α)
    (e : Commitment α) : (s.commit factory e).state.Sturdy :=
  ⟨(commit_committed h.orderly h.keeps factory e).orderly h.orderly,
    h.keeps.asked (commit_asked factory e s)⟩

theorem Sturdy.fetch {s : Store α φ} (h : s.Sturdy) (factory : Nat → Bucket α) (id : Nat) :
    (s.fetch factory id).state.Sturdy := by
  refine ⟨?_, h.keeps.asked (fetch_consulted factory id s).asked⟩
  cases hget : (Outage.meet s.outage (.get id)).1 with
  | some f =>
    rw [fetch_failed hget]
    exact h.orderly.kept rfl (Nat.le_refl _) fun _ _ => rfl
  | none =>
    obtain ⟨_, _, hprepared⟩ := fetch_done h.orderly hget factory
    exact h.orderly.kept hprepared.shelf hprepared.nextSlot
      fun i hi => congrArg Bucket.id (hprepared.kept i hi)

theorem Sturdy.remove {s : Store α φ} (h : s.Sturdy) (id : Nat) :
    (s.remove id).state.Sturdy := by
  have hasked : (s.asked (.remove id)).Orderly := h.orderly.kept rfl (Nat.le_refl _) fun _ _ => rfl
  refine ⟨?_, h.keeps.asked (remove_asked id s)⟩
  simp only [Store.remove]
  split
  · split
    · exact (hasked.erase id).1
    · exact hasked
  · exact (hasked.erase id).1

/-- A bucket may be changed under its id. -/
theorem Sturdy.update {s : Store α φ} (h : s.Sturdy) {slot : Slot} {b : Bucket α}
    (hb : b.id = (s.bucket slot).id) : (s.update slot b).Sturdy := by
  refine ⟨h.orderly.kept rfl (Nat.le_refl _) ?_, h.keeps⟩
  intro i _
  rw [bucket_update]
  split
  · next heq => rw [← heq, hb]
  · rfl

end BucketClock.Store
