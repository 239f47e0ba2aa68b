import BucketClock.Proofs.Store.Contents

/-!
The calls on a store, through its contents. Looking a bucket up, asking for an
identity and removing an empty bucket change no contents, whether they fail or
not; a commit appends to one bucket or changes no contents (`commit_spec`).
-/

namespace BucketClock.Store

variable {α φ : Type} [Outage φ]

/-- A store in order whose failing saves keep their commitments. -/
structure Sane (s : Store α φ) : Prop where
  tidy : s.Tidy
  keeps : Outage.KeepsEvents s.outage

/-- What a step may do to a store when it files nothing: the contents stay, and only the given
bucket may be new on the shelf. -/
structure Steady (id : Nat) (s s' : Store α φ) : Prop where
  sane : s'.Sane
  ids : ∀ j ∈ s'.bucketIds, j ∈ s.bucketIds ∨ j = id
  contents : ∀ j, s'.contents j = s.contents j

theorem Sane.steady {s s' : Store α φ} (h : s.Sane) (id : Nat)
    (hkeeps : Outage.KeepsEvents s'.outage)
    (hshelf : s'.shelf = s.shelf) (hbucket : ∀ i, s'.bucket i = s.bucket i)
    (hnext : s'.nextSlot = s.nextSlot) : Steady id s s' := by
  have hlookup : ∀ j, s'.lookup j = s.lookup j := fun j => by rw [lookup, hshelf, lookup]
  refine ⟨⟨⟨?_, ?_, ?_, ?_⟩, hkeeps⟩, ?_, contents_congr hlookup hbucket⟩
  · rw [hshelf]
    exact h.tidy.sorted
  · intro j i hi
    rw [hnext]
    exact h.tidy.made j i (by rw [← hlookup, hi])
  · intro j i hi
    rw [hbucket]
    exact h.tidy.own j i (by rw [← hlookup, hi])
  · intro i hi
    rw [hbucket] at hi
    obtain ⟨j, hj⟩ := h.tidy.shelved i hi
    exact ⟨j, by rw [hlookup, hj]⟩
  · intro j hj
    rw [bucketIds, hshelf] at hj
    exact Or.inl hj

theorem Steady.trans {id : Nat} {s s' s'' : Store α φ} (h₁ : Steady id s s')
    (h₂ : Steady id s' s'') : Steady id s s'' := by
  refine ⟨h₂.sane, ?_, fun j => (h₂.contents j).trans (h₁.contents j)⟩
  intro j hj
  rcases h₂.ids j hj with hj | hj
  · exact h₁.ids j hj
  · exact Or.inr hj

/-! ## Looking a bucket up -/

/-- A new slot for an empty bucket that is not stored. -/
theorem make_spec {s : Store α φ} (h : s.Sane) {id : Nat} (hnone : s.lookup id = none) :
    Steady id s (s.make (.empty id)).2 ∧
      (s.make (.empty id)).2.Serves id (s.make (.empty id)).1 := by
  obtain ⟨horderly, hcontents, hserves⟩ := h.tidy.orderly.make hnone
  refine ⟨⟨⟨horderly.tidy ?_, h.keeps⟩, fun j hj => Or.inl hj, hcontents⟩, hserves⟩
  intro i hi
  rw [bucket_make] at hi
  split at hi
  · exact absurd rfl hi
  · exact h.tidy.shelved i hi

theorem fetch_spec {s : Store α φ} (h : s.Sane) (id : Nat) :
    Steady id s (s.fetch .empty id).state ∧
      ∀ slot, (s.fetch .empty id).value = .ok slot → (s.fetch .empty id).state.Serves id slot := by
  have hsteady : Steady id s { s with outage := (Outage.meet s.outage (.get id)).2 } :=
    h.steady id (h.keeps.meet _) rfl (fun _ => rfl) rfl
  simp only [fetch, get]
  cases hm : (Outage.meet s.outage (.get id)).1 with
  | some f => exact ⟨hsteady, fun slot hslot => by cases hslot⟩
  | none =>
    simp only
    cases hl : s.lookup id with
    | some slot =>
      have hl' : ({ s with outage := (Outage.meet s.outage (.get id)).2 } : Store α φ).lookup id =
        some slot := hl
      simp only [hl']
      refine ⟨hsteady, ?_⟩
      intro slot' hslot
      cases hslot
      exact hsteady.sane.tidy.serves hl
    | none =>
      have hl' : ({ s with outage := (Outage.meet s.outage (.get id)).2 } : Store α φ).lookup id =
        none := hl
      simp only [hl']
      obtain ⟨hmake, hserves⟩ := make_spec hsteady.sane hl
      refine ⟨hsteady.trans hmake, ?_⟩
      intro slot hslot
      cases hslot
      exact hserves

/-! ## Asking for an identity -/

omit [Outage φ] in
theorem identify_spec (e : Commitment α) (s : Store α φ) :
    ∃ n, (s.identify e).2 = { s with nextId := n } ∧ e.Identified (s.identify e).1 := by
  simp only [identify]
  split
  · exact ⟨s.nextId, rfl, .refl e⟩
  · next hid => exact ⟨s.nextId + 1, rfl, some s.nextId, rfl, Or.inl hid⟩

theorem assign_spec {s : Store α φ} (h : s.Sane) (e : Commitment α) :
    ∃ o n, (s.assign e).state.2 = { s with outage := o, nextId := n } ∧ Outage.KeepsEvents o ∧
      e.Identified (s.assign e).state.1 := by
  have hkeeps := h.keeps.meet (.assign e.deliveryTime)
  obtain ⟨n, hn, hid⟩ := identify_spec e
    { s with outage := (Outage.meet s.outage (.assign e.deliveryTime)).2 }
  simp only [assign]
  cases (Outage.meet s.outage (.assign e.deliveryTime)).1 with
  | none => exact ⟨_, n, hn, hkeeps, hid⟩
  | some f =>
    simp only
    split
    · exact ⟨_, n, hn, hkeeps, hid⟩
    · exact ⟨_, s.nextId, rfl, hkeeps, .refl e⟩

omit [Outage φ] in
theorem identify_id (e : Commitment α) (s : Store α φ) : (s.identify e).1.id ≠ none := by
  simp only [identify]
  split
  · next id hid =>
    rw [hid]
    exact Option.some_ne_none id
  · exact Option.some_ne_none s.nextId

theorem assign_id {e : Commitment α} {s : Store α φ} (h : (s.assign e).value = .ok ()) :
    (s.assign e).state.1.id ≠ none := by
  simp only [assign] at h ⊢
  split at h
  · cases h
  · exact identify_id e _

/-! ## Removing a bucket -/

theorem remove_spec {s : Store α φ} (h : s.Sane) {id : Nat} (hempty : s.contents id = []) :
    Steady id s (s.remove id).state ∧ (∀ j ∈ (s.remove id).state.bucketIds, j ∈ s.bucketIds) ∧
      ((s.remove id).value = .ok () → id ∉ (s.remove id).state.bucketIds) := by
  have hsteady : Steady id s { s with outage := (Outage.meet s.outage (.remove id)).2 } :=
    h.steady id (h.keeps.meet _) rfl (fun _ => rfl) rfl
  obtain ⟨htidy, hcontents⟩ := hsteady.sane.tidy.erase hempty
  have hids : ∀ j, j ∈ (s.erase id).bucketIds → j ∈ s.bucketIds ∧ j ≠ id := by
    intro j hj
    obtain ⟨i, hi⟩ := (Shelf.mem_keys_iff j _).mp hj
    rw [erase, Shelf.find?_erase] at hi
    split at hi
    · cases hi
    · next hne => exact ⟨(Shelf.mem_keys_iff j s.shelf).mpr ⟨i, hi⟩, hne⟩
  have herased : Steady id s
      (erase id { s with outage := (Outage.meet s.outage (.remove id)).2 }) :=
    ⟨⟨htidy, h.keeps.meet _⟩, fun j hj => Or.inl (hids j hj).1, hcontents⟩
  simp only [remove]
  cases (Outage.meet s.outage (.remove id)).1 with
  | none => exact ⟨herased, fun j hj => (hids j hj).1, fun _ hmem => (hids id hmem).2 rfl⟩
  | some f =>
    simp only
    split
    · exact ⟨herased, fun j hj => (hids j hj).1, fun hok => by cases hok⟩
    · exact ⟨hsteady, fun j hj => hj, fun hok => by cases hok⟩

/-! ## Filing a commitment -/

/-- How a commit of `e` can end: the commitment is in its bucket under the identity in the
answer, or it is handed back and no contents changed. -/
inductive Filed (e : Commitment α) (s : Store α φ) :
    Except (Refusal α) (Option Nat) → Store α φ → Prop
  | done {id : Option Nat} {s' : Store α φ} (sane : s'.Sane)
      (identified : e.Identified { e with id := id })
      (ids : ∀ j ∈ s'.bucketIds, j ∈ s.bucketIds ∨ j = e.deliveryTime)
      (contents : ∀ j, s'.contents j =
        if j = e.deliveryTime then s.contents j ++ [{ e with id := id }] else s.contents j) :
      Filed e s (.ok id) s'
  | refused {error : TrackError} {e' : Commitment α} {s' : Store α φ}
      (identified : e.Identified e') (steady : Steady e.deliveryTime s s') :
      Filed e s (.error ⟨error, some e'⟩) s'

omit [Outage φ] in
theorem retractLast_commit (e : Commitment α) (b : Bucket α) :
    (b.commit e).retractLast = (some e, b) := by
  simp [Bucket.commit, Bucket.retractLast]

omit [Outage φ] in
theorem ids_insert {s s' : Store α φ} {id : Nat} {slot : Slot}
    (h : s'.shelf = s.shelf.insert id slot) : ∀ j ∈ s'.bucketIds, j ∈ s.bucketIds ∨ j = id := by
  intro j hj
  obtain ⟨i, hi⟩ := (Shelf.mem_keys_iff j _).mp hj
  rw [h, Shelf.find?_insert] at hi
  split at hi
  · next heq => exact Or.inr heq
  · exact Or.inl ((Shelf.mem_keys_iff j _).mpr ⟨i, hi⟩)

/-- A save stores the slot or fails; if it fails it may have stored the slot all the same. -/
theorem save_spec {s : Store α φ} (h : Outage.KeepsEvents s.outage) (slot : Slot) :
    Outage.KeepsEvents (s.save slot).state.outage ∧
      (∀ i, (s.save slot).state.bucket i = s.bucket i) ∧
      (s.save slot).state.nextSlot = s.nextSlot ∧
      ((s.save slot).value = .ok () ∧
          (s.save slot).state.shelf = s.shelf.insert (s.bucket slot).id slot ∨
        ∃ error, (s.save slot).value = .error error ∧
          ((s.save slot).state.shelf = s.shelf ∨
            (s.save slot).state.shelf = s.shelf.insert (s.bucket slot).id slot)) := by
  have hkeeps := h.meet (.save (s.bucket slot).id)
  cases hm : (Outage.meet s.outage (.save (s.bucket slot).id)).1 with
  | none =>
    simp only [save, hm]
    exact ⟨hkeeps, fun _ => rfl, rfl, Or.inl ⟨trivial, rfl⟩⟩
  | some f =>
    cases hf : f.effect with
    | none =>
      simp only [save, hm, hf]
      exact ⟨hkeeps, fun _ => rfl, trivial, Or.inr ⟨f.error, rfl, Or.inl trivial⟩⟩
    | applied =>
      simp only [save, hm, hf]
      exact ⟨hkeeps, fun _ => rfl, rfl, Or.inr ⟨f.error, rfl, Or.inr rfl⟩⟩
    | emptied => exact absurd hf (h [] (s.bucket slot).id f hm)

/-- The slot of a bucket holds one more commitment and is stored. -/
theorem Serves.committed {s full : Store α φ} {id : Nat} {slot : Slot} {e : Commitment α}
    (hs : s.Serves id slot) (h : s.Tidy) (hkeeps : Outage.KeepsEvents full.outage)
    (hbucket : ∀ i, full.bucket i = if slot = i then (s.bucket slot).commit e else s.bucket i)
    (hshelf : full.shelf = s.shelf.insert id slot) (hnext : full.nextSlot = s.nextSlot) :
    full.Sane ∧ (∀ j ∈ full.bucketIds, j ∈ s.bucketIds ∨ j = id) ∧
      ∀ j, full.contents j = if j = id then s.contents j ++ [e] else s.contents j := by
  have hid : ((s.bucket slot).commit e).id = id := hs.own
  obtain ⟨htidy, hcontents⟩ := hs.store h hid hshelf hbucket hnext
  refine ⟨⟨htidy, hkeeps⟩, ids_insert hshelf, ?_⟩
  intro j
  rw [hcontents]
  split
  · next heq =>
    rw [heq, ← hs.events]
    rfl
  · rfl

/-- The slot of a bucket holds one more commitment, and gives it back whether it was stored or
not. -/
theorem Serves.withdrawn {s full : Store α φ} {id : Nat} {slot : Slot} {e : Commitment α}
    (hs : s.Serves id slot) (h : s.Sane) (hkeeps : Outage.KeepsEvents full.outage)
    (hbucket : ∀ i, full.bucket i = if slot = i then (s.bucket slot).commit e else s.bucket i)
    (hshelf : full.shelf = s.shelf ∨ full.shelf = s.shelf.insert id slot)
    (hnext : full.nextSlot = s.nextSlot) :
    (full.bucket slot).retractLast = (some e, s.bucket slot) ∧
      Steady id s (full.update slot (s.bucket slot)) := by
  have hrestored : ∀ i, (full.update slot (s.bucket slot)).bucket i = s.bucket i := by
    intro i
    rw [bucket_update, hbucket]
    split
    · next heq => rw [heq]
    · rfl
  refine ⟨by rw [hbucket, if_pos rfl, retractLast_commit], ?_⟩
  rcases hshelf with hshelf | hshelf
  · exact h.steady id hkeeps hshelf hrestored hnext
  · have hsame : ∀ i, (full.update slot (s.bucket slot)).bucket i =
        if slot = i then s.bucket slot else s.bucket i := by
      intro i
      rw [hrestored]
      split
      · next heq => rw [heq]
      · rfl
    have hstored : (full.update slot (s.bucket slot)).shelf = s.shelf.insert id slot := hshelf
    obtain ⟨htidy, hcontents⟩ := hs.store h.tidy hs.own hstored hsame hnext
    refine ⟨⟨htidy, hkeeps⟩, ids_insert hstored, ?_⟩
    intro j
    rw [hcontents]
    split
    · next heq => rw [heq, hs.events]
    · rfl

/-- Filing a commitment appends it to its bucket, or hands it back and changes no contents. -/
theorem commit_spec {s : Store α φ} (h : s.Sane) (e : Commitment α) :
    Filed e s (s.commit .empty e).value (s.commit .empty e).state := by
  obtain ⟨hfetched, hserves⟩ := fetch_spec h e.deliveryTime
  simp only [commit]
  cases hf : (s.fetch .empty e.deliveryTime).value with
  | error err => exact .refused (.refl e) hfetched
  | ok slot =>
    obtain ⟨o, n, hassigned, hkeeps, hid⟩ := assign_spec hfetched.sane e
    have hsame : Steady e.deliveryTime (s.fetch .empty e.deliveryTime).state
        ((s.fetch .empty e.deliveryTime).state.assign e).state.2 := by
      rw [hassigned]
      exact hfetched.sane.steady _ hkeeps rfl (fun _ => rfl) rfl
    have hslot : Serves e.deliveryTime slot
        ((s.fetch .empty e.deliveryTime).state.assign e).state.2 := by
      obtain ⟨hmade, hown, hevents, honly⟩ := hserves slot hf
      rw [hassigned]
      exact ⟨hmade, hown, hevents, honly⟩
    have hready := hfetched.trans hsame
    revert hid hready hslot
    generalize (s.fetch .empty e.deliveryTime).state.assign e = assigned
    obtain ⟨value, ⟨e', s₁⟩, notes⟩ := assigned
    intro hid hslot hready
    cases value with
    | error err => exact .refused hid hready
    | ok u =>
      have hfull : ∀ i, (s₁.update slot ((s₁.bucket slot).commit e')).bucket i =
          if slot = i then (s₁.bucket slot).commit e' else s₁.bucket i :=
        fun i => bucket_update slot i _ s₁
      have hid' : ((s₁.update slot ((s₁.bucket slot).commit e')).bucket slot).id =
          e.deliveryTime := by
        rw [hfull, if_pos rfl]
        exact hslot.own
      obtain ⟨hkeeps, hbucket, hnext, hsaved⟩ :=
        save_spec (s := s₁.update slot ((s₁.bucket slot).commit e')) hready.sane.keeps slot
      rw [hid'] at hsaved
      have hbucket' := fun i => (hbucket i).trans (hfull i)
      rcases hsaved with ⟨hvalue, hshelf⟩ | ⟨error, hvalue, hshelf⟩
      · obtain ⟨hsane, hids, hcontents⟩ :=
          hslot.committed hready.sane.tidy hkeeps hbucket' hshelf hnext
        simp only [hvalue]
        obtain ⟨id, rfl, hid⟩ := hid
        refine .done hsane ⟨id, rfl, hid⟩ ?_ ?_
        · intro j hj
          rcases hids j hj with hj | hj
          · exact hready.ids j hj
          · exact Or.inr hj
        · intro j
          rw [hcontents, hready.contents]
      · obtain ⟨hretract, hsteady⟩ := hslot.withdrawn hready.sane hkeeps hbucket' hshelf hnext
        simp only [hvalue, hretract]
        exact .refused hid (hready.trans hsteady)

/-- Whatever is filed has an identity. -/
theorem commit_id {factory : Nat → Bucket α} {e : Commitment α} {s : Store α φ} {id : Option Nat}
    (h : (s.commit factory e).value = .ok id) : id ≠ none := by
  simp only [commit] at h
  split at h
  · cases h
  · next slot hslot =>
    split at h
    · cases h
    · next hassigned =>
      have hsome := assign_id hassigned
      split at h
      · cases h
        exact hsome
      · cases h

end BucketClock.Store
