import BucketClock.Proofs.Store.Commit

/-!
Stores whose calls fail without effect. What a commit may change on the shelf is
then the bucket it files in, and only if it succeeds (`commit_consulted`), so no
bucket comes to stand empty on the shelf (`commit_bare`).
-/

namespace BucketClock.Store

open Outage (Asked WithoutEffect)

variable {α φ : Type}

def Bare (id : Nat) (s : Store α φ) : Prop := id ∈ s.bucketIds ∧ s.contents id = []

theorem isEmpty_iff (s : Store α φ) : s.isEmpty = true ↔ ∀ id, id ∉ s.bucketIds := by
  rw [isEmpty, Shelf.isEmpty, List.isEmpty_iff, ← List.map_eq_nil_iff (f := (·.1)),
    List.eq_nil_iff_forall_not_mem]
  rfl

theorem erase_bare {s : Store α φ} {removed id : Nat} (h : (s.erase removed).Bare id) :
    s.Bare id := by
  obtain ⟨hstored, hempty⟩ := h
  obtain ⟨slot, hslot⟩ := (Shelf.mem_keys_iff id _).mp hstored
  have hlookup := hslot
  rw [erase, Shelf.find?_erase] at hlookup
  split at hlookup
  · cases hlookup
  · refine ⟨(Shelf.mem_keys_iff id _).mpr ⟨slot, hlookup⟩, ?_⟩
    rw [contents_of_lookup hslot] at hempty
    exact (contents_of_lookup hlookup).trans hempty

variable [Outage φ]

/-- From `s` to `s'` the store was asked about some calls, and its shelf stayed as it was. -/
structure Consulted (s s' : Store α φ) : Prop where
  shelf : s'.shelf = s.shelf
  asked : Asked s.outage s'.outage

theorem Consulted.trans {s s' s'' : Store α φ} (h : Consulted s s') (h' : Consulted s' s'') :
    Consulted s s'' :=
  ⟨h'.shelf.trans h.shelf, h.asked.trans h'.asked⟩

theorem fetch_consulted (factory : Nat → Bucket α) (id : Nat) (s : Store α φ) :
    Consulted s (s.fetch factory id).state := by
  have hasked := Outage.asked_meet s.outage (.get id)
  simp only [fetch, get]
  cases (Outage.meet s.outage (.get id)).1 with
  | some f => exact ⟨rfl, hasked⟩
  | none =>
    simp only
    split
    · exact ⟨rfl, hasked⟩
    · exact ⟨rfl, hasked⟩
    · exact ⟨rfl, hasked⟩

theorem assign_consulted (e : Commitment α) (s : Store α φ) :
    Consulted s (s.assign e).state.2 := by
  have hasked := Outage.asked_meet s.outage (.assign e.deliveryTime)
  obtain ⟨n, hn, _⟩ := identify_spec e
    { s with outage := (Outage.meet s.outage (.assign e.deliveryTime)).2 }
  simp only [assign]
  cases (Outage.meet s.outage (.assign e.deliveryTime)).1 with
  | none =>
    simp only [hn]
    exact ⟨rfl, hasked⟩
  | some f =>
    simp only
    split
    · rw [hn]
      exact ⟨rfl, hasked⟩
    · exact ⟨rfl, hasked⟩

theorem save_asked (slot : Slot) (s : Store α φ) : Asked s.outage (s.save slot).state.outage := by
  have hasked := Outage.asked_meet s.outage (.save (s.bucket slot).id)
  simp only [save]
  split
  · split
    · exact hasked
    · exact hasked
    · exact hasked
  · exact hasked

theorem save_consulted {s : Store α φ} (h : WithoutEffect s.outage) {slot : Slot}
    {error : TrackError} (hsave : (s.save slot).value = .error error) :
    Consulted s (s.save slot).state := by
  have hasked := Outage.asked_meet s.outage (.save (s.bucket slot).id)
  simp only [save] at hsave ⊢
  cases hm : (Outage.meet s.outage (.save (s.bucket slot).id)).1 with
  | none =>
    rw [hm] at hsave
    cases hsave
  | some f =>
    simp only [h [] _ f hm]
    exact ⟨rfl, hasked⟩

theorem remove_asked (id : Nat) (s : Store α φ) :
    Asked s.outage (s.remove id).state.outage := by
  have hasked := Outage.asked_meet s.outage (.remove id)
  simp only [remove]
  split
  · split
    · exact hasked
    · exact hasked
  · exact hasked

/-- A removal leaves no bucket empty on the shelf, whether it fails or not. -/
theorem remove_bare {s : Store α φ} {removed id : Nat} (h : (s.remove removed).state.Bare id) :
    s.Bare id := by
  simp only [remove] at h
  split at h
  · split at h
    · exact erase_bare h
    · exact h
  · exact erase_bare h

/-! ## Commits -/

theorem commit_asked (factory : Nat → Bucket α) (e : Commitment α) (s : Store α φ) :
    Asked s.outage (s.commit factory e).state.outage := by
  have hfetched := (fetch_consulted factory e.deliveryTime s).asked
  have hassigned := hfetched.trans
    (assign_consulted e (s.fetch factory e.deliveryTime).state).asked
  simp only [commit]
  split
  · exact hfetched
  · split
    · exact hassigned
    · split
      · exact hassigned.trans (save_asked _ _)
      · exact hassigned.trans (save_asked _ _)

/-- Where failing calls have no effect a commit that fails leaves the shelf alone. -/
theorem commit_consulted {s : Store α φ} (h : WithoutEffect s.outage) {factory : Nat → Bucket α}
    {e : Commitment α} {refusal : Refusal α}
    (hcommit : (s.commit factory e).value = .error refusal) :
    Consulted s (s.commit factory e).state := by
  have hfetched := fetch_consulted factory e.deliveryTime s
  have hassigned := hfetched.trans (assign_consulted e (s.fetch factory e.deliveryTime).state)
  simp only [commit] at hcommit ⊢
  cases hfetch : (s.fetch factory e.deliveryTime).value with
  | error error => exact hfetched
  | ok slot =>
    rw [hfetch] at hcommit
    simp only at hcommit ⊢
    generalize (s.fetch factory e.deliveryTime).state.assign e = assigned at hassigned hcommit ⊢
    obtain ⟨value, ⟨e', s'⟩, notes⟩ := assigned
    cases value with
    | error error => exact hassigned
    | ok u =>
      simp only at hassigned hcommit ⊢
      generalize hfull : s'.update slot ((s'.bucket slot).commit e') = full at hcommit ⊢
      have hsame : full.outage = s'.outage ∧ full.shelf = s'.shelf := by
        rw [← hfull]
        exact ⟨rfl, rfl⟩
      have hquiet : WithoutEffect full.outage := hsame.1 ▸ h.asked hassigned.asked
      cases hsave : (full.save slot).value with
      | ok u =>
        rw [hsave] at hcommit
        cases hcommit
      | error error =>
        have hsaved := save_consulted hquiet hsave
        refine ⟨hsaved.shelf.trans (hsame.2.trans hassigned.shelf), hassigned.asked.trans ?_⟩
        rw [← hsame.1]
        exact hsaved.asked

/-- Where failing calls have no effect, a commit leaves no bucket empty on the shelf. -/
theorem commit_bare {s : Store α φ} (h : s.Sane) (hharmless : WithoutEffect s.outage)
    {e : Commitment α} {id : Nat} (hbare : (s.commit .empty e).state.Bare id) : s.Bare id := by
  obtain ⟨hstored, hempty⟩ := hbare
  have hfiled := commit_spec h e
  cases hvalue : (s.commit .empty e).value with
  | ok identity =>
    rw [hvalue] at hfiled
    cases hfiled with
    | done _ _ hids hcontents =>
      rw [hcontents] at hempty
      split at hempty
      · exact absurd hempty (List.append_ne_nil_of_right_ne_nil _ (List.cons_ne_nil _ _))
      · next hne => exact ⟨(hids id hstored).resolve_right hne, hempty⟩
  | error refusal =>
    have hshelf := (commit_consulted hharmless hvalue).shelf
    rw [bucketIds, hshelf] at hstored
    rw [hvalue] at hfiled
    cases hfiled with
    | refused _ hsteady => exact ⟨hstored, (hsteady.contents id).symm.trans hempty⟩

end BucketClock.Store
