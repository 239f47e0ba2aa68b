import BucketClock.Store.Shelf

/-!
Shelves in ascending order. Insertion and removal keep the keys ascending, and
on such a shelf the entries are exactly what `find?` finds. What is found can be
put back without effect.
-/

namespace BucketClock

namespace Shelf

variable {β : Type}

theorem mem_keys_iff (k : Nat) (s : Shelf β) : k ∈ s.keys ↔ ∃ v, s.find? k = some v := by
  obtain ⟨l⟩ := s
  simp only [keys, find?]
  induction l with
  | nil => simp [findEntry]
  | cons e rest ih =>
    obtain ⟨j, w⟩ := e
    by_cases h : k = j
    · simp [findEntry, h]
    · simp [findEntry, h, ← ih]

theorem keys_insert_sorted {s : Shelf β} (h : s.keys.Pairwise (· < ·)) (k : Nat) (v : β) :
    (s.insert k v).keys.Pairwise (· < ·) := by
  obtain ⟨l⟩ := s
  simp only [keys, insert] at h ⊢
  induction l with
  | nil => simp [insertEntry]
  | cons e rest ih =>
    obtain ⟨j, w⟩ := e
    simp only [List.map_cons, List.pairwise_cons] at h
    obtain ⟨hhead, htail⟩ := h
    simp only [insertEntry]
    split
    · next hlt =>
      simp only [List.map_cons, List.pairwise_cons, List.mem_cons]
      refine ⟨?_, hhead, htail⟩
      rintro i (rfl | hi)
      · exact hlt
      · exact Nat.lt_trans hlt (hhead i hi)
    · split
      · next heq =>
        simp only [List.map_cons, List.pairwise_cons, heq]
        exact ⟨hhead, htail⟩
      · next hlt hne =>
        simp only [List.map_cons, List.pairwise_cons]
        refine ⟨?_, ih htail⟩
        intro i hi
        obtain ⟨w', hw'⟩ := (mem_keys_iff i ⟨insertEntry k v rest⟩).mp hi
        have hfind := find?_insert k i v ⟨rest⟩
        rw [insert, hw'] at hfind
        by_cases hik : i = k
        · omega
        · rw [if_neg hik] at hfind
          exact hhead i ((mem_keys_iff i ⟨rest⟩).mpr ⟨w', hfind.symm⟩)

theorem keys_erase_sorted {s : Shelf β} (h : s.keys.Pairwise (· < ·)) (k : Nat) :
    (s.erase k).keys.Pairwise (· < ·) :=
  h.sublist (List.filter_sublist.map _)

theorem mem_entries_iff {s : Shelf β} (h : s.keys.Pairwise (· < ·)) (k : Nat) (v : β) :
    (k, v) ∈ s.entries ↔ s.find? k = some v := by
  obtain ⟨l⟩ := s
  simp only [keys, find?] at h ⊢
  induction l with
  | nil => simp [findEntry]
  | cons e rest ih =>
    obtain ⟨j, w⟩ := e
    simp only [List.map_cons, List.pairwise_cons] at h
    obtain ⟨hhead, htail⟩ := h
    simp only [List.mem_cons, Prod.mk.injEq, findEntry]
    by_cases hk : k = j
    · have hout : (k, v) ∉ rest := by
        intro hmem
        have hlt := hhead k (List.mem_map_of_mem hmem)
        omega
      subst hk
      simp [hout, eq_comm]
    · simp [hk, ih htail]

/-- A value is put between the entries before its key and those after it, in place of the one
under its key, if there is one. -/
theorem entries_insert (k : Nat) (v : β) (s : Shelf β) :
    ∃ front back, (s.insert k v).entries = front ++ (k, v) :: back ∧
      (s.entries = front ++ back ∨ ∃ w, s.entries = front ++ (k, w) :: back) := by
  obtain ⟨l⟩ := s
  simp only [insert]
  induction l with
  | nil => exact ⟨[], [], rfl, .inl rfl⟩
  | cons e rest ih =>
    obtain ⟨j, w⟩ := e
    simp only [insertEntry]
    split
    · exact ⟨[], (j, w) :: rest, rfl, .inl rfl⟩
    · split
      · next heq => exact ⟨[], rest, rfl, .inr ⟨w, by rw [heq, List.nil_append]⟩⟩
      · obtain ⟨front, back, hinserted, hentries⟩ := ih
        refine ⟨(j, w) :: front, back, by rw [hinserted, List.cons_append], ?_⟩
        rcases hentries with hentries | ⟨old, hentries⟩
        · exact .inl (by rw [hentries, List.cons_append])
        · exact .inr ⟨old, by rw [hentries, List.cons_append]⟩

/-- Putting a value where it already is changes nothing. -/
theorem insert_of_find? {s : Shelf β} (h : s.keys.Pairwise (· < ·)) {k : Nat} {v : β}
    (hfind : s.find? k = some v) : s.insert k v = s := by
  obtain ⟨l⟩ := s
  simp only [keys, find?, insert, Shelf.mk.injEq] at h hfind ⊢
  induction l with
  | nil => cases hfind
  | cons e rest ih =>
    obtain ⟨j, w⟩ := e
    simp only [List.map_cons, List.pairwise_cons] at h
    obtain ⟨hhead, htail⟩ := h
    simp only [findEntry, insertEntry] at hfind ⊢
    split at hfind
    · next heq =>
      subst heq
      rw [if_neg (Nat.lt_irrefl k), if_pos rfl, Option.some.inj hfind]
    · next hne =>
      have hlt := hhead k ((mem_keys_iff k ⟨rest⟩).mpr ⟨v, hfind⟩)
      rw [if_neg (Nat.lt_asymm hlt), if_neg hne, ih htail hfind]

end Shelf
end BucketClock
