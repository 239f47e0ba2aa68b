import BucketClock.Proofs.Store.Contents
import Mathlib.Algebra.BigOperators.Group.Finset.Piecewise
import Mathlib.Algebra.Order.Group.Multiset

/-!
All commitments of a store as one list. Counted with their multiplicity they are
the sum of the contents over any set of ids that covers the shelf
(`coe_events`), so what happens to them can be read off the contents
(`events_perm`).
-/

namespace BucketClock.Store

open Commitment (dueAt)

variable {α φ : Type}

def events (s : Store α φ) : List (Commitment α) := s.stored.flatMap (·.2.events)

theorem events_eq_flatMap {s : Store α φ} (h : s.Orderly) :
    s.events = s.bucketIds.flatMap fun id => s.contents id := by
  rw [events, stored, bucketIds, Shelf.keys, List.flatMap_map, List.flatMap_map]
  apply List.flatMap_congr
  rintro ⟨id, slot⟩ hmem
  exact (contents_of_lookup ((Shelf.mem_entries_iff h.sorted id slot).mp hmem)).symm

theorem contents_sublist {s : Store α φ} (h : s.Orderly) (id : Nat) :
    (s.contents id).Sublist s.events := by
  by_cases hempty : s.contents id = []
  · rw [hempty]
    exact List.nil_sublist _
  · rw [events_eq_flatMap h, List.flatMap_def]
    apply List.sublist_flatten_of_mem
    exact List.mem_map_of_mem (mem_bucketIds_of_contents hempty)

theorem coe_flatMap (f : Nat → List (Commitment α)) (l : List Nat) :
    ((l.flatMap f : List (Commitment α)) : Multiset (Commitment α)) =
      (l.map fun id => (f id : Multiset (Commitment α))).sum := by
  induction l with
  | nil => rfl
  | cons id l ih =>
    rw [List.flatMap_cons, ← Multiset.coe_add, ih, List.map_cons, List.sum_cons]

theorem coe_events {s : Store α φ} (h : s.Orderly) {K : Finset Nat} (hK : ∀ id ∈ s.bucketIds, id ∈ K) :
    (s.events : Multiset (Commitment α)) = ∑ id ∈ K, (s.contents id : Multiset (Commitment α)) := by
  have hnodup : s.bucketIds.Nodup := h.sorted.imp Nat.ne_of_lt
  rw [events_eq_flatMap h, coe_flatMap, ← List.sum_toFinset _ hnodup]
  apply Finset.sum_subset
  · intro id hid
    exact hK id (List.mem_toFinset.mp hid)
  · intro id _ hid
    have hempty : s.contents id = [] := by
      by_contra hne
      exact hid (List.mem_toFinset.mpr (mem_bucketIds_of_contents hne))
    rw [hempty]
    rfl

theorem coe_dueAt (es : List (Commitment α)) {K : Finset Nat} (hK : ∀ e ∈ es, e.deliveryTime ∈ K) :
    ∑ id ∈ K, (dueAt id es : Multiset (Commitment α)) = es := by
  induction es with
  | nil => simp [dueAt]
  | cons e es ih =>
    have hsplit : ∀ id, (dueAt id (e :: es) : Multiset (Commitment α)) =
        (if e.deliveryTime = id then {e} else 0) + (dueAt id es : Multiset (Commitment α)) := by
      intro id
      by_cases he : e.deliveryTime = id
      · rw [if_pos he, dueAt, List.filter_cons_of_pos (by simpa using he)]
        rfl
      · rw [if_neg he, dueAt, List.filter_cons_of_neg (by simpa using he), zero_add]
        rfl
    have hrest := ih fun e' he' => hK e' (List.mem_cons_of_mem _ he')
    rw [Finset.sum_congr rfl fun id _ => hsplit id, Finset.sum_add_distrib, hrest,
      Finset.sum_ite_eq, if_pos (hK e List.mem_cons_self)]
    rfl

/-- If every bucket loses its part of `out` and gains its part of `new`, so does the store. -/
theorem events_perm {s s' : Store α φ} (h : s.Orderly) (h' : s'.Orderly) {out new : List (Commitment α)}
    (hcontents : ∀ id, (s'.contents id ++ dueAt id out).Perm (s.contents id ++ dueAt id new)) :
    (s'.events ++ out).Perm (s.events ++ new) := by
  let K : Finset Nat := s.bucketIds.toFinset ∪ s'.bucketIds.toFinset ∪
    ((out ++ new).map (·.deliveryTime)).toFinset
  have hK : ∀ e ∈ out ++ new, e.deliveryTime ∈ K := by
    intro e he
    have hmem := List.mem_map_of_mem (f := (·.deliveryTime)) he
    exact Finset.mem_union_right _ (List.mem_toFinset.mpr hmem)
  rw [← Multiset.coe_eq_coe, ← Multiset.coe_add, ← Multiset.coe_add]
  rw [← coe_dueAt out fun e he => hK e (List.mem_append_left _ he),
    ← coe_dueAt new fun e he => hK e (List.mem_append_right _ he),
    coe_events h fun id hid => Finset.mem_union_left _
      (Finset.mem_union_left _ (List.mem_toFinset.mpr hid)),
    coe_events h' fun id hid => Finset.mem_union_left _
      (Finset.mem_union_right _ (List.mem_toFinset.mpr hid)),
    ← Finset.sum_add_distrib, ← Finset.sum_add_distrib]
  apply Finset.sum_congr rfl
  intro id _
  exact Multiset.coe_eq_coe.mpr (hcontents id)

/-- If one bucket is emptied and every other gains its part of `new`, the store loses what was in the
first and gains `new`. -/
theorem events_drained {s s' : Store α φ} (h : s.Orderly) (h' : s'.Orderly) {p : Nat}
    {new : List (Commitment α)} (hnew : ∀ e ∈ new, e.deliveryTime ≠ p)
    (hcontents : ∀ id, s'.contents id = if id = p then [] else s.contents id ++ dueAt id new) :
    (s'.events ++ s.contents p).Perm (s.events ++ new) := by
  let K : Finset Nat := s.bucketIds.toFinset ∪ s'.bucketIds.toFinset ∪
    (new.map (·.deliveryTime)).toFinset ∪ {p}
  have hp : p ∈ K := Finset.mem_union_right _ (Finset.mem_singleton_self p)
  have hold : ∀ id ∈ s.bucketIds, id ∈ K := by
    intro id hid
    simp [K, hid]
  have hold' : ∀ id ∈ s'.bucketIds, id ∈ K := by
    intro id hid
    simp [K, hid]
  have hK : ∀ e ∈ new, e.deliveryTime ∈ K := by
    intro e he
    have hmem := List.mem_map_of_mem (f := (·.deliveryTime)) he
    simp [K, List.mem_toFinset.mpr hmem]
  have hemptied : (s.contents p : Multiset (Commitment α)) =
      ∑ id ∈ K, if id = p then (s.contents p : Multiset (Commitment α)) else 0 := by
    rw [Finset.sum_ite_eq', if_pos hp]
  rw [← Multiset.coe_eq_coe, ← Multiset.coe_add, ← Multiset.coe_add, ← coe_dueAt new hK,
    coe_events h hold, coe_events h' hold', hemptied, ← Finset.sum_add_distrib,
    ← Finset.sum_add_distrib]
  apply Finset.sum_congr rfl
  intro id _
  rw [hcontents]
  split
  · next heq =>
    rw [heq, Commitment.dueAt_eq_nil hnew]
    exact (zero_add _).trans (add_zero _).symm
  · exact (add_zero _).trans (Multiset.coe_add _ _).symm

end BucketClock.Store
