/-!
Shelves: values under numeric keys, in ascending order of their keys.
-/

namespace BucketClock

structure Shelf (β : Type) where
  entries : List (Nat × β) := []

namespace Shelf

variable {β : Type}

def findEntry (k : Nat) : List (Nat × β) → Option β
  | [] => none
  | (j, w) :: rest => if k = j then some w else findEntry k rest

def insertEntry (k : Nat) (v : β) : List (Nat × β) → List (Nat × β)
  | [] => [(k, v)]
  | (j, w) :: rest =>
    if k < j then (k, v) :: (j, w) :: rest
    else if k = j then (k, v) :: rest
    else (j, w) :: insertEntry k v rest

def find? (k : Nat) (s : Shelf β) : Option β := findEntry k s.entries

/-- Puts a value under a key, in place of what was there. -/
def insert (k : Nat) (v : β) (s : Shelf β) : Shelf β := ⟨insertEntry k v s.entries⟩

def erase (k : Nat) (s : Shelf β) : Shelf β := ⟨s.entries.filter fun e => e.1 ≠ k⟩

def keys (s : Shelf β) : List Nat := s.entries.map (·.1)

def isEmpty (s : Shelf β) : Bool := s.entries.isEmpty

theorem find?_insert (k j : Nat) (v : β) (s : Shelf β) :
    (s.insert k v).find? j = if j = k then some v else s.find? j := by
  obtain ⟨l⟩ := s
  simp only [insert, find?]
  induction l with
  | nil => simp [insertEntry, findEntry]
  | cons e rest ih =>
    obtain ⟨i, w⟩ := e
    by_cases h₁ : k < i
    · simp [insertEntry, findEntry, h₁]
    · by_cases h₂ : k = i
      · by_cases h : j = k <;> simp [insertEntry, findEntry, h, ← h₂]
      · by_cases h : j = i
        · have hk : i ≠ k := fun e => h₂ e.symm
          simp [insertEntry, findEntry, h₁, h₂, h, hk]
        · simp [insertEntry, findEntry, h₁, h₂, h, ih]

theorem find?_erase (k j : Nat) (s : Shelf β) :
    (s.erase k).find? j = if j = k then none else s.find? j := by
  obtain ⟨l⟩ := s
  simp only [erase, find?]
  induction l with
  | nil => simp [findEntry]
  | cons e rest ih =>
    obtain ⟨i, w⟩ := e
    by_cases h : i = k
    · by_cases hj : j = k
      · simpa [h, hj] using ih
      · simpa [findEntry, h, hj] using ih
    · by_cases hj : j = i
      · simp [findEntry, h, hj]
      · simpa [findEntry, h, hj] using ih

end Shelf
end BucketClock
