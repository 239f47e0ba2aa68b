/-!
Bucket indices. A track counts its buckets from 0 to `Index.last`, the greatest
64-bit number. Sums and products of indices stop at `last` instead of passing
it, so an index never leaves the range.
-/

namespace BucketClock.Index

def last : Nat := 18446744073709551615

/-- Sum of two indices, stopped at `last`. -/
def add (a b : Nat) : Nat := min (a + b) last

/-- Product of two indices, stopped at `last`. -/
def mul (a b : Nat) : Nat := min (a * b) last

/-- The index after `a`; `last` follows itself. -/
def next (a : Nat) : Nat := add a 1

theorem add_le_last (a b : Nat) : add a b ≤ last := Nat.min_le_right _ _

theorem le_add {a b : Nat} (h : a ≤ last) : a ≤ add a b := by
  simp only [add]; omega

theorem add_eq_of_le {a b : Nat} (h : a + b ≤ last) : add a b = a + b :=
  Nat.min_eq_left h

/-- A sum that is not the last index was not stopped. -/
theorem le_last_of_add_lt {a b : Nat} (h : add a b < last) : a + b ≤ last := by
  simp only [add] at h; omega

theorem next_last : next last = last := rfl

end BucketClock.Index
