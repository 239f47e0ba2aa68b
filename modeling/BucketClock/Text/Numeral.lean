import BucketClock.Index

/-!
Decimal numerals made of ASCII digits.
-/

namespace BucketClock.Text

/-- The value of a numeral: one digit or more and nothing else. -/
def numeral? (cs : List Char) : Option Nat :=
  if cs.isEmpty || !cs.all Char.isDigit then none
  else some (cs.foldl (fun n c => 10 * n + (c.toNat - 48)) 0)

theorem numeral?_eq_some_iff {cs : List Char} {n : Nat} :
    numeral? cs = some n ↔
      cs ≠ [] ∧ (∀ c ∈ cs, c.isDigit = true) ∧ Nat.ofDigitChars 10 cs 0 = n := by
  simp only [numeral?, Nat.ofDigitChars_eq_foldl]
  constructor
  · intro h
    split at h
    · cases h
    · next hread =>
      simp only [Bool.or_eq_true, Bool.not_eq_true', not_or, Bool.not_eq_false,
        List.isEmpty_iff, List.all_eq_true] at hread
      exact ⟨hread.1, hread.2, Option.some.inj h⟩
  · rintro ⟨hne, hdigits, hvalue⟩
    have hread : (cs.isEmpty || !cs.all Char.isDigit) = false := by
      simp [hne, List.all_eq_true.mpr hdigits]
    rw [hread, ← hvalue]
    rfl

/-- A number is read back from its digits. -/
theorem numeral?_toDigits (n : Nat) : numeral? (Nat.toDigits 10 n) = some n := by
  have hdigits : ∀ c ∈ Nat.toDigits 10 n, c.isDigit = true :=
    fun c hc => Nat.isDigit_of_mem_toDigits (by decide) (by decide) hc
  exact numeral?_eq_some_iff.mpr ⟨Nat.toDigits_ne_nil, hdigits, Nat.ofDigitChars_ten_toDigits⟩

def numeralBelow? (limit : Nat) (cs : List Char) : Option Nat :=
  (numeral? cs).filter (· < limit)

end BucketClock.Text
