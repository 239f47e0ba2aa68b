/-!
Blank characters: the code points with the Unicode property White_Space, in
ascending order. The property is fixed by the standard's stability rules for
the characters listed here.
-/

namespace BucketClock.Text

def blankPoints : List Nat :=
  [0x9, 0xA, 0xB, 0xC, 0xD, 0x20, 0x85, 0xA0, 0x1680,
   0x2000, 0x2001, 0x2002, 0x2003, 0x2004, 0x2005, 0x2006, 0x2007, 0x2008, 0x2009, 0x200A,
   0x2028, 0x2029, 0x202F, 0x205F, 0x3000]

def isBlank (c : Char) : Bool := blankPoints.contains c.toNat

def trim (cs : List Char) : List Char :=
  ((cs.dropWhile isBlank).reverse.dropWhile isBlank).reverse

theorem trim_between {before core after : List Char} (hbefore : ∀ c ∈ before, isBlank c = true)
    (hcore : ∀ c ∈ core, isBlank c = false) (hafter : ∀ c ∈ after, isBlank c = true) :
    trim (before ++ core ++ after) = core := by
  have hback : ∀ cs : List Char, (∀ c ∈ cs, isBlank c = false) → cs.dropWhile isBlank = cs := by
    intro cs hcs
    cases cs with
    | nil => rfl
    | cons c cs => simp [hcs c List.mem_cons_self]
  have hfront : (core ++ after).dropWhile isBlank = if core = [] then [] else core ++ after := by
    cases core with
    | nil =>
      have hall : (after ++ []).dropWhile isBlank = [] := List.dropWhile_append_of_pos hafter
      simpa using hall
    | cons c cs => simp [hcore c List.mem_cons_self]
  rw [trim, List.append_assoc, List.dropWhile_append_of_pos hbefore, hfront]
  split
  · next hempty => simp [hempty]
  · rw [List.reverse_append, List.dropWhile_append_of_pos (by simpa using hafter),
      hback _ (by simpa using hcore), List.reverse_reverse]

/-- What is trimmed off is blank. -/
theorem exists_trim (cs : List Char) :
    ∃ before after, cs = before ++ trim cs ++ after ∧ (∀ c ∈ before, isBlank c = true) ∧
      ∀ c ∈ after, isBlank c = true := by
  let front := cs.dropWhile isBlank
  have hfront : cs = cs.takeWhile isBlank ++ front := List.takeWhile_append_dropWhile.symm
  have hback : front = trim cs ++ (front.reverse.takeWhile isBlank).reverse := by
    rw [trim, ← List.reverse_append, List.takeWhile_append_dropWhile, List.reverse_reverse]
  refine ⟨cs.takeWhile isBlank, (front.reverse.takeWhile isBlank).reverse, ?_,
    List.all_eq_true.mp List.all_takeWhile, fun c hc => ?_⟩
  · rw [List.append_assoc, ← hback, ← hfront]
  · exact List.all_eq_true.mp List.all_takeWhile c (List.mem_reverse.mp hc)

def trimEnd (cs : List Char) : List Char := (cs.reverse.dropWhile isBlank).reverse

end BucketClock.Text
