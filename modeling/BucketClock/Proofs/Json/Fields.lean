import BucketClock.Json.Fields
import BucketClock.Proofs.Json.RoundTrip
import Mathlib.Algebra.Group.Nat.Defs
import Mathlib.Data.List.Basic

/-!
Records that lost some of their members. Every field that is left is found with
the value it was written with, and every other one is found to be absent
(`Fields.exists_left`), also when the record was kept as text (`read_without`).
-/

namespace BucketClock.Json

variable {β : Type} {gone : String → Bool} {members : List (String × Json)}

/-! ## Members that are gone -/

def keys : Json → List String
  | .obj members => members.filterMap (·.1)
  | _ => []

/-- An object without the members under some keys. -/
def without (gone : String → Bool) : Json → Json
  | .obj members => .obj (members.filter fun m => !m.1.any gone)
  | j => j

theorem without_record (gone : String → Bool) (members : List (String × Json)) :
    (record members).without gone = record (members.filter fun m => !gone m.1) := by
  simp [record, without, List.filter_map, Function.comp_def]

theorem without_nothing (j : Json) : j.without (fun _ => false) = j := by
  cases j <;> simp [without]

theorem lookup_filter (gone : String → Bool) (members : List (String × Json)) (name : String) :
    (members.filter fun m => !gone m.1).lookup name =
      if gone name then none else members.lookup name := by
  induction members with
  | nil => simp
  | cons m members ih =>
    obtain ⟨key, j⟩ := m
    by_cases hkey : name = key
    · subst hkey
      cases hgone : gone name with
      | true =>
        rw [hgone] at ih
        simpa [hgone] using ih
      | false => simp [hgone]
    · have hne : (name == key) = false := by simpa using hkey
      cases hgone : gone key with
      | true => simp [List.lookup_cons, hgone, hne, ih]
      | false => simp [List.lookup_cons, hgone, hne, ih]

/-! ## Numbers and texts -/

theorem natBelow?_ofNat {limit n : Nat} (h : n < limit) : natBelow? limit (ofNat n) = some n := by
  simp [natBelow?, ofNat, Text.describeNat, Text.numeralBelow?, Text.numeral?_toDigits,
    Option.filter, h]

theorem nat64?_ofNat {n : Nat} (h : n < 2 ^ 64) : nat64? (ofNat n) = some n := natBelow?_ofNat h

theorem nat128?_ofNat {n : Nat} (h : n < 2 ^ 128) : nat128? (ofNat n) = some n := natBelow?_ofNat h

theorem text?_ofString (s : String) : text? (ofString s) = some s := rfl

theorem nullable_ofOption {write : β → Json} {read : Json → Option β} {o : Option β}
    (h : ∀ v ∈ o, write v ≠ .null ∧ read (write v) = some v) :
    nullable read (ofOption write o) = some o := by
  cases o with
  | none => rfl
  | some v =>
    obtain ⟨hnull, hvalue⟩ := h v rfl
    rw [ofOption, nullable.eq_def]
    split
    · next heq => exact absurd heq hnull
    · rw [hvalue]
      rfl

/-! ## Fields of a record -/

theorem occurrences_cons (name key : String) (j : Json) (members : List (String × Json)) :
    occurrences name (named ((key, j) :: members)) =
      if key = name then j :: occurrences name (named members)
      else occurrences name (named members) := by
  by_cases h : key = name <;> simp [occurrences, named, h]

theorem occurrences_of_not_mem {name : String} (h : name ∉ members.map (·.1)) :
    occurrences name (named members) = [] := by
  simp only [List.mem_map, not_exists, not_and] at h
  simp only [occurrences, named, List.map_eq_nil_iff, List.filter_eq_nil_iff, List.mem_map]
  rintro _ ⟨m, hm, rfl⟩
  simpa using h m hm

/-- Where no key comes twice, a name has the one value that is found under it. -/
theorem occurrences_named (h : (members.map (·.1)).Nodup) (name : String) :
    occurrences name (named members) = (members.lookup name).toList := by
  induction members with
  | nil => rfl
  | cons m members ih =>
    obtain ⟨key, j⟩ := m
    obtain ⟨hnew, hrest⟩ := List.nodup_cons.mp h
    rw [occurrences_cons, List.lookup_cons]
    by_cases hkey : key = name
    · subst hkey
      simp [occurrences_of_not_mem hnew]
    · have hne : (name == key) = false := beq_eq_false_iff_ne.mpr (Ne.symm hkey)
      simp [hkey, hne, ih hrest]

theorem lookup_of_not_mem {γ : Type} {entries : List (String × γ)} {name : String}
    (h : name ∉ entries.map (·.1)) : entries.lookup name = none := by
  rw [List.lookup_eq_none_iff]
  intro e he
  rw [bne_iff_ne]
  rintro rfl
  exact h (List.mem_map_of_mem he)

namespace Fields

/-- The fields of a record that was written with `members` and that lost those under `gone`. -/
structure Left (gone : String → Bool) (members : List (String × Json)) (f : Fields) : Prop where
  not_positional : f.positional = false
  value?_eq : ∀ name, f.value? name = if gone name then none else members.lookup name

theorem exists_left (h : (members.map (·.1)).Nodup) (gone : String → Bool) :
    ∃ f, ((record members).without gone).fields? (members.map (·.1)) = some f ∧
      Left gone members f := by
  have hnodup : ((members.filter fun m => !gone m.1).map (·.1)).Nodup :=
    h.sublist (List.filter_sublist.map _)
  have hall : (named (members.filter fun m => !gone m.1)).all (·.1.isSome) = true := by
    simp [named]
  have hfield : namedField? (named (members.filter fun m => !gone m.1)) =
      fun name => pure (name, if gone name then none else members.lookup name) := by
    funext name
    rw [namedField?, occurrences_named hnodup, lookup_filter]
    cases (if gone name then none else members.lookup name) <;> rfl
  refine ⟨⟨false, (members.map (·.1)).map fun name =>
    (name, if gone name then none else members.lookup name)⟩, ?_, rfl, fun name => ?_⟩
  · rw [without_record, record_eq, fields?, if_pos hall, hfield, List.mapM_pure]
    rfl
  · by_cases hmem : name ∈ members.map (·.1)
    · rw [value?, List.lookup_graph _ hmem]
      rfl
    · rw [value?, lookup_of_not_mem hmem, lookup_of_not_mem, ite_self]
      · rfl
      · simpa [Function.comp_def] using hmem

/-- A field that was given is read like any value that may be `null`. -/
theorem optional_of_value? {f : Fields} {name : String} {j : Json} {read : Json → Option β}
    (h : f.value? name = some j) : f.optional name read = nullable read j := by
  rw [optional, h]
  cases j <;> rfl

namespace Left

variable {f : Fields} {name : String} {j : Json} {read : Json → Option β} {v : β}

theorem required (hf : f.Left gone members) (hfound : members.lookup name = some j)
    (hread : read j = some v) :
    f.required name read = if gone name then none else some v := by
  rw [Fields.required, hf.value?_eq, hfound, ← hread]
  cases gone name <;> rfl

theorem orElse (hf : f.Left gone members) (hfound : members.lookup name = some j)
    (hread : read j = some v) (fallback : β) :
    f.orElse name read fallback = some (if gone name then fallback else v) := by
  rw [Fields.orElse, hf.value?_eq, hfound]
  cases gone name with
  | true => rfl
  | false => exact hread

theorem optional (hf : f.Left gone members) {write : β → Json} {o : Option β}
    (hfound : members.lookup name = some (ofOption write o))
    (hread : ∀ v ∈ o, write v ≠ .null ∧ read (write v) = some v) :
    f.optional name read = some (if gone name then none else o) := by
  cases hgone : gone name with
  | true =>
    have hvalue : f.value? name = none := by rw [hf.value?_eq, if_pos hgone]
    rw [Fields.optional, hvalue, hf.not_positional]
    rfl
  | false =>
    have hvalue : f.value? name = some (ofOption write o) := by
      rw [hf.value?_eq, hgone]
      exact hfound
    rw [optional_of_value? hvalue, nullable_ofOption hread]
    rfl

theorem required_nat64 (hf : f.Left gone members) {n : Nat} (hn : n < 2 ^ 64) (name : String)
    (hfound : members.lookup name = some (ofNat n)) :
    f.required name nat64? = if gone name then none else some n :=
  hf.required hfound (nat64?_ofNat hn)

end Left
end Fields

/-! ## Reading in turn -/

/-- The value is given unless something that it needs is gone. -/
theorem bind_unless {γ : Type} (g : Bool) (a : β) (f : β → Option γ) :
    (if g then none else some a).bind f = if g then none else f a := by
  cases g <;> rfl

theorem unless_any_cons (p : String → Bool) (key : String) (rest : List String) (o : Option β) :
    (if (key :: rest).any p then none else o) =
      if p key then none else if rest.any p then none else o := by
  cases h : p key <;> simp [h]

theorem unless_any_nil (p : String → Bool) (o : Option β) :
    (if ([] : List String).any p then none else o) = o := rfl

/-! ## Text -/

theorem plain_ofOption {write : β → Json} (h : ∀ v, Plain (write v)) (o : Option β) :
    Plain (ofOption write o) := by
  cases o with
  | none => exact .null
  | some v => exact h v

theorem Plain.without {j : Json} (h : Plain j) (gone : String → Bool) : Plain (j.without gone) := by
  cases h with
  | null => exact .null
  | bool b => exact .bool b
  | nat n => exact .nat n
  | text s => exact .text s
  | list h => exact .list h
  | record h =>
    rw [without_record]
    exact .record fun m hm => h m (List.mem_of_mem_filter hm)

/-- Members that are gone are missing from the text, and nothing else is. -/
theorem read_without {j : Json} (h : Plain j) (gone : String → Bool) (read : Json → Option β) :
    (parse? (j.without gone).compact).bind read = read (j.without gone) := by
  rw [parse?_compact (h.without gone), Option.bind_some]

end BucketClock.Json
