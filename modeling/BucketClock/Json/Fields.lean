import BucketClock.Json.Basic
import BucketClock.Text.Numeral

/-!
Records in JSON. A record is an object, whose members may come in any order and
among unknown ones but not twice, or an array of its fields in order. A case
without data is its name, or an object with that name over `null`.
-/

namespace BucketClock.Json

/-- The fields of a record, each with its value if it was given; `positional` if the record was
written as an array. -/
structure Fields where
  positional : Bool
  entries : List (String × Option Json)

def occurrences (name : String) (members : List (Option String × Json)) : List Json :=
  (members.filter fun m => m.1 = some name).map (·.2)

def namedField? (members : List (Option String × Json)) (name : String) :
    Option (String × Option Json) :=
  match occurrences name members with
  | [] => some (name, none)
  | [j] => some (name, some j)
  | _ => none

def fields? (names : List String) : Json → Option Fields
  | .obj members =>
    if members.all (·.1.isSome) then (names.mapM (namedField? members)).map (⟨false, ·⟩) else none
  | .arr items =>
    if items.length ≤ names.length then
      some ⟨true, names.zip (items.map some ++ List.replicate (names.length - items.length) none)⟩
    else none
  | _ => none

namespace Fields

variable {β : Type}

def value? (f : Fields) (name : String) : Option Json := (f.entries.lookup name).join

def required (f : Fields) (name : String) (read : Json → Option β) : Option β :=
  (f.value? name).bind read

/-- A field that may be absent: `none` stands for `null`, and in an object for no member. -/
def optional (f : Fields) (name : String) (read : Json → Option β) : Option (Option β) :=
  match f.value? name with
  | none => if f.positional then none else some none
  | some .null => some none
  | some j => (read j).map some

/-- A field with a value of its own where none is given. -/
def orElse (f : Fields) (name : String) (read : Json → Option β) (fallback : β) : Option β :=
  match f.value? name with
  | none => some fallback
  | some j => read j

end Fields

/-- Reads `null` as `none` and anything else as a value. -/
def nullable {β : Type} (read : Json → Option β) : Json → Option (Option β)
  | .null => some none
  | j => (read j).map some

/-- A number below `limit`, written with digits only. -/
def natBelow? (limit : Nat) : Json → Option Nat
  | .num literal => Text.numeralBelow? limit literal.toList
  | _ => none

def nat64? : Json → Option Nat := natBelow? (Nat.pow 2 64)

def nat128? : Json → Option Nat := natBelow? (Nat.pow 2 128)

def text? : Json → Option String
  | .str text => text
  | _ => none

/-- The name of a case without data. -/
def word? : Json → Option String
  | .str text => text
  | .obj [(name, .null)] => name
  | _ => none

end BucketClock.Json
