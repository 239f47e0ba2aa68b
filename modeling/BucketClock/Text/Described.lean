import BucketClock.Text.Quoted

/-!
Descriptions of values: a record is its name and its fields between braces, an
optional value is wrapped in its case, a flag is a word. A record that keeps
some of its fields to itself closes with two dots.
-/

namespace BucketClock.Text

def describeNat (n : Nat) : String := String.ofList (Nat.toDigits 10 n)

def describeBool (b : Bool) : String := if b then "true" else "false"

def describeOption {α : Type} (f : α → String) : Option α → String
  | none => "None"
  | some a => "Some(" ++ f a ++ ")"

/-- A record with at least one field; `more` says that others are left out. -/
def describeRecord (name : String) (fields : List (String × String)) (more : Bool) : String :=
  name ++ " \x7b " ++ ", ".intercalate (fields.map fun f => f.1 ++ ": " ++ f.2)
    ++ (if more then ", .. \x7d" else " \x7d")

end BucketClock.Text
