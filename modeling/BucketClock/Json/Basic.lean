import BucketClock.Text.Described

/-!
JSON values. A number keeps the literal it was written with, and an object keeps
its members in order, repeated keys included. A string or key stands for no text
(`none`) if it has an unpaired surrogate: such a value can be skipped, not used.
-/

namespace BucketClock

inductive Json where
  | null
  | bool (b : Bool)
  | num (literal : String)
  | str (text : Option String)
  | arr (items : List Json)
  | obj (members : List (Option String × Json))
  deriving Inhabited

namespace Json

def ofString (s : String) : Json := .str (some s)

def ofNat (n : Nat) : Json := .num (Text.describeNat n)

def ofOption {α : Type} (f : α → Json) : Option α → Json
  | none => .null
  | some a => f a

def record (members : List (String × Json)) : Json := .obj (members.map fun m => (some m.1, m.2))

/-- The last value under a key of an object. -/
def member? (key : String) : Json → Option Json
  | .obj members => members.reverse.lookup (some key)
  | _ => none

/-- Inserts a member by its key, in place of one with the same key. -/
def insertMember (m : Option String × Json) :
    List (Option String × Json) → List (Option String × Json)
  | [] => [m]
  | n :: rest =>
    if m.1 = n.1 then m :: rest
    else if m.1.getD "" < n.1.getD "" then m :: n :: rest
    else n :: insertMember m rest

mutual

/-- The value with the members of every object in the order of their keys, the last of
members with one key standing for all of them. -/
def canonical : Json → Json
  | .arr items => .arr (canonicalItems items)
  | .obj members => .obj ((canonicalMembers members).foldl (fun done m => insertMember m done) [])
  | j => j

def canonicalItems : List Json → List Json
  | [] => []
  | j :: rest => j.canonical :: canonicalItems rest

def canonicalMembers : List (Option String × Json) → List (Option String × Json)
  | [] => []
  | (key, j) :: rest => (key, j.canonical) :: canonicalMembers rest

end

end Json
end BucketClock
