import BucketClock.Error
import BucketClock.Text.Blank
import BucketClock.Text.Numeral

/-!
Settings from environment variables. A variable holds bytes; one that is unset
or whose bytes are no text leaves its setting at the default, and one that holds
a text has to hold a number.
-/

namespace BucketClock

/-- The variables of a process with the bytes they hold; of two entries for one name the first
counts. -/
structure Environment where
  entries : List (String × ByteArray) := []

namespace Environment

def bytes? (env : Environment) (name : String) : Option ByteArray := env.entries.lookup name

def set (name : String) (bytes : ByteArray) (env : Environment) : Environment :=
  ⟨(name, bytes) :: env.entries⟩

theorem bytes?_set (name : String) (bytes : ByteArray) (env : Environment) (n : String) :
    (env.set name bytes).bytes? n = if n = name then some bytes else env.bytes? n := by
  by_cases h : n = name
  · simp [set, bytes?, h]
  · have hne : (n == name) = false := by simpa using h
    simp [set, bytes?, List.lookup_cons, h, hne]

def text? (env : Environment) (name : String) : Option String :=
  (env.bytes? name).bind String.fromUTF8?

/-- A number of 64 bits between blanks, with a plus sign or without. -/
def number? (raw : String) : Option Nat :=
  let digits := match Text.trim raw.toList with
    | '+' :: rest => rest
    | cs => cs
  Text.numeralBelow? (Nat.pow 2 64) digits

def setting (env : Environment) (name : String) : Except TrackError (Option Nat) :=
  match env.text? name with
  | none => .ok none
  | some raw =>
    match number? raw with
    | some n => .ok (some n)
    | none => .error (.config (.variable name raw))

end Environment

namespace TrackConfig

def frameWidthVariable : String := "CART_TRACK_FRAME_WIDTH"

def incrementVariable : String := "CART_TRACK_RESCHEDULE_INCREMENT"

def auditCapacityVariable : String := "CART_TRACK_AUDIT_CAPACITY"

/-- The settings of the three variables, defaults standing in for those that are unset. -/
def ofEnvironment (env : Environment) : Except TrackError TrackConfig := do
  let frameWidth ← env.setting frameWidthVariable
  let increment ← env.setting incrementVariable
  let auditCapacity ← env.setting auditCapacityVariable
  let defaults : TrackConfig := {}
  let c : TrackConfig := { defaults with
    frameWidth := frameWidth.getD defaults.frameWidth
    increment := increment.getD defaults.increment
    auditCapacity := auditCapacity.orElse fun _ => defaults.auditCapacity }
  match c.fault? with
  | some fault => .error (.config (.setting fault))
  | none => .ok c

end TrackConfig
end BucketClock
