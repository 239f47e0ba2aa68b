/-!
Audit trails: one entry for every commitment that is scheduled, rolled over or
retired and for every bucket that is drained. A trail keeps the newest entries
up to its capacity.
-/

namespace BucketClock

inductive AuditAction where
  | schedule
  | rollover
  | retire
  | drain
  deriving DecidableEq, Repr

def AuditAction.name : AuditAction → String
  | .schedule => "schedule"
  | .rollover => "rollover"
  | .retire => "retire"
  | .drain => "drain"

/-- `createdAt` is a wall-clock reading in milliseconds. -/
structure AuditEntry where
  track : String
  action : AuditAction
  eventId : Option Nat
  bucket : Nat
  position : Nat
  createdAt : Nat
  payload : Option String
  deriving DecidableEq, Repr

/-- The entries kept are those of `front`, oldest first, and then those of `back`, which holds the
latest first. -/
structure AuditTrail where
  capacity : Nat
  front : List AuditEntry := []
  back : List AuditEntry := []
  size : Nat := 0
  size_eq : size = front.length + back.length := by rfl

namespace AuditTrail

def empty (capacity : Nat) : AuditTrail := { capacity := capacity }

/-- The entries kept, oldest first. -/
def entries (t : AuditTrail) : List AuditEntry := t.front ++ t.back.reverse

theorem size_eq_length (t : AuditTrail) : t.size = t.entries.length := by
  simp [entries, t.size_eq]

def dropOldest (t : AuditTrail) : AuditTrail :=
  match hfront : t.front with
  | _ :: front =>
    { t with
      front := front
      size := t.size - 1
      size_eq := by simp [t.size_eq, hfront] }
  | [] =>
    match hback : t.back.reverse with
    | [] => t
    | _ :: front =>
      { t with
        front := front
        back := []
        size := t.size - 1
        size_eq := by
          have hlength := congrArg List.length hback
          simp at hlength
          simp [t.size_eq, hfront, hlength] }

theorem entries_dropOldest (t : AuditTrail) : t.dropOldest.entries = t.entries.tail := by
  unfold dropOldest
  split
  · next hfront => simp [entries, hfront]
  · next hfront =>
    split
    · next hback => simp [entries, hfront, hback]
    · next hback => simp [entries, hfront, hback]

def push (e : AuditEntry) (t : AuditTrail) : AuditTrail :=
  { t with
    back := e :: t.back
    size := t.size + 1
    size_eq := by simp [t.size_eq]; omega }

theorem entries_push (e : AuditEntry) (t : AuditTrail) :
    (t.push e).entries = t.entries ++ [e] := by
  simp [push, entries]

/-- Adds an entry at the end; the oldest one makes room if the trail is full. -/
def record (t : AuditTrail) (e : AuditEntry) : AuditTrail :=
  if t.capacity = 0 then t
  else if t.capacity ≤ t.size then t.dropOldest.push e
  else t.push e

theorem entries_record (t : AuditTrail) (e : AuditEntry) :
    (t.record e).entries =
      if t.capacity = 0 then t.entries
      else (if t.capacity ≤ t.entries.length then t.entries.tail else t.entries) ++ [e] := by
  simp only [record, ← size_eq_length]
  split
  · rfl
  · split
    · rw [entries_push, entries_dropOldest]
    · rw [entries_push]

/-- A trail with room keeps all its entries. -/
theorem record_of_room {t : AuditTrail} (h : t.entries.length < t.capacity) (e : AuditEntry) :
    (t.record e).entries = t.entries ++ [e] ∧ (t.record e).capacity = t.capacity := by
  have hsome : t.capacity ≠ 0 := Nat.ne_of_gt (Nat.lt_of_le_of_lt (Nat.zero_le _) h)
  constructor
  · rw [entries_record, if_neg hsome, if_neg (Nat.not_le_of_lt h)]
  · rw [record, if_neg hsome, size_eq_length, if_neg (Nat.not_le_of_lt h)]
    rfl

end AuditTrail
end BucketClock
