import BucketClock.Config.Basic
import BucketClock.Json.Fields
import BucketClock.Json.Printer
import BucketClock.Json.Reader
import BucketClock.Track.Drive

/-!
The records that are kept as JSON: counters of a track, reports of a loop, audit
entries and settings. Members are written in the order in which the fields are
declared.
-/

namespace BucketClock

open Json (ofNat ofOption ofString record)

/-! ## Cases without data -/

def Phase.toJson (p : Phase) : Json := ofString p.name

def Phase.ofJson? (j : Json) : Option Phase :=
  match j.word? with
  | some "full" => some .full
  | some "not_empty" => some .notEmpty
  | some "exhausted" => some .exhausted
  | _ => none

def AuditAction.toJson (a : AuditAction) : Json := ofString a.name

def AuditAction.ofJson? (j : Json) : Option AuditAction :=
  match j.word? with
  | some "schedule" => some .schedule
  | some "rollover" => some .rollover
  | some "retire" => some .retire
  | some "drain" => some .drain
  | _ => none

def Backend.toJson (b : Backend) : Json := ofString b.name

def Backend.ofJson? (j : Json) : Option Backend :=
  match j.word? with
  | some "in_memory" => some .inMemory
  | _ => none

/-! ## Counters and reports -/

def TrackStats.toJson (s : TrackStats) : Json :=
  record
    [("position", ofNat s.position), ("pending", ofNat s.pending), ("horizon", ofNat s.horizon),
     ("frames", ofNat s.frames), ("delivered_items", ofNat s.deliveredItems),
     ("scheduled", ofNat s.scheduled), ("rollovers", ofNat s.rollovers),
     ("rollover_failures", ofNat s.rolloverFailures), ("stranded", ofNat s.stranded),
     ("retired", ofNat s.retired)]

def TrackStats.ofJson? (j : Json) : Option TrackStats := do
  let f ← j.fields? ["position", "pending", "horizon", "frames", "delivered_items", "scheduled",
    "rollovers", "rollover_failures", "stranded", "retired"]
  let position ← f.required "position" Json.nat64?
  let pending ← f.required "pending" Json.nat64?
  let horizon ← f.required "horizon" Json.nat64?
  let frames ← f.required "frames" Json.nat64?
  let deliveredItems ← f.required "delivered_items" Json.nat64?
  let scheduled ← f.required "scheduled" Json.nat64?
  let rollovers ← f.required "rollovers" Json.nat64?
  let rolloverFailures ← f.required "rollover_failures" Json.nat64?
  let stranded ← f.required "stranded" Json.nat64?
  let retired ← f.required "retired" Json.nat64?
  some { position, pending, horizon, frames, deliveredItems, scheduled, rollovers,
         rolloverFailures, stranded, retired }

def DriveReport.toJson (r : DriveReport) : Json :=
  record [("frames", ofNat r.frames), ("delivered", ofNat r.delivered), ("failed", ofNat r.failed)]

def DriveReport.ofJson? (j : Json) : Option DriveReport := do
  let f ← j.fields? ["frames", "delivered", "failed"]
  let frames ← f.required "frames" Json.nat64?
  let delivered ← f.required "delivered" Json.nat64?
  let failed ← f.required "failed" Json.nat64?
  some { frames, delivered, failed }

/-! ## Audit entries -/

def AuditEntry.toJson (e : AuditEntry) : Json :=
  record
    [("track", ofString e.track), ("action", e.action.toJson),
     ("event_id", ofOption ofNat e.eventId), ("bucket", ofNat e.bucket),
     ("position", ofNat e.position), ("created_at_ms", ofNat e.createdAt),
     ("payload", ofOption ofString e.payload)]

def AuditEntry.ofJson? (j : Json) : Option AuditEntry := do
  let f ← j.fields? ["track", "action", "event_id", "bucket", "position", "created_at_ms",
    "payload"]
  let track ← f.required "track" Json.text?
  let action ← f.required "action" AuditAction.ofJson?
  let eventId ← f.optional "event_id" Json.nat64?
  let bucket ← f.required "bucket" Json.nat64?
  let position ← f.required "position" Json.nat64?
  let createdAt ← f.required "created_at_ms" Json.nat128?
  let payload ← f.optional "payload" Json.text?
  some { track, action, eventId, bucket, position, createdAt, payload }

/-! ## Settings -/

def TrackConfig.toJson (c : TrackConfig) : Json :=
  record
    [("frame_width", ofNat c.frameWidth), ("reschedule_increment", ofNat c.increment),
     ("audit_capacity", ofOption ofNat c.auditCapacity), ("repository", c.backend.toJson)]

/-- Settings that are not given have their defaults. -/
def TrackConfig.ofJson? (j : Json) : Option TrackConfig := do
  let f ← j.fields? ["frame_width", "reschedule_increment", "audit_capacity", "repository"]
  let frameWidth ← f.orElse "frame_width" Json.nat64? ({} : TrackConfig).frameWidth
  let increment ← f.orElse "reschedule_increment" Json.nat64? ({} : TrackConfig).increment
  let auditCapacity ← f.orElse "audit_capacity" (Json.nullable Json.nat64?)
    ({} : TrackConfig).auditCapacity
  let backend ← f.orElse "repository" Backend.ofJson? ({} : TrackConfig).backend
  some { frameWidth, increment, auditCapacity, backend }

/-- Sets the settings of a track, in place of earlier ones under its name. -/
def SchedulerConfig.set (name : String) (c : TrackConfig) (cfg : SchedulerConfig) :
    SchedulerConfig :=
  ⟨cfg.tracks.filter (fun t => t.1 ≠ name) ++ [(name, c)]⟩

def SchedulerConfig.ofMembers? : List (Option String × Json) → SchedulerConfig →
    Option SchedulerConfig
  | [], cfg => some cfg
  | (some name, j) :: rest, cfg =>
    match TrackConfig.ofJson? j with
    | some c => ofMembers? rest (cfg.set name c)
    | none => none
  | (none, _) :: _, _ => none

def SchedulerConfig.ofTracks? : Json → Option SchedulerConfig
  | .obj members => ofMembers? members ⟨[]⟩
  | _ => none

def SchedulerConfig.ofJson? (j : Json) : Option SchedulerConfig := do
  let f ← j.fields? ["tracks"]
  f.required "tracks" SchedulerConfig.ofTracks?

/-- Why a text is no usable configuration: it cannot be read, or its settings have a problem. -/
inductive ConfigTextError where
  | unreadable
  | invalid (problem : ConfigProblem)
  deriving DecidableEq, Repr

/-- The settings a text holds, if a scheduler can run with them. -/
def SchedulerConfig.parse (text : String) : Except ConfigTextError SchedulerConfig :=
  match (Json.parse? text).bind SchedulerConfig.ofJson? with
  | none => .error .unreadable
  | some c =>
    match c.problem? with
    | some p => .error (.invalid p)
    | none => .ok c

end BucketClock
