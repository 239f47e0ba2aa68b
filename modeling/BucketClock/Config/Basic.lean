import BucketClock.Text.Described

/-!
Settings of a single track, what makes them unusable, and the settings of a
whole scheduler: a list of named tracks.
-/

namespace BucketClock

inductive Backend where
  | inMemory
  deriving DecidableEq, Repr

def Backend.name : Backend → String
  | .inMemory => "in_memory"

/-- Settings of one track. Without an audit capacity there is no audit trail. -/
structure TrackConfig where
  frameWidth : Nat := 1
  increment : Nat := 1
  auditCapacity : Option Nat := none
  backend : Backend := .inMemory
  deriving DecidableEq, Repr

/-- A setting that no track can run with. -/
inductive ConfigFault where
  | zeroFrameWidth
  | zeroIncrement
  | zeroAuditCapacity
  deriving DecidableEq, Repr

def ConfigFault.message : ConfigFault → String
  | .zeroFrameWidth => "frame_width must be greater than 0"
  | .zeroIncrement => "reschedule_increment must be greater than 0"
  | .zeroAuditCapacity => "audit_capacity must be greater than 0 when set"

namespace TrackConfig

def fault? (c : TrackConfig) : Option ConfigFault :=
  if c.frameWidth = 0 then some .zeroFrameWidth
  else if c.increment = 0 then some .zeroIncrement
  else if c.auditCapacity = some 0 then some .zeroAuditCapacity
  else none

def describe (c : TrackConfig) : String :=
  Text.describeRecord "TrackConfig"
    [("frame_width", Text.describeNat c.frameWidth),
     ("reschedule_increment", Text.describeNat c.increment),
     ("audit_capacity", Text.describeOption Text.describeNat c.auditCapacity),
     ("repository", match c.backend with | .inMemory => "InMemory")] false

end TrackConfig

/-- What makes a configuration unusable, and where it was found. -/
inductive ConfigProblem where
  | setting (fault : ConfigFault)
  | noTracks
  | track (name : String) (fault : ConfigFault)
  | variable (name raw : String)
  | environmentFile
  deriving DecidableEq, Repr

def ConfigProblem.message : ConfigProblem → String
  | .setting fault => fault.message
  | .noTracks => "at least one track must be defined"
  | .track name fault => "track `" ++ name ++ "` invalid: " ++ fault.message
  | .variable name raw => name ++ ": cannot parse `" ++ raw ++ "`"
  | .environmentFile => ".env load failed"

structure SchedulerConfig where
  tracks : List (String × TrackConfig)
  deriving DecidableEq, Repr

/-- The first problem of a scheduler's settings: no track at all, or a track with a fault. -/
def SchedulerConfig.problem? (c : SchedulerConfig) : Option ConfigProblem :=
  if c.tracks.isEmpty then some .noTracks
  else c.tracks.findSome? fun t => t.2.fault?.map (.track t.1)

end BucketClock
