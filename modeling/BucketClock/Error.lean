import BucketClock.Config.Basic

/-!
Failures. A `TrackError` is a cause, known here or reported by a store in its
own words; an `Incident` is what a frame handler reports, with the contexts that
were wrapped around its cause.

An identity is shown by a function the caller may choose, since identities are
numbers here and may be names elsewhere.
-/

namespace BucketClock

abbrev ShowId := Nat → String

inductive ErrorKind where
  | invalidState
  | backend
  | invalidConfig
  deriving DecidableEq, Repr

def ErrorKind.name : ErrorKind → String
  | .invalidState => "InvalidState"
  | .backend => "Backend"
  | .invalidConfig => "InvalidConfig"

/-- The words in front of every message of a kind. -/
def ErrorKind.label : ErrorKind → String
  | .invalidState => "invalid state"
  | .backend => "backend error"
  | .invalidConfig => "invalid configuration"

inductive TrackError where
  | told (kind : ErrorKind) (text : String)
  | exhausted (id : Option Nat)
  | noBucket
  | config (problem : ConfigProblem)
  deriving DecidableEq, Repr

namespace TrackError

def kind : TrackError → ErrorKind
  | .told kind _ => kind
  | .exhausted _ => .invalidState
  | .noBucket => .backend
  | .config _ => .invalidConfig

/-- The message without the words of its kind. -/
def detail (showId : ShowId) : TrackError → String
  | .told _ text => text
  | .exhausted id =>
    "event " ++ Text.describeOption showId id ++ " is exhausted and cannot be scheduled"
  | .noBucket => "timeline yielded no bucket"
  | .config problem => problem.message

def message (showId : ShowId) (e : TrackError) : String :=
  e.kind.label ++ ": " ++ e.detail showId

def describe (showId : ShowId) (e : TrackError) : String :=
  e.kind.name ++ "(" ++ Text.quoted (e.detail showId) ++ ")"

end TrackError

/-- The root of a handler's failure. -/
inductive Cause where
  | track (error : TrackError)
  | message (text : String)
  deriving DecidableEq, Repr

/-- A failure reported by a frame handler; the last context added stands first. -/
structure Incident where
  cause : Cause
  contexts : List String := []
  deriving DecidableEq, Repr

namespace Incident

def withContext (text : String) (i : Incident) : Incident :=
  { i with contexts := text :: i.contexts }

def trackError? (i : Incident) : Option TrackError :=
  match i.cause with
  | .track e => some e
  | .message _ => none

/-- All contexts and the cause, outermost first. -/
def chain (showId : ShowId) (i : Incident) : String :=
  let root := match i.cause with
    | .track e => e.message showId
    | .message text => text
  ": ".intercalate (i.contexts ++ [root])

end Incident
end BucketClock
