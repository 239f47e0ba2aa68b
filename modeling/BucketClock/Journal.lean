import BucketClock.Error
import BucketClock.Policy

/-!
Notes that operations make on the way: a supplier that ran, a policy that was
asked, a call on the store, or a notice for the log. A notice is a case with its
data; `level`, `text` and `fields` say how a log shows it.
-/

namespace BucketClock

inductive Level where
  | debug
  | info
  | warn
  | error
  deriving DecidableEq, Repr

def Level.name : Level → String
  | .debug => "DEBUG"
  | .info => "INFO"
  | .warn => "WARN"
  | .error => "ERROR"

inductive Loop where
  | direct
  | ticking
  deriving DecidableEq, Repr

inductive Notice where
  | supplyMismatch (declared supplied : Nat)
  | windowGrown (start count : Nat)
  | requestClamped (track : String) (requested position : Nat)
  | scheduled (track : String) (id : Option Nat) (bucket : Nat)
  | rolledOver (track : String) (id : Option Nat) (bucket : Nat)
  | wrongBucket (track : String) (bucket position : Nat)
  | retired (track : String) (id : Option Nat) (position : Nat)
  | targetClamped (track : String) (id : Option Nat) (requested position : Nat)
  | frameDelivered (track : String) (position items : Nat)
  | held (track : String) (id : Option Nat) (bucket : Nat) (error : TrackError)
  | lost (track : String) (error : TrackError)
  | removalFailed (track : String) (bucket : Nat) (error : TrackError)
  | capReached (track : String) (frames : Nat)
  | nothingPending (track : String)
  | itemFailed (bucket : Nat) (incident : Incident)
  | finished (loop : Loop) (track : String) (frames delivered failed : Nat)
  | built (track : String) (config : TrackConfig)
  deriving DecidableEq, Repr

namespace Notice

def level : Notice → Level
  | .supplyMismatch .. | .wrongBucket .. | .targetClamped .. | .itemFailed .. => .warn
  | .scheduled .. | .retired .. | .finished .. => .info
  | .held .. | .lost .. | .removalFailed .. => .error
  | .windowGrown .. | .requestClamped .. | .rolledOver .. | .frameDelivered .. | .capReached ..
  | .nothingPending .. | .built .. => .debug

def text (showId : ShowId) : Notice → String
  | .supplyMismatch .. => "supplier returned a buffer that disagrees with the declared size"
  | .windowGrown .. => "expanded resource window"
  | .requestClamped .. => "delivery time not in the future, clamping"
  | .scheduled .. => "event scheduled"
  | .rolledOver .. => "event rolled over"
  | .wrongBucket .. => "timeline bucket does not match track position"
  | .retired .. => "event retired"
  | .targetClamped .. => "reschedule target already drained, clamping"
  | .frameDelivered .. => "frame delivered"
  | .held _ _ _ e => "failed to roll over event, holding it for retry: " ++ e.message showId
  | .lost _ e => "failed to roll over event and could not withdraw it: " ++ e.message showId
  | .removalFailed _ _ e => "failed to remove drained bucket: " ++ e.message showId
  | .capReached .. => "frame cap reached"
  | .nothingPending .. => "no pending commitments, stopping"
  | .itemFailed _ i => "frame item handler failed: " ++ i.chain showId
  | .finished .direct .. => "drive finished"
  | .finished .ticking .. => "ticker finished"
  | .built .. => "track built"

/-- Named values shown with a notice. -/
def fields (showId : ShowId) (n : Notice) : List (String × String) :=
  let nat := Text.describeNat
  let ident := Text.describeOption showId
  match n with
  | .supplyMismatch declared supplied => [("declared", nat declared), ("supplied", nat supplied)]
  | .windowGrown start count => [("from", nat start), ("count", nat count)]
  | .requestClamped track requested position =>
    [("track", track), ("requested", nat requested), ("position", nat position)]
  | .scheduled track id bucket | .rolledOver track id bucket | .held track id bucket _ =>
    [("track", track), ("event_id", ident id), ("bucket", nat bucket)]
  | .wrongBucket track bucket position =>
    [("track", track), ("bucket", nat bucket), ("position", nat position)]
  | .retired track id position =>
    [("track", track), ("event_id", ident id), ("position", nat position)]
  | .targetClamped track id requested position =>
    [("track", track), ("event_id", ident id), ("requested", nat requested),
     ("position", nat position)]
  | .frameDelivered track position items =>
    [("track", track), ("position", nat position), ("items", nat items)]
  | .lost track _ | .nothingPending track => [("track", track)]
  | .removalFailed track bucket _ => [("track", track), ("bucket", nat bucket)]
  | .capReached track frames => [("track", track), ("frames", nat frames)]
  | .itemFailed bucket _ => [("bucket", nat bucket)]
  | .finished _ track frames delivered failed =>
    [("track", track), ("frames", nat frames), ("delivered", nat delivered),
     ("failed", nat failed)]
  | .built track config => [("track", track), ("config", config.describe)]

end Notice

/-- A call on a store: by bucket, except that an identity is asked for by delivery time. -/
inductive StoreCall where
  | get (id : Nat)
  | save (id : Nat)
  | assign (deliveryTime : Nat)
  | remove (id : Nat)
  deriving DecidableEq, Repr

inductive Reply where
  | hit
  | miss
  | done
  | failed
  deriving DecidableEq, Repr

/-- A note. `consulted true` marks the ready-made policy `every`. -/
inductive Note where
  | supplied (count : Nat)
  | consulted (readyMade : Bool) (rollover : Rollover)
  | called (call : StoreCall) (reply : Reply)
  | logged (notice : Notice)
  deriving DecidableEq, Repr

end BucketClock
