import BucketClock.Track.Basic

/-!
Building tracks from their settings. Settings are checked before any store is
asked for.
-/

namespace BucketClock

variable {σ α φ : Type}

/-- A track over a store with the given settings, and with an audit trail if they have a
capacity for one. -/
def TrackConfig.build (name : String) (c : TrackConfig) (store : Store α φ) :
    Outcome Unit (Except TrackError (Track α φ)) :=
  match c.fault? with
  | some fault => ⟨.error (.config (.track name fault)), (), []⟩
  | none =>
    let t := (((Track.ofStore store).withName name).withFrameWidth c.frameWidth).withIncrement
      c.increment
    let t := match c.auditCapacity with
      | some capacity => t.withAudit (.empty capacity)
      | none => t
    ⟨.ok t, (), [.logged (.built name c)]⟩

/-- What makes the store of a track, with a state of its own: it may fail. -/
abbrev StoreMaker (σ α φ : Type) :=
  String → TrackConfig → σ → Except TrackError (Store α φ) × σ

/-- Builds the tracks of a list in turn, up to the first that fails. -/
def buildEach (storeFor : StoreMaker σ α φ) :
    List (String × TrackConfig) → σ →
      Outcome σ (Except TrackError (List (String × Track α φ)))
  | [], s => ⟨.ok [], s, []⟩
  | (name, c) :: rest, s =>
    let made := storeFor name c s
    match made.1 with
    | .error e => ⟨.error e, made.2, []⟩
    | .ok store =>
      let built := c.build name store
      match built.value with
      | .error e => ⟨.error e, made.2, built.notes⟩
      | .ok t =>
        let others := buildEach storeFor rest made.2
        ⟨others.value.map ((name, t) :: ·), others.state, built.notes ++ others.notes⟩

/-- Builds every track of a scheduler, each over the store made for it. No store is asked for
while the settings have a problem. -/
def SchedulerConfig.build (cfg : SchedulerConfig) (storeFor : StoreMaker σ α φ) (s : σ) :
    Outcome σ (Except TrackError (List (String × Track α φ))) :=
  match cfg.problem? with
  | some p => ⟨.error (.config p), s, []⟩
  | none => buildEach storeFor cfg.tracks s

end BucketClock
