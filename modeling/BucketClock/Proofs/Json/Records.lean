import BucketClock.Json.Records
import BucketClock.Proofs.Json.Fields

/-!
Counters, reports, audit entries and settings are read back from the text they
are kept as. A member that is missing from the text makes counters and reports
unreadable, a setting that is missing has its default, and of an audit entry
only the identifier and the payload may be missing.

Main statement: `records_read_back`.
-/

namespace BucketClock

open Json (ofNat)

theorem AuditAction.ofJson?_toJson (a : AuditAction) : ofJson? a.toJson = some a := by
  cases a <;> rfl

theorem Backend.ofJson?_toJson (b : Backend) : ofJson? b.toJson = some b := by
  cases b
  rfl

/-! ## Counters and reports -/

def TrackStats.Fits (s : TrackStats) : Prop :=
  ∀ n ∈ [s.position, s.pending, s.horizon, s.frames, s.deliveredItems, s.scheduled, s.rollovers,
    s.rolloverFailures, s.stranded, s.retired], n < 2 ^ 64

theorem TrackStats.ofJson?_without {s : TrackStats} (h : s.Fits) (gone : String → Bool) :
    ofJson? (s.toJson.without gone) = if s.toJson.keys.any gone then none else some s := by
  have hkeys : s.toJson.keys = ["position", "pending", "horizon", "frames", "delivered_items",
      "scheduled", "rollovers", "rollover_failures", "stranded", "retired"] := rfl
  have hleft : ∃ f, (s.toJson.without gone).fields? s.toJson.keys = some f ∧ f.Left gone _ :=
    Json.Fields.exists_left (by simp) gone
  rw [hkeys] at hleft ⊢
  obtain ⟨f, hfields, hf⟩ := hleft
  simp only [Fits, List.forall_mem_cons] at h
  obtain ⟨hposition, hpending, hhorizon, hframes, hdelivered, hscheduled, hrollovers, hfailures,
    hstranded, hretired, _⟩ := h
  simp only [ofJson?, Option.bind_eq_bind, hfields, Option.bind_some,
    hf.required_nat64 hposition "position" rfl, hf.required_nat64 hpending "pending" rfl,
    hf.required_nat64 hhorizon "horizon" rfl, hf.required_nat64 hframes "frames" rfl,
    hf.required_nat64 hdelivered "delivered_items" rfl,
    hf.required_nat64 hscheduled "scheduled" rfl, hf.required_nat64 hrollovers "rollovers" rfl,
    hf.required_nat64 hfailures "rollover_failures" rfl,
    hf.required_nat64 hstranded "stranded" rfl, hf.required_nat64 hretired "retired" rfl,
    Json.bind_unless, Json.unless_any_cons, Json.unless_any_nil]

def DriveReport.Fits (r : DriveReport) : Prop :=
  ∀ n ∈ [r.frames, r.delivered, r.failed], n < 2 ^ 64

theorem DriveReport.ofJson?_without {r : DriveReport} (h : r.Fits) (gone : String → Bool) :
    ofJson? (r.toJson.without gone) = if r.toJson.keys.any gone then none else some r := by
  have hkeys : r.toJson.keys = ["frames", "delivered", "failed"] := rfl
  have hleft : ∃ f, (r.toJson.without gone).fields? r.toJson.keys = some f ∧ f.Left gone _ :=
    Json.Fields.exists_left (by simp) gone
  rw [hkeys] at hleft ⊢
  obtain ⟨f, hfields, hf⟩ := hleft
  simp only [Fits, List.forall_mem_cons] at h
  obtain ⟨hframes, hdelivered, hfailed, _⟩ := h
  simp only [ofJson?, Option.bind_eq_bind, hfields, Option.bind_some,
    hf.required_nat64 hframes "frames" rfl, hf.required_nat64 hdelivered "delivered" rfl,
    hf.required_nat64 hfailed "failed" rfl, Json.bind_unless, Json.unless_any_cons,
    Json.unless_any_nil]

/-! ## Audit entries -/

structure AuditEntry.Fits (e : AuditEntry) : Prop where
  eventId : ∀ id ∈ e.eventId, id < 2 ^ 64
  bucket : e.bucket < 2 ^ 64
  position : e.position < 2 ^ 64
  createdAt : e.createdAt < 2 ^ 128

def AuditEntry.optionalKeys : List String := ["event_id", "payload"]

def AuditEntry.lacking (gone : String → Bool) (e : AuditEntry) : AuditEntry :=
  { e with
    eventId := if gone "event_id" then none else e.eventId
    payload := if gone "payload" then none else e.payload }

theorem AuditEntry.ofJson?_without {e : AuditEntry} (h : e.Fits) (gone : String → Bool) :
    ofJson? (e.toJson.without gone) =
      if (e.toJson.keys.filter (· ∉ optionalKeys)).any gone then none
      else some (e.lacking gone) := by
  have hkeys : e.toJson.keys = ["track", "action", "event_id", "bucket", "position",
      "created_at_ms", "payload"] := rfl
  have hneeded : e.toJson.keys.filter (· ∉ optionalKeys) =
      ["track", "action", "bucket", "position", "created_at_ms"] := rfl
  have hleft : ∃ f, (e.toJson.without gone).fields? e.toJson.keys = some f ∧ f.Left gone _ :=
    Json.Fields.exists_left (by simp) gone
  rw [hkeys] at hleft
  rw [hneeded]
  obtain ⟨f, hfields, hf⟩ := hleft
  have htrack : f.required "track" Json.text? = if gone "track" then none else some e.track :=
    hf.required rfl (Json.text?_ofString e.track)
  have haction : f.required "action" AuditAction.ofJson? =
      if gone "action" then none else some e.action :=
    hf.required rfl e.action.ofJson?_toJson
  have heventId : f.optional "event_id" Json.nat64? =
      some (if gone "event_id" then none else e.eventId) :=
    hf.optional rfl fun id hid => ⟨nofun, Json.nat64?_ofNat (h.eventId id hid)⟩
  have hcreatedAt : f.required "created_at_ms" Json.nat128? =
      if gone "created_at_ms" then none else some e.createdAt :=
    hf.required rfl (Json.nat128?_ofNat h.createdAt)
  have hpayload : f.optional "payload" Json.text? =
      some (if gone "payload" then none else e.payload) :=
    hf.optional rfl fun p _ => ⟨nofun, Json.text?_ofString p⟩
  simp only [ofJson?, Option.bind_eq_bind, hfields, Option.bind_some, htrack, haction, heventId,
    hf.required_nat64 h.bucket "bucket" rfl, hf.required_nat64 h.position "position" rfl,
    hcreatedAt, hpayload, Json.bind_unless, Json.unless_any_cons, Json.unless_any_nil, lacking]

/-! ## Settings -/

structure TrackConfig.Fits (c : TrackConfig) : Prop where
  frameWidth : c.frameWidth < 2 ^ 64
  increment : c.increment < 2 ^ 64
  auditCapacity : ∀ n ∈ c.auditCapacity, n < 2 ^ 64

/-- The settings with the default in place of each one that is gone. -/
def TrackConfig.lacking (gone : String → Bool) (c : TrackConfig) : TrackConfig :=
  let defaults : TrackConfig := {}
  { frameWidth := if gone "frame_width" then defaults.frameWidth else c.frameWidth
    increment := if gone "reschedule_increment" then defaults.increment else c.increment
    auditCapacity := if gone "audit_capacity" then defaults.auditCapacity else c.auditCapacity
    backend := if gone "repository" then defaults.backend else c.backend }

theorem TrackConfig.ofJson?_without {c : TrackConfig} (h : c.Fits) (gone : String → Bool) :
    ofJson? (c.toJson.without gone) = some (c.lacking gone) := by
  have hleft : ∃ f, (c.toJson.without gone).fields? c.toJson.keys = some f ∧ f.Left gone _ :=
    Json.Fields.exists_left (by simp) gone
  have hkeys : c.toJson.keys = ["frame_width", "reschedule_increment", "audit_capacity",
      "repository"] := rfl
  rw [hkeys] at hleft
  obtain ⟨f, hfields, hf⟩ := hleft
  have hframeWidth (fallback : Nat) : f.orElse "frame_width" Json.nat64? fallback =
      some (if gone "frame_width" then fallback else c.frameWidth) :=
    hf.orElse rfl (Json.nat64?_ofNat h.frameWidth) fallback
  have hincrement (fallback : Nat) : f.orElse "reschedule_increment" Json.nat64? fallback =
      some (if gone "reschedule_increment" then fallback else c.increment) :=
    hf.orElse rfl (Json.nat64?_ofNat h.increment) fallback
  have hvalue : Json.nullable Json.nat64? (Json.ofOption ofNat c.auditCapacity) =
      some c.auditCapacity :=
    Json.nullable_ofOption fun n hn => ⟨nofun, Json.nat64?_ofNat (h.auditCapacity n hn)⟩
  have hcapacity (fallback : Option Nat) :
      f.orElse "audit_capacity" (Json.nullable Json.nat64?) fallback =
        some (if gone "audit_capacity" then fallback else c.auditCapacity) :=
    hf.orElse rfl hvalue fallback
  have hbackend (fallback : Backend) : f.orElse "repository" Backend.ofJson? fallback =
      some (if gone "repository" then fallback else c.backend) :=
    hf.orElse rfl c.backend.ofJson?_toJson fallback
  simp only [ofJson?, Option.bind_eq_bind, hfields, Option.bind_some, hframeWidth, hincrement,
    hcapacity, hbackend, lacking]

/-! ## Text -/

theorem TrackStats.plain (s : TrackStats) : s.toJson.Plain :=
  .record (by simp [Json.Plain.nat])

theorem DriveReport.plain (r : DriveReport) : r.toJson.Plain :=
  .record (by simp [Json.Plain.nat])

theorem AuditEntry.plain (e : AuditEntry) : e.toJson.Plain :=
  .record (by simp [AuditAction.toJson, Json.Plain.nat, Json.Plain.text, Json.plain_ofOption])

theorem TrackConfig.plain (c : TrackConfig) : c.toJson.Plain :=
  .record (by simp [Backend.toJson, Json.Plain.nat, Json.Plain.text, Json.plain_ofOption])

theorem TrackStats.read_without {s : TrackStats} (h : s.Fits) (gone : String → Bool) :
    (Json.parse? (s.toJson.without gone).compact).bind ofJson? =
      if s.toJson.keys.any gone then none else some s := by
  rw [Json.read_without s.plain, ofJson?_without h]

theorem DriveReport.read_without {r : DriveReport} (h : r.Fits) (gone : String → Bool) :
    (Json.parse? (r.toJson.without gone).compact).bind ofJson? =
      if r.toJson.keys.any gone then none else some r := by
  rw [Json.read_without r.plain, ofJson?_without h]

theorem AuditEntry.read_without {e : AuditEntry} (h : e.Fits) (gone : String → Bool) :
    (Json.parse? (e.toJson.without gone).compact).bind ofJson? =
      if (e.toJson.keys.filter (· ∉ optionalKeys)).any gone then none
      else some (e.lacking gone) := by
  rw [Json.read_without e.plain, ofJson?_without h]

theorem TrackConfig.read_without {c : TrackConfig} (h : c.Fits) (gone : String → Bool) :
    (Json.parse? (c.toJson.without gone).compact).bind ofJson? = some (c.lacking gone) := by
  rw [Json.read_without c.plain, ofJson?_without h]

/-- Every record is read back from its text as it was. Without some of its members a record of
counters is rejected, an audit entry is rejected unless it lost no more than its identifier and its
payload, which are absent then, and settings have their defaults in place of what they lost. -/
theorem records_read_back {s : TrackStats} {r : DriveReport} {e : AuditEntry} {c : TrackConfig}
    (hs : s.Fits) (hr : r.Fits) (he : e.Fits) (hc : c.Fits) (gone : String → Bool) :
    ((Json.parse? s.toJson.compact).bind TrackStats.ofJson? = some s ∧
      (Json.parse? r.toJson.compact).bind DriveReport.ofJson? = some r ∧
      (Json.parse? e.toJson.compact).bind AuditEntry.ofJson? = some e ∧
      (Json.parse? c.toJson.compact).bind TrackConfig.ofJson? = some c) ∧
    (Json.parse? (s.toJson.without gone).compact).bind TrackStats.ofJson? =
      (if s.toJson.keys.any gone then none else some s) ∧
    (Json.parse? (r.toJson.without gone).compact).bind DriveReport.ofJson? =
      (if r.toJson.keys.any gone then none else some r) ∧
    (Json.parse? (e.toJson.without gone).compact).bind AuditEntry.ofJson? =
      (if (e.toJson.keys.filter (· ∉ AuditEntry.optionalKeys)).any gone then none
      else some (e.lacking gone)) ∧
    (Json.parse? (c.toJson.without gone).compact).bind TrackConfig.ofJson? =
      some (c.lacking gone) := by
  refine ⟨⟨?_, ?_, ?_, ?_⟩, s.read_without hs gone, r.read_without hr gone, e.read_without he gone,
    c.read_without hc gone⟩
  · have hwhole := TrackStats.read_without hs fun _ => false
    simpa [Json.without_nothing] using hwhole
  · have hwhole := DriveReport.read_without hr fun _ => false
    simpa [Json.without_nothing] using hwhole
  · have hwhole := AuditEntry.read_without he fun _ => false
    simpa [Json.without_nothing, AuditEntry.lacking] using hwhole
  · have hwhole := TrackConfig.read_without hc fun _ => false
    simpa [Json.without_nothing, TrackConfig.lacking] using hwhole

def fullStats : TrackStats :=
  ⟨2 ^ 64 - 1, 2 ^ 64 - 1, 2 ^ 64 - 1, 2 ^ 64 - 1, 0, 10, 2 ^ 63, 2 ^ 53 + 1, 2 ^ 64 - 1, 1⟩

def fullReport : DriveReport := ⟨2 ^ 64 - 1, 0, 2 ^ 64 - 1⟩

/-- Its texts have control characters, quotes, backslashes and characters of two and three bytes. -/
def awkwardEntry : AuditEntry where
  track := "\x00\t\"\\\n\u00e9\u20ac\x7b"
  action := .rollover
  eventId := some (2 ^ 64 - 1)
  bucket := 2 ^ 64 - 1
  position := 0
  createdAt := 2 ^ 128 - 1
  payload := some "\x1f\x7f\\u0000\x7d,"

def wideConfig : TrackConfig := ⟨2 ^ 64 - 1, 0, some (2 ^ 64 - 1), .inMemory⟩

def lostKeys : List String := ["frames", "event_id", "audit_capacity", "nothing"]

theorem records_read_back_awkward :
    ((Json.parse? fullStats.toJson.compact).bind TrackStats.ofJson? = some fullStats ∧
      (Json.parse? fullReport.toJson.compact).bind DriveReport.ofJson? = some fullReport ∧
      (Json.parse? awkwardEntry.toJson.compact).bind AuditEntry.ofJson? = some awkwardEntry ∧
      (Json.parse? wideConfig.toJson.compact).bind TrackConfig.ofJson? = some wideConfig) ∧
    (Json.parse? (fullStats.toJson.without (· ∈ lostKeys)).compact).bind TrackStats.ofJson? =
      none ∧
    (Json.parse? (fullReport.toJson.without (· ∈ lostKeys)).compact).bind DriveReport.ofJson? =
      none ∧
    (Json.parse? (awkwardEntry.toJson.without (· ∈ lostKeys)).compact).bind AuditEntry.ofJson? =
      some { awkwardEntry with eventId := none } ∧
    (Json.parse? (wideConfig.toJson.without (· ∈ lostKeys)).compact).bind TrackConfig.ofJson? =
      some { wideConfig with auditCapacity := none } :=
  records_read_back (by unfold TrackStats.Fits; decide) (by unfold DriveReport.Fits; decide)
    ⟨by decide, by decide, by decide, by decide⟩ ⟨by decide, by decide, by decide⟩ (· ∈ lostKeys)

end BucketClock
