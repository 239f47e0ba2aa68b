import BucketClock.Proofs.Alike
import BucketClock.Store.Basic

/-!
Stores that are alike: the same store, with buckets that are alike in the same
slots. They answer every call the same way and stay alike, whatever fails on the
way; so does the commit of commitments that are alike (`Alike.commit`).
-/

namespace BucketClock.Store

variable {α φ : Type}

/-- The same store, with buckets that are alike. -/
def Alike (s s' : Store α φ) : Prop :=
  ∃ buckets, s' = { s with buckets := buckets } ∧ ∀ slot, (s.bucket slot).Alike (s'.bucket slot)

theorem Alike.bucket {s s' : Store α φ} (h : s.Alike s') (slot : Slot) :
    (s.bucket slot).Alike (s'.bucket slot) := by
  obtain ⟨_, _, hall⟩ := h
  exact hall slot

theorem Alike.stored {s s' : Store α φ} (h : s.Alike s') :
    (s.stored.map fun b => (b.1, b.2.eventIds)) = s'.stored.map fun b => (b.1, b.2.eventIds) := by
  obtain ⟨buckets, rfl, hall⟩ := h
  rw [Store.stored, Store.stored, List.map_map, List.map_map]
  exact List.map_congr_left fun entry _ => congrArg (entry.1, ·) (hall entry.2).eventIds

theorem Alike.update {s s' : Store α φ} (h : s.Alike s') (slot : Slot) {b b' : Bucket α}
    (hb : b.Alike b') : (s.update slot b).Alike (s'.update slot b') := by
  obtain ⟨buckets, rfl, hall⟩ := h
  refine ⟨_, rfl, fun i => ?_⟩
  rw [bucket_update, bucket_update]
  split
  · exact hb
  · exact hall i

theorem Alike.make {s s' : Store α φ} (h : s.Alike s') {b b' : Bucket α} (hb : b.Alike b') :
    (s.make b).1 = (s'.make b').1 ∧ (s.make b).2.Alike (s'.make b').2 := by
  have hupdate := h.update s.nextSlot hb
  obtain ⟨buckets, rfl, hall⟩ := h
  obtain ⟨_, hsame, hall'⟩ := hupdate
  exact ⟨rfl, _, rfl, hall'⟩

theorem Alike.put {s s' : Store α φ} (h : s.Alike s') (slot : Slot) :
    (s.put slot).Alike (s'.put slot) := by
  have hid := (h.bucket slot).id
  obtain ⟨buckets, rfl, hall⟩ := h
  simp only [Store.put, ← hid]
  exact ⟨buckets, rfl, hall⟩

theorem Alike.erase {s s' : Store α φ} (h : s.Alike s') (id : Nat) :
    (s.erase id).Alike (s'.erase id) := by
  obtain ⟨buckets, rfl, hall⟩ := h
  exact ⟨buckets, rfl, hall⟩

theorem Alike.identify {s s' : Store α φ} (h : s.Alike s') {e e' : Commitment α}
    (he : e.Alike e') :
    (s.identify e).1.Alike (s'.identify e').1 ∧ (s.identify e).2.Alike (s'.identify e').2 := by
  have hid := he.id
  obtain ⟨buckets, rfl, hall⟩ := h
  simp only [Store.identify, hid]
  split
  · exact ⟨he, buckets, rfl, hall⟩
  · exact ⟨he.withId _, buckets, rfl, hall⟩

/-! ## Calls -/

variable [Outage φ]

theorem Alike.get {s s' : Store α φ} (h : s.Alike s') (id : Nat) :
    (s.get id).Agree Eq Alike (s'.get id) := by
  obtain ⟨buckets, rfl, hall⟩ := h
  simp only [Store.get]
  cases (Outage.meet s.outage (.get id)).1 with
  | some f => exact ⟨rfl, ⟨buckets, rfl, hall⟩, rfl⟩
  | none => exact ⟨rfl, ⟨buckets, rfl, hall⟩, rfl⟩

theorem Alike.save {s s' : Store α φ} (h : s.Alike s') (slot : Slot) :
    (s.save slot).Agree Eq Alike (s'.save slot) := by
  have hbucket := h.bucket slot
  have hid := hbucket.id
  obtain ⟨buckets, rfl, hall⟩ := h
  simp only [Store.save, ← hid]
  have hasked : ({ s with outage := (Outage.meet s.outage (.save (s.bucket slot).id)).2 } :
      Store α φ).Alike { s with
        buckets := buckets, outage := (Outage.meet s.outage (.save (s.bucket slot).id)).2 } :=
    ⟨buckets, rfl, hall⟩
  cases (Outage.meet s.outage (.save (s.bucket slot).id)).1 with
  | none => exact ⟨rfl, hasked.put slot, rfl⟩
  | some f =>
    refine ⟨rfl, ?_, rfl⟩
    simp only
    cases f.effect with
    | none => exact hasked
    | applied => exact hasked.put slot
    | emptied => exact hasked.update slot hbucket.takeEvents

theorem Alike.assign {s s' : Store α φ} (h : s.Alike s') {e e' : Commitment α} (he : e.Alike e') :
    (s.assign e).Agree Eq (fun p p' => p.1.Alike p'.1 ∧ p.2.Alike p'.2) (s'.assign e') := by
  have hbucket := he.deliveryTime
  obtain ⟨buckets, rfl, hall⟩ := h
  simp only [Store.assign, hbucket]
  have hasked : ({ s with outage := (Outage.meet s.outage (.assign e.deliveryTime)).2 } :
      Store α φ).Alike { s with
        buckets := buckets, outage := (Outage.meet s.outage (.assign e.deliveryTime)).2 } :=
    ⟨buckets, rfl, hall⟩
  cases (Outage.meet s.outage (.assign e.deliveryTime)).1 with
  | none => exact ⟨rfl, hasked.identify he, rfl⟩
  | some f =>
    refine ⟨rfl, ?_, rfl⟩
    simp only
    split
    · exact hasked.identify he
    · exact ⟨he, hasked⟩

theorem Alike.remove {s s' : Store α φ} (h : s.Alike s') (id : Nat) :
    (s.remove id).Agree Eq Alike (s'.remove id) := by
  obtain ⟨buckets, rfl, hall⟩ := h
  simp only [Store.remove]
  cases (Outage.meet s.outage (.remove id)).1 with
  | none => exact ⟨rfl, ⟨buckets, rfl, hall⟩, rfl⟩
  | some f =>
    refine ⟨rfl, ?_, rfl⟩
    simp only
    split
    · exact ⟨buckets, rfl, hall⟩
    · exact ⟨buckets, rfl, hall⟩

/-! ## Commits -/

theorem Alike.fetch {s s' : Store α φ} (h : s.Alike s') {factory : Nat → Bucket α}
    (hfactory : ∀ id, (factory id).Alike (factory id)) (id : Nat) :
    (s.fetch factory id).Agree Eq Alike (s'.fetch factory id) := by
  have hget := h.get id
  simp only [Store.fetch, ← hget.value]
  cases (s.get id).value with
  | error e => exact ⟨rfl, hget.state, hget.told⟩
  | ok found =>
    cases found with
    | some slot => exact ⟨rfl, hget.state, hget.told⟩
    | none =>
      obtain ⟨hslot, hmade⟩ := hget.state.make (hfactory id)
      exact ⟨congrArg Except.ok hslot, hmade, hget.told⟩

/-- The answers to two commits: both filed, or both refused for the same reason with commitments
handed back that are alike. -/
inductive Answered {β : Type} : Except (Refusal α) β → Except (Refusal α) β → Prop
  | filed (x : β) : Answered (.ok x) (.ok x)
  | refused (error : TrackError) {event event' : Option (Commitment α)}
      (h : Option.Rel Commitment.Alike event event') :
      Answered (.error ⟨error, event⟩) (.error ⟨error, event'⟩)

/-- Commits of commitments that are alike agree. -/
theorem Alike.commit {s s' : Store α φ} (h : s.Alike s') {factory : Nat → Bucket α}
    (hfactory : ∀ id, (factory id).Alike (factory id)) {e e' : Commitment α} (he : e.Alike e') :
    (s.commit factory e).Agree Answered Alike (s'.commit factory e') := by
  have hfetched := h.fetch hfactory e.deliveryTime
  have hassigned := hfetched.state.assign he
  simp only [Store.commit, he.deliveryTime, ← hfetched.value]
  cases (s.fetch factory e.deliveryTime).value with
  | error error => exact ⟨.refused error (.some he), hfetched.state, hfetched.told⟩
  | ok slot =>
    obtain ⟨halike, hstore⟩ := hassigned.state
    simp only [← hassigned.value]
    cases ((s.fetch factory e.deliveryTime).state.assign e).value with
    | error error =>
      refine ⟨.refused error (.some halike), hstore, ?_⟩
      simp only [Note.told_append, hfetched.told, hassigned.told]
    | ok u =>
      have hsaved := (hstore.update slot ((hstore.bucket slot).commit halike)).save slot
      simp only [← hsaved.value]
      split
      · refine ⟨?_, hsaved.state, ?_⟩
        · simp only [halike.id]
          exact .filed _
        · simp only [Note.told_append, hfetched.told, hassigned.told, hsaved.told]
      · obtain ⟨hlast, hrest⟩ := (hsaved.state.bucket slot).retractLast
        refine ⟨.refused _ hlast, hsaved.state.update slot hrest, ?_⟩
        simp only [Note.told_append, hfetched.told, hassigned.told, hsaved.told]

end BucketClock.Store
