import BucketClock.Bucket
import BucketClock.Proofs.Supply
import BucketClock.Window
import Mathlib.Data.List.Forall2

/-!
What is alike. Two supplies are alike when they can still hand out the same
items, whether these are at hand or a supplier brings them; before the first
draw they may show different sizes and phases. A draw takes the same slice from
both and leaves them level: with the same number of items left, and exhausted
or not (`Supply.Alike.take`). Commitments and buckets are alike when they are
the same but for supplies that are alike, and two operations agree when they
give the same answer and tell the same, but for what suppliers leave behind.
-/

namespace BucketClock

/-! ## Notes and outcomes -/

namespace Note

/-- Whether a note tells of a supplier that ran, or of what it brought. -/
def ofSupplier : Note → Bool
  | .supplied _ => true
  | .logged (.supplyMismatch ..) => true
  | _ => false

def told (notes : List Note) : List Note := notes.filter (!·.ofSupplier)

@[simp] theorem told_nil : told [] = [] := rfl

@[simp] theorem told_append (notes notes' : List Note) :
    told (notes ++ notes') = told notes ++ told notes' := List.filter_append _ _

end Note

namespace Outcome

variable {σ σ' β β' γ : Type}

/-- The answers and the states after two operations are related, and they tell the same. -/
structure Agree (V : β → β' → Prop) (R : σ → σ' → Prop) (o : Outcome σ β) (o' : Outcome σ' β') :
    Prop where
  value : V o.value o'.value
  state : R o.state o'.state
  told : Note.told o.notes = Note.told o'.notes

theorem Agree.after {V : β → β' → Prop} {R : σ → σ' → Prop} {o : Outcome σ β} {o' : Outcome σ' β'}
    (h : o.Agree V R o') {notes notes' : List Note} (htold : Note.told notes = Note.told notes') :
    (o.after notes).Agree V R (o'.after notes') := by
  refine ⟨h.value, h.state, ?_⟩
  simp only [Outcome.after, Note.told_append, htold, h.told]

/-- Two loops agree if their steps do. -/
theorem each_agree {X : γ → γ → Prop} {R : σ → σ → Prop} {step : γ → σ → Outcome σ Unit}
    (h : ∀ x x' s s', X x x' → R s s' → (step x s).Agree Eq R (step x' s')) {xs xs' : List γ}
    (hxs : List.Forall₂ X xs xs') {s s' : σ} (hs : R s s') :
    (each step xs s).Agree Eq R (each step xs' s') := by
  induction hxs generalizing s s' with
  | nil => exact ⟨rfl, hs, rfl⟩
  | cons hx _ ih =>
    have hstep := h _ _ s s' hx hs
    exact (ih hstep.state).after hstep.told

end Outcome

namespace Window

variable {ι σ : Type} {R : σ → σ → Prop} {look : Nat → σ → Outcome σ (Except TrackError ι)}

theorem lookUp_agree (h : ∀ id s s', R s s' → (look id s).Agree Eq R (look id s'))
    (start count : Nat) {s s' : σ} (hs : R s s') :
    (lookUp look start count s).Agree Eq R (lookUp look start count s') := by
  induction count generalizing start s s' with
  | zero => exact ⟨rfl, hs, rfl⟩
  | succ count ih =>
    have hlook := h start s s' hs
    simp only [lookUp, ← hlook.value]
    cases (look start s).value with
    | error e => exact ⟨rfl, hlook.state, hlook.told⟩
    | ok x =>
      have hrest := ih (start + 1) hlook.state
      refine ⟨by simp only [hrest.value], hrest.state, ?_⟩
      simp only [Note.told_append, hlook.told, hrest.told]

/-- Windows over repositories that cannot be told apart move the same way. -/
theorem take_agree (h : ∀ id s s', R s s' → (look id s).Agree Eq R (look id s')) (limit : Nat)
    (w : Window ι) {s s' : σ} (hs : R s s') :
    (w.take look limit s).Agree Eq (fun p p' => p.1 = p'.1 ∧ R p.2 p'.2)
      (w.take look limit s') := by
  have hgrown := lookUp_agree h w.size (Index.add w.position limit - w.size) hs
  simp only [take, ← hgrown.value]
  cases (lookUp look w.size (Index.add w.position limit - w.size) s).value with
  | error e => exact ⟨rfl, ⟨rfl, hgrown.state⟩, hgrown.told⟩
  | ok found =>
    refine ⟨rfl, ⟨rfl, hgrown.state⟩, ?_⟩
    simp only [Note.told_append, hgrown.told]

end Window

/-! ## Supplies -/

namespace Supply

variable {α : Type}

/-- The supplies that nobody drew from and that can hand out `items`: with the items at hand, with
a supplier that brings them, or with a supplier of which the first `size` items count. -/
inductive Built (items : List α) : Supply α → Prop
  | ofList (h : items.length ≤ Index.last) : Built items (.ofList items)
  | deferred (h : items.length ≤ Index.last) : Built items (.deferred items)
  | lazy {size : Nat} {brought : List α} (h : size ≤ Index.last)
      (first : items = brought.take size) : Built items (.lazy size brought)

theorem Built.reached {items : List α} {s : Supply α} (h : s.Built items) : s.Reached := by
  cases h with
  | ofList h => exact .ofList items h
  | deferred h => exact .deferred items h
  | lazy h first => exact .lazy _ _ h

theorem Built.rest {items : List α} {s : Supply α} (h : s.Built items) : s.rest = items := by
  cases h with
  | ofList h => rfl
  | deferred h => exact List.take_length
  | lazy h first => exact first.symm

/-- The two can hand out the same items. -/
structure Alike (s s' : Supply α) : Prop where
  left : s.Sound
  right : s'.Sound
  rest : s.rest = s'.rest

/-- They have the same number of items left, or do not know it, and are both exhausted or not. -/
structure Level (s s' : Supply α) : Prop extends Alike s s' where
  exhausted : s.isExhausted = s'.isExhausted
  remaining : s.remaining = s'.remaining

theorem Built.alike {items : List α} {s s' : Supply α} (h : s.Built items) (h' : s'.Built items) :
    s.Alike s' :=
  ⟨h.reached.sound, h'.reached.sound, h.rest.trans h'.rest.symm⟩

/-- A draw takes the same slice from supplies that are alike. -/
theorem Alike.take_value {s s' : Supply α} (h : s.Alike s') (limit : Nat) :
    (s.take limit).value = (s'.take limit).value := by
  rw [Supply.take_value h.left, Supply.take_value h.right, h.rest]

/-- A draw leaves supplies that are alike level. -/
theorem Alike.take {s s' : Supply α} (h : s.Alike s') (limit : Nat) :
    (s.take limit).state.Level (s'.take limit).state := by
  refine ⟨⟨take_sound h.left limit, take_sound h.right limit, ?_⟩, ?_, ?_⟩
  · rw [take_rest h.left, take_rest h.right, h.rest]
  · rw [Bool.eq_iff_iff, take_isExhausted h.left, take_isExhausted h.right, h.rest]
  · rw [take_remaining h.left, take_remaining h.right, h.rest]

/-- A draw tells of the supplier only. -/
theorem take_told (s : Supply α) (limit : Nat) : Note.told (s.take limit).notes = [] := by
  have hnotes : (s.take limit).notes =
      (if s.phase = .full then s.materialize else ⟨(), s, []⟩).notes := rfl
  rw [hnotes]
  split
  · unfold materialize
    split
    · rfl
    · split
      · split
        · rfl
        · rfl
      · rfl
  · rfl

end Supply

/-! ## Commitments -/

namespace Commitment

variable {α : Type}

/-- The two are the same but for supplies that are related. -/
def Like (R : Supply α → Supply α → Prop) (e e' : Commitment α) : Prop :=
  ∃ supply, e' = { e with supply := supply } ∧ R e.supply supply

abbrev Alike : Commitment α → Commitment α → Prop := Like Supply.Alike

abbrev Level : Commitment α → Commitment α → Prop := Like Supply.Level

theorem Like.imp {R S : Supply α → Supply α → Prop} (h : ∀ s s', R s s' → S s s')
    {e e' : Commitment α} (he : e.Like R e') : e.Like S e' := by
  obtain ⟨supply, rfl, hs⟩ := he
  exact ⟨supply, rfl, h _ _ hs⟩

theorem Level.alike {e e' : Commitment α} (h : e.Level e') : e.Alike e' :=
  h.imp fun _ _ hs => hs.toAlike

section

variable {R : Supply α → Supply α → Prop} {e e' : Commitment α}

theorem Like.id (h : e.Like R e') : e'.id = e.id := by
  obtain ⟨supply, rfl, _⟩ := h
  rfl

theorem Like.deliveryTime (h : e.Like R e') : e'.deliveryTime = e.deliveryTime := by
  obtain ⟨supply, rfl, _⟩ := h
  rfl

theorem Like.phase (h : e.Like R e') : e'.phase = e.phase := by
  obtain ⟨supply, rfl, _⟩ := h
  rfl

theorem Like.withId (h : e.Like R e') (id : Nat) : (e.withId id).Like R (e'.withId id) := by
  obtain ⟨supply, rfl, hs⟩ := h
  exact ⟨supply, rfl, hs⟩

theorem Like.retarget (h : e.Like R e') (bucket : Nat) :
    (e.retarget bucket).Like R (e'.retarget bucket) := by
  obtain ⟨supply, rfl, hs⟩ := h
  exact ⟨supply, rfl, hs⟩

theorem Like.withPhase (h : e.Like R e') (phase : Phase) :
    (e.withPhase phase).Like R (e'.withPhase phase) := by
  obtain ⟨supply, rfl, hs⟩ := h
  exact ⟨supply, rfl, hs⟩

end

/-- The policies of commitments that are level are asked the same and answer the same. -/
theorem Level.nextDelivery {e e' : Commitment α} (h : e.Level e') (position increment : Nat) :
    (e.nextDelivery position increment).value = (e'.nextDelivery position increment).value ∧
      (e.nextDelivery position increment).notes = (e'.nextDelivery position increment).notes ∧
      (e.nextDelivery position increment).state.Level
        (e'.nextDelivery position increment).state := by
  obtain ⟨supply, rfl, hs⟩ := h
  simp only [Commitment.nextDelivery, ← hs.remaining]
  split
  · exact ⟨rfl, rfl, supply, rfl, hs⟩
  · exact ⟨rfl, rfl, supply, rfl, hs⟩

theorem Alike.draw {e e' : Commitment α} (h : e.Alike e') (width : Nat) :
    (e.draw width).Agree Eq Level (e'.draw width) := by
  obtain ⟨supply, rfl, hs⟩ := h
  refine ⟨hs.take_value width, ⟨_, rfl, hs.take width⟩, ?_⟩
  simp only [Commitment.draw, Supply.take_told]

end Commitment

/-! ## Buckets -/

namespace Bucket

variable {α : Type}

/-- The same bucket, with commitments that are alike. -/
structure Alike (b b' : Bucket α) : Prop where
  id : b.id = b'.id
  events : List.Forall₂ Commitment.Alike b.events b'.events

theorem empty_alike (id : Nat) : (empty id : Bucket α).Alike (empty id) := ⟨rfl, .nil⟩

theorem Alike.eventIds {b b' : Bucket α} (h : b.Alike b') : b.eventIds = b'.eventIds := by
  have hids : ∀ {es es' : List (Commitment α)}, List.Forall₂ Commitment.Alike es es' →
      es.map (·.id) = es'.map (·.id) := by
    intro es es' hes
    induction hes with
    | nil => rfl
    | cons he _ ih => rw [List.map_cons, List.map_cons, ih, Commitment.Like.id he]
  exact hids h.events

theorem Alike.commit {b b' : Bucket α} (h : b.Alike b') {e e' : Commitment α} (he : e.Alike e') :
    (b.commit e).Alike (b'.commit e') :=
  ⟨h.id, List.rel_append h.events (.cons he .nil)⟩

theorem Alike.takeEvents {b b' : Bucket α} (h : b.Alike b') :
    b.takeEvents.2.Alike b'.takeEvents.2 := ⟨h.id, .nil⟩

theorem Alike.retractLast {b b' : Bucket α} (h : b.Alike b') :
    Option.Rel Commitment.Alike b.retractLast.1 b'.retractLast.1 ∧
      b.retractLast.2.Alike b'.retractLast.2 := by
  constructor
  · have hlast : ∀ {es es' : List (Commitment α)}, List.Forall₂ Commitment.Alike es es' →
        Option.Rel Commitment.Alike es.getLast? es'.getLast? := by
      intro es es' hes
      have hreverse := List.forall₂_reverse_iff.mpr hes
      rw [List.getLast?_eq_head?_reverse, List.getLast?_eq_head?_reverse]
      generalize es.reverse = rs, es'.reverse = rs' at hreverse ⊢
      cases hreverse with
      | nil => exact .none
      | cons he _ => exact .some he
    exact hlast h.events
  · refine ⟨h.id, ?_⟩
    show List.Forall₂ Commitment.Alike b.events.dropLast b'.events.dropLast
    rw [List.dropLast_eq_take, List.dropLast_eq_take, h.events.length_eq]
    exact List.forall₂_take _ h.events

/-- Drawing from commitments that are alike gives the same items and leaves them level. -/
theorem drawFlat_agree (width : Nat) {es es' : List (Commitment α)}
    (h : List.Forall₂ Commitment.Alike es es') :
    (drawFlat width es).Agree Eq (List.Forall₂ Commitment.Level) (drawFlat width es') := by
  induction h with
  | nil => exact ⟨rfl, .nil, rfl⟩
  | cons he _ ih =>
    have hdraw := he.draw width
    refine ⟨?_, .cons hdraw.state ih.state, ?_⟩
    · simp only [drawFlat, hdraw.value, ih.value]
    · simp only [drawFlat, Note.told_append, hdraw.told, ih.told]

end Bucket
end BucketClock
