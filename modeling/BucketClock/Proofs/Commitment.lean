import BucketClock.Commitment

/-!
What a track makes of the commitments it handles. It may give one an identity,
move it to another bucket, draw from its supply and ask its policy; it never
touches the mark. `Refiled` says what became of a list of commitments that were
filed again.
-/

namespace BucketClock.Commitment

variable {α : Type}

/-- `e'` is `e`, with an identity if it had none. -/
def Identified (e e' : Commitment α) : Prop :=
  ∃ id, e' = { e with id := id } ∧ (e.id = none ∨ id = e.id)

theorem Identified.refl (e : Commitment α) : e.Identified e := ⟨e.id, rfl, Or.inr rfl⟩

/-! ## Commitments by bucket -/

/-- Those of a list of commitments that are meant for bucket `id`. -/
def dueAt (id : Nat) (es : List (Commitment α)) : List (Commitment α) :=
  es.filter (·.deliveryTime = id)

theorem dueAt_append (id : Nat) (es fs : List (Commitment α)) :
    dueAt id (es ++ fs) = dueAt id es ++ dueAt id fs :=
  List.filter_append es fs

theorem mem_dueAt {id : Nat} {es : List (Commitment α)} {e : Commitment α} :
    e ∈ dueAt id es ↔ e ∈ es ∧ e.deliveryTime = id := by
  simp [dueAt]

/-- Nothing is due at a bucket that no commitment of the list is meant for. -/
theorem dueAt_eq_nil {id : Nat} {es : List (Commitment α)} (h : ∀ e ∈ es, e.deliveryTime ≠ id) :
    dueAt id es = [] := by
  apply List.filter_eq_nil_iff.mpr
  simpa using h

theorem dueAt_eq_self {id : Nat} {es : List (Commitment α)} (h : ∀ e ∈ es, e.deliveryTime = id) :
    dueAt id es = es := by
  apply List.filter_eq_self.mpr
  simpa using h

/-! ## Commitments on the move -/

/-- The commitment as a track at `position` takes it: a full one that comes too late is moved. -/
def admitted (position : Nat) (e : Commitment α) : Commitment α :=
  if e.phase = .full ∧ e.deliveryTime ≤ position then e.retarget (Index.next position) else e

/-- The commitment as it is tried again at `position`, in its bucket or the current one. -/
def caughtUp (position : Nat) (e : Commitment α) : Commitment α :=
  if e.deliveryTime < position then e.retarget position else e

def drawn (width : Nat) (e : Commitment α) : Commitment α := (e.draw width).state

/-- Those of a list of commitments that a draw from each does not exhaust, after the draw. -/
def survivors (width : Nat) (es : List (Commitment α)) : List (Commitment α) :=
  (es.map (·.drawn width)).filter (!·.supply.isExhausted)

/-- Those that it exhausts. -/
def spent (width : Nat) (es : List (Commitment α)) : List (Commitment α) :=
  (es.map (·.drawn width)).filter (·.supply.isExhausted)

/-- The commitment as it goes on from the drain of bucket `position`. -/
def onward (position increment : Nat) (e : Commitment α) : Commitment α :=
  let o := (e.withPhase .notEmpty).nextDelivery position increment
  o.state.retarget (if o.value ≤ position then Index.next position else o.value)

theorem mem_survivors {width : Nat} {es : List (Commitment α)} {e : Commitment α} (he : e ∈ es)
    (h : ¬ (e.drawn width).supply.isExhausted = true) : e.drawn width ∈ survivors width es := by
  apply List.mem_filter.mpr
  refine ⟨List.mem_map_of_mem he, ?_⟩
  rw [Bool.not_eq_true', ← Bool.not_eq_true]
  exact h

/-- Dealing with a part of the commitments, one by one or all at once. -/
theorem map_filter_flatMap {β : Type} (p : Commitment α → Bool) (f : Commitment α → β)
    (es : List (Commitment α)) :
    (es.filter p).map f = es.flatMap fun e => if p e then [f e] else [] := by
  induction es with
  | nil => rfl
  | cons e es ih => cases he : p e <;> simp [he, ih]

theorem map_filter_unexhausted (f : Commitment α → Commitment α) (es : List (Commitment α)) :
    (es.filter (!·.supply.isExhausted)).map f =
      es.flatMap fun e => if e.supply.isExhausted then [] else [f e] := by
  rw [map_filter_flatMap]
  congr
  funext e
  cases e.supply.isExhausted <;> rfl

theorem spent_survivors_perm (width : Nat) (es : List (Commitment α)) :
    (spent width es ++ survivors width es).Perm (es.map (·.drawn width)) :=
  List.filter_append_perm _ _

theorem marks_perm (width : Nat) (es : List (Commitment α)) :
    ((spent width es).map (·.mark) ++ (survivors width es).map (·.mark)).Perm
      (es.map (·.mark)) := by
  have hmarks := (spent_survivors_perm width es).map (·.mark)
  rw [List.map_append, List.map_map] at hmarks
  exact hmarks

theorem admitted_eq (position : Nat) (e : Commitment α) :
    e.admitted position = { e with deliveryTime := (e.admitted position).deliveryTime } := by
  unfold admitted
  split <;> rfl

theorem caughtUp_eq (position : Nat) (e : Commitment α) :
    e.caughtUp position = { e with deliveryTime := max e.deliveryTime position } := by
  unfold caughtUp
  split
  · next hlt =>
    rw [Nat.max_eq_right (Nat.le_of_lt hlt)]
    rfl
  · next hge => rw [Nat.max_eq_left (Nat.le_of_not_lt hge)]

/-- Only the phase, the bucket and the policy of a commitment change when it goes on. -/
theorem onward_eq (position increment : Nat) (e : Commitment α) :
    ∃ bucket policy, e.onward position increment =
      { e with phase := .notEmpty, deliveryTime := bucket, policy := policy } := by
  obtain ⟨id, deliveryTime, supply, phase, policy, mark⟩ := e
  cases policy with
  | none => exact ⟨_, none, rfl⟩
  | some p => exact ⟨_, some _, rfl⟩

theorem onward_begun (position increment : Nat) (e : Commitment α) :
    (e.onward position increment).phase ≠ .full := by
  obtain ⟨bucket, policy, heq⟩ := e.onward_eq position increment
  rw [heq]
  simp

/-- Where a commitment goes from the drain that its policy is asked about, never to the same
bucket or back, and its policy from then on. -/
def goOn (increment : Nat) (policy : Option Policy) (r : Rollover) : Nat × Option Policy :=
  match policy with
  | none => (max (Index.add r.position increment) (r.position + 1), none)
  | some p => (max (p.pick r).1 (r.position + 1), some (p.pick r).2)

theorem lt_goOn (increment : Nat) (policy : Option Policy) (r : Rollover) :
    r.position < (goOn increment policy r).1 := by
  cases policy with
  | none => exact Nat.lt_of_lt_of_le (Nat.lt_succ_self _) (Nat.le_max_right _ _)
  | some p => exact Nat.lt_of_lt_of_le (Nat.lt_succ_self _) (Nat.le_max_right _ _)

theorem onward_goOn {position : Nat} (h : position < Index.last) (increment : Nat)
    (e : Commitment α) :
    ((e.onward position increment).deliveryTime, (e.onward position increment).policy) =
      goOn increment e.policy ⟨e.id, position, e.deliveryTime, e.supply.remaining⟩ := by
  have hclamp : ∀ target, (if target ≤ position then Index.next position else target) =
      max target (position + 1) := by
    intro target
    have hnext : Index.next position = position + 1 := Index.add_eq_of_le h
    split <;> omega
  obtain ⟨id, deliveryTime, supply, phase, policy, mark⟩ := e
  cases policy with
  | none => exact congrArg (fun bucket => (bucket, none)) (hclamp _)
  | some p => exact congrArg (fun bucket => (bucket, some (p.pick _).2)) (hclamp _)

/-- A commitment goes on to a later bucket as long as there is one. -/
theorem lt_onward {position : Nat} (h : position < Index.last) (increment : Nat)
    (e : Commitment α) : position < (e.onward position increment).deliveryTime := by
  have hgoOn := onward_goOn h increment e
  have hlt := lt_goOn increment e.policy ⟨e.id, position, e.deliveryTime, e.supply.remaining⟩
  rw [← hgoOn] at hlt
  exact hlt

/-- An accepted commitment is filed where it can still be drained. -/
theorem le_admitted {position : Nat} (h : position ≤ Index.last) {e : Commitment α}
    (hfull : e.phase = .full) : position ≤ (e.admitted position).deliveryTime := by
  unfold admitted
  split
  · exact Index.le_add h
  · next hlate =>
    have hlater : ¬ e.deliveryTime ≤ position := fun hle => hlate ⟨hfull, hle⟩
    omega

/-- What no filing touches: the mark of a commitment and its supply. -/
def goods (e : Commitment α) : Nat × Supply α := (e.mark, e.supply)

theorem map_goods_fst (es : List (Commitment α)) :
    (es.map goods).map Prod.fst = es.map (·.mark) := by
  rw [List.map_map]
  rfl

theorem Identified.goods_eq {e e' : Commitment α} (h : e.Identified e') : e'.goods = e.goods := by
  obtain ⟨id, rfl, _⟩ := h
  rfl

theorem goods_admitted (position : Nat) (e : Commitment α) :
    (e.admitted position).goods = e.goods := by
  rw [e.admitted_eq position]
  rfl

theorem goods_caughtUp (position : Nat) (e : Commitment α) :
    (e.caughtUp position).goods = e.goods := by
  rw [e.caughtUp_eq position]
  rfl

theorem goods_onward (position increment : Nat) (e : Commitment α) :
    (e.onward position increment).goods = e.goods := by
  obtain ⟨bucket, policy, heq⟩ := e.onward_eq position increment
  rw [heq]
  rfl

theorem map_goods_caughtUp (position : Nat) (es : List (Commitment α)) :
    (es.map (·.caughtUp position)).map goods = es.map goods := by
  rw [List.map_map]
  exact List.map_congr_left fun e _ => e.goods_caughtUp position

theorem map_goods_onward (position increment : Nat) (es : List (Commitment α)) :
    (es.map (·.onward position increment)).map goods = es.map goods := by
  rw [List.map_map]
  exact List.map_congr_left fun e _ => e.goods_onward position increment

/-! ## Commitments filed again -/

/-- Each of a list of commitments was filed or held back, in order and with nothing changed but
an identity given. -/
inductive Refiled : List (Commitment α) → List (Commitment α) → List (Commitment α) → Prop
  | nil : Refiled [] [] []
  | filed {e e' : Commitment α} {es filed held : List (Commitment α)} (h : e.Identified e')
      (rest : Refiled es filed held) : Refiled (e :: es) (e' :: filed) held
  | held {e e' : Commitment α} {es filed held : List (Commitment α)} (h : e.Identified e')
      (rest : Refiled es filed held) : Refiled (e :: es) filed (e' :: held)

theorem Refiled.append {es es' filed filed' held held' : List (Commitment α)}
    (h : Refiled es filed held) (h' : Refiled es' filed' held') :
    Refiled (es ++ es') (filed ++ filed') (held ++ held') := by
  induction h with
  | nil => exact h'
  | filed he _ ih => exact .filed he ih
  | held he _ ih => exact .held he ih

theorem Refiled.split {es es' filed held : List (Commitment α)}
    (h : Refiled (es ++ es') filed held) :
    ∃ filed₁ filed₂ held₁ held₂, filed = filed₁ ++ filed₂ ∧ held = held₁ ++ held₂ ∧
      Refiled es filed₁ held₁ ∧ Refiled es' filed₂ held₂ := by
  induction es generalizing filed held with
  | nil => exact ⟨[], filed, [], held, rfl, rfl, .nil, h⟩
  | cons e es ih =>
    cases h with
    | filed he rest =>
      obtain ⟨filed₁, filed₂, held₁, held₂, rfl, rfl, hleft, hright⟩ := ih rest
      exact ⟨_ :: filed₁, filed₂, held₁, held₂, rfl, rfl, .filed he hleft, hright⟩
    | held he rest =>
      obtain ⟨filed₁, filed₂, held₁, held₂, rfl, rfl, hleft, hright⟩ := ih rest
      exact ⟨filed₁, filed₂, _ :: held₁, held₂, rfl, rfl, .held he hleft, hright⟩

theorem Refiled.goods_perm {es filed held : List (Commitment α)} (h : Refiled es filed held) :
    ((filed ++ held).map goods).Perm (es.map goods) := by
  induction h with
  | nil => exact .nil
  | filed he _ ih =>
    rw [List.map_cons, List.cons_append, List.map_cons, he.goods_eq]
    exact ih.cons _
  | held he _ ih =>
    rw [List.map_append] at ih
    rw [List.map_cons, List.map_append, List.map_cons, he.goods_eq]
    exact List.perm_middle.trans (ih.cons _)

theorem Refiled.origin {es filed held : List (Commitment α)} (h : Refiled es filed held)
    {e' : Commitment α} (he' : e' ∈ filed ++ held) : ∃ e ∈ es, e.Identified e' := by
  induction h with
  | nil => cases he'
  | filed he _ ih =>
    rcases List.mem_cons.mp he' with rfl | he'
    · exact ⟨_, List.mem_cons_self, he⟩
    · obtain ⟨e, hmem, hid⟩ := ih he'
      exact ⟨e, List.mem_cons_of_mem _ hmem, hid⟩
  | held he _ ih =>
    have hcases := List.perm_middle.mem_iff.mp he'
    rcases List.mem_cons.mp hcases with rfl | he'
    · exact ⟨_, List.mem_cons_self, he⟩
    · obtain ⟨e, hmem, hid⟩ := ih he'
      exact ⟨e, List.mem_cons_of_mem _ hmem, hid⟩

theorem Refiled.image {es filed held : List (Commitment α)} (h : Refiled es filed held)
    {e : Commitment α} (he : e ∈ es) : ∃ e' ∈ filed ++ held, e.Identified e' := by
  induction h with
  | nil => cases he
  | filed hid _ ih =>
    rcases List.mem_cons.mp he with rfl | he
    · exact ⟨_, List.mem_cons_self, hid⟩
    · obtain ⟨e', hmem, hid'⟩ := ih he
      exact ⟨e', List.mem_cons_of_mem _ hmem, hid'⟩
  | held hid _ ih =>
    rcases List.mem_cons.mp he with rfl | he
    · exact ⟨_, List.mem_append_right _ List.mem_cons_self, hid⟩
    · obtain ⟨e', hmem, hid'⟩ := ih he
      exact ⟨e', List.perm_middle.mem_iff.mpr (List.mem_cons_of_mem _ hmem), hid'⟩

theorem Refiled.length {es filed held : List (Commitment α)} (h : Refiled es filed held) :
    es.length = filed.length + held.length := by
  have hlength := h.goods_perm.length_eq
  simpa using hlength.symm

end BucketClock.Commitment
