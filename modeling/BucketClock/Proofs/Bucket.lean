import BucketClock.Proofs.Commitment
import BucketClock.Proofs.Supply.Draws
import Mathlib.Data.List.Induction

/-!
What a bucket hands out. Slice by slice or as one sequence, a delivery draws the
same from every commitment in turn (`deliverWith_eq`). So the commitment in a
place is drawn from once by every delivery since it was filed there
(`sharesOf_eq_draws`), and a series of deliveries hands out the next items of
its supply, each once.

Main statement: `deliveries`.
-/

namespace BucketClock.Bucket

variable {α : Type}

/-! ## One delivery -/

theorem drawEach_value (width : Nat) (es : List (Commitment α)) :
    (drawEach width es).value = es.map fun e => (e.draw width).value := by
  induction es with
  | nil => rfl
  | cons e es ih => simp only [drawEach, ih, List.map_cons]

theorem drawEach_state (width : Nat) (es : List (Commitment α)) :
    (drawEach width es).state = es.map (·.drawn width) := by
  induction es with
  | nil => rfl
  | cons e es ih => simp only [drawEach, ih, List.map_cons, Commitment.drawn]

/-- Drawn as one sequence, the slices follow one another. -/
theorem drawFlat_eq (width : Nat) (es : List (Commitment α)) :
    drawFlat width es =
      ⟨(drawEach width es).value.flatten, (drawEach width es).state, (drawEach width es).notes⟩ := by
  induction es with
  | nil => rfl
  | cons e es ih => simp only [drawFlat, drawEach, ih, List.flatten_cons]

theorem drawFlat_value (width : Nat) (es : List (Commitment α)) :
    (drawFlat width es).value = es.flatMap fun e => (e.draw width).value := by
  rw [drawFlat_eq, drawEach_value, List.flatMap_def]

theorem drawFlat_state (width : Nat) (es : List (Commitment α)) :
    (drawFlat width es).state = es.map (·.drawn width) := by
  rw [drawFlat_eq, drawEach_state]

theorem deliverWith_eq (width : Nat) (b : Bucket α) :
    b.deliverWith width =
      ⟨(b.deliverPerEvent width).value.flatten, (b.deliverPerEvent width).state,
        (b.deliverPerEvent width).notes⟩ := by
  simp only [deliverWith, deliverPerEvent, drawFlat_eq]

theorem deliverPerEvent_value (width : Nat) (b : Bucket α) :
    (b.deliverPerEvent width).value = b.events.map fun e => (e.draw width).value :=
  drawEach_value width b.events

theorem deliverPerEvent_events (width : Nat) (b : Bucket α) :
    (b.deliverPerEvent width).state.events = b.events.map (·.drawn width) :=
  drawEach_state width b.events

/-! ## A series of acts -/

inductive Act (α : Type) where
  | commit (e : Commitment α)
  | deliver
  | deliverFlat
  | deliverPerEvent (width : Nat)
  | deliverWith (width : Nat)

namespace Act

def files? : Act α → Option (Commitment α)
  | commit e => some e
  | _ => none

def width? : Act α → Option Nat
  | commit _ => none
  | deliver | deliverFlat => some defaultFrameWidth
  | deliverPerEvent width | deliverWith width => some width

end Act

def widths (acts : List (Act α)) : List Nat := acts.filterMap Act.width?

def perform (b : Bucket α) : Act α → Bucket α
  | .commit e => b.commit e
  | .deliver => b.deliver.state
  | .deliverFlat => b.deliverFlat.state
  | .deliverPerEvent width => (b.deliverPerEvent width).state
  | .deliverWith width => (b.deliverWith width).state

def run (b : Bucket α) (acts : List (Act α)) : Bucket α := acts.foldl perform b

def slices (b : Bucket α) (a : Act α) : List (List α) :=
  match a.width? with
  | some width => (b.deliverPerEvent width).value
  | none => []

/-- The slices that a series of acts draws from the commitment in a place. -/
def sharesOf (place : Nat) (b : Bucket α) : List (Act α) → List (List α)
  | [] => []
  | a :: acts => (b.slices a)[place]?.toList ++ sharesOf place (b.perform a) acts

def filed (b : Bucket α) (acts : List (Act α)) : List (Commitment α) :=
  b.events ++ acts.filterMap Act.files?

/-- Commitment `e` lies in a place, from the start or since it was filed there, and `after` is what
was done since. -/
inductive Placed (b : Bucket α) (acts : List (Act α)) : Nat → Commitment α → List (Act α) → Prop
  | initial {place : Nat} {e : Commitment α} (h : b.events[place]? = some e) :
      Placed b acts place e acts
  | commit {before after : List (Act α)} {e : Commitment α}
      (h : acts = before ++ .commit e :: after) :
      Placed b acts (b.run before).events.length e after

/-- Every act files a commitment or draws a slice from each. -/
theorem perform_cases (b : Bucket α) (a : Act α) :
    (∃ e, a = .commit e ∧ b.slices a = [] ∧ (b.perform a).events = b.events ++ [e]) ∨
      ∃ width, a.width? = some width ∧ a.files? = none ∧
        b.slices a = b.events.map (fun e => (e.draw width).value) ∧
        (b.perform a).events = b.events.map (·.drawn width) := by
  cases a with
  | commit e => exact Or.inl ⟨e, rfl, rfl, rfl⟩
  | deliver =>
    exact Or.inr ⟨_, rfl, rfl, deliverPerEvent_value _ b, deliverPerEvent_events _ b⟩
  | deliverPerEvent width =>
    exact Or.inr ⟨_, rfl, rfl, deliverPerEvent_value _ b, deliverPerEvent_events _ b⟩
  | deliverFlat =>
    refine Or.inr ⟨_, rfl, rfl, deliverPerEvent_value _ b, ?_⟩
    rw [perform, deliverFlat, deliverWith_eq]
    exact deliverPerEvent_events _ b
  | deliverWith width =>
    refine Or.inr ⟨_, rfl, rfl, deliverPerEvent_value _ b, ?_⟩
    rw [perform, deliverWith_eq]
    exact deliverPerEvent_events _ b

theorem run_append (b : Bucket α) (acts acts' : List (Act α)) :
    b.run (acts ++ acts') = (b.run acts).run acts' := List.foldl_append

theorem sharesOf_append (place : Nat) (b : Bucket α) (acts acts' : List (Act α)) :
    sharesOf place b (acts ++ acts') = sharesOf place b acts ++ sharesOf place (b.run acts) acts' := by
  induction acts generalizing b with
  | nil => rfl
  | cons a acts ih =>
    simp only [List.cons_append, sharesOf, ih, List.append_assoc]
    rfl

/-- As many commitments lie in a bucket as were filed. -/
theorem run_length (b : Bucket α) (acts : List (Act α)) :
    (b.run acts).events.length = (b.filed acts).length := by
  induction acts generalizing b with
  | nil => simp [run, filed]
  | cons a acts ih =>
    refine (ih (b.perform a)).trans ?_
    rcases b.perform_cases a with ⟨e, rfl, _, hevents⟩ | ⟨width, _, hfiles, _, hevents⟩
    · simp only [filed, hevents, Act.files?, List.filterMap_cons, List.append_assoc,
        List.singleton_append]
    · simp only [filed, hevents, List.filterMap_cons, hfiles, List.length_append, List.length_map]

/-- The commitment in a place is drawn from once by every delivery. -/
theorem sharesOf_eq_draws {b : Bucket α} {place : Nat} {e : Commitment α}
    (h : b.events[place]? = some e) (acts : List (Act α)) :
    sharesOf place b acts = (e.supply.draws (widths acts)).value ∧
      (b.run acts).events[place]? =
        some { e with supply := (e.supply.draws (widths acts)).state } := by
  induction acts generalizing b e with
  | nil => exact ⟨rfl, h⟩
  | cons a acts ih =>
    have hrun : b.run (a :: acts) = (b.perform a).run acts := rfl
    rcases b.perform_cases a with ⟨e', rfl, hslices, hevents⟩ |
      ⟨width, hwidth, _, hslices, hevents⟩
    · -- what is filed later comes to lie behind it
      have hplace : (b.perform (.commit e')).events[place]? = some e := by
        rw [hevents, List.getElem?_append_left (List.getElem?_eq_some_iff.mp h).1, h]
      have hwidths : widths (.commit e' :: acts) = widths acts := rfl
      rw [sharesOf, hslices, List.getElem?_nil, Option.toList_none, List.nil_append, hrun, hwidths]
      exact ih hplace
    · have hplace : (b.perform a).events[place]? = some (e.drawn width) := by
        rw [hevents, List.getElem?_map, h, Option.map_some]
      have hwidths : widths (a :: acts) = width :: widths acts := by
        simp only [widths, List.filterMap_cons, hwidth]
      obtain ⟨hshares, hstate⟩ := ih hplace
      rw [sharesOf, hslices, List.getElem?_map, h, Option.map_some, Option.toList_some, hshares,
        hrun, hstate, hwidths]
      exact ⟨rfl, rfl⟩

/-- Before a commitment is filed nothing comes from its place. -/
theorem sharesOf_before {place : Nat} (b : Bucket α) (acts : List (Act α))
    (h : (b.run acts).events.length ≤ place) : sharesOf place b acts = [] := by
  induction acts generalizing b with
  | nil => rfl
  | cons a acts ih =>
    have hgrown : b.events.length ≤ (b.run (a :: acts)).events.length := by
      rw [run_length, filed, List.length_append]
      exact Nat.le_add_right _ _
    have hplace : (b.slices a)[place]? = none := by
      rcases b.perform_cases a with ⟨e, _, hslices, _⟩ | ⟨width, _, _, hslices, _⟩
      · rw [hslices, List.getElem?_nil]
      · rw [hslices, List.getElem?_eq_none_iff, List.length_map]
        exact Nat.le_trans hgrown h
    rw [sharesOf, hplace, Option.toList_none, List.nil_append]
    exact ih (b.perform a) h

/-! ## Where commitments lie -/

theorem Placed.filed {b : Bucket α} {acts : List (Act α)} {place : Nat} {e : Commitment α}
    {after : List (Act α)} (h : b.Placed acts place e after) :
    (b.filed acts)[place]? = some e := by
  cases h with
  | initial h => rw [Bucket.filed, List.getElem?_append_left (List.getElem?_eq_some_iff.mp h).1, h]
  | commit h =>
    subst h
    rename_i before
    have hfiled : b.filed (before ++ .commit e :: after) =
        b.filed before ++ e :: after.filterMap Act.files? := by
      simp only [Bucket.filed, List.filterMap_append, List.filterMap_cons, Act.files?,
        List.append_assoc]
    rw [hfiled, run_length, List.getElem?_append_right (Nat.le_refl _), Nat.sub_self]
    rfl

theorem Placed.snoc {b : Bucket α} {acts : List (Act α)} {place : Nat} {e : Commitment α}
    {after : List (Act α)} (h : b.Placed acts place e after) (a : Act α) :
    b.Placed (acts ++ [a]) place e (after ++ [a]) := by
  cases h with
  | initial h => exact .initial h
  | commit h =>
    apply Placed.commit
    rw [h, List.append_assoc, List.cons_append]

/-- Every commitment that was filed has its place. -/
theorem exists_placed {b : Bucket α} {acts : List (Act α)} {place : Nat} {e : Commitment α}
    (h : (b.filed acts)[place]? = some e) : ∃ after, b.Placed acts place e after := by
  induction acts using List.reverseRecOn with
  | nil =>
    rw [filed, List.filterMap_nil, List.append_nil] at h
    exact ⟨[], .initial h⟩
  | append_singleton acts a ih =>
    have hfiled : b.filed (acts ++ [a]) = b.filed acts ++ a.files?.toList := by
      cases ha : a.files? with
      | none => simp [filed, ha]
      | some e' => simp [filed, ha]
    rw [hfiled] at h
    rcases Nat.lt_or_ge place (b.filed acts).length with hlt | hge
    · rw [List.getElem?_append_left hlt] at h
      obtain ⟨after, hplaced⟩ := ih h
      exact ⟨after ++ [a], hplaced.snoc a⟩
    · -- nothing but the last act can have filed it
      rw [List.getElem?_append_right hge] at h
      cases a with
      | commit e' =>
        obtain ⟨hzero, rfl⟩ : place - (b.filed acts).length = 0 ∧ e' = e := by
          simpa [Act.files?, List.getElem?_singleton] using h
        have hplace : place = (b.run acts).events.length := by
          rw [run_length]
          exact Nat.le_antisymm (Nat.le_of_sub_eq_zero hzero) hge
        exact ⟨[], hplace ▸ .commit rfl⟩
      | deliver => cases h
      | deliverFlat => cases h
      | deliverPerEvent width => cases h
      | deliverWith width => cases h

/-- The supply of a commitment in a place, drawn from by every delivery since. -/
theorem Placed.draws {b : Bucket α} {acts : List (Act α)} {place : Nat} {e : Commitment α}
    {after : List (Act α)} (h : b.Placed acts place e after) :
    sharesOf place b acts = (e.supply.draws (widths after)).value ∧
      (b.run acts).events[place]? =
        some { e with supply := (e.supply.draws (widths after)).state } := by
  cases h with
  | initial h => exact sharesOf_eq_draws h acts
  | commit h =>
    subst h
    rename_i before
    have hplace : ((b.run before).perform (.commit e)).events[(b.run before).events.length]? =
        some e := List.getElem?_concat_length
    have hshares : sharesOf (b.run before).events.length b (before ++ .commit e :: after) =
        sharesOf (b.run before).events.length ((b.run before).perform (.commit e)) after := by
      rw [sharesOf_append, sharesOf_before b before (Nat.le_refl _)]
      rfl
    rw [hshares, run_append]
    exact sharesOf_eq_draws hplace after

/-! ## What deliveries hand out -/

/-- What a series of acts drew from commitment `e`, which lies in a place since before `after`. -/
structure Handed (b : Bucket α) (acts : List (Act α)) (place : Nat) (e : Commitment α)
    (after : List (Act α)) : Prop where
  /-- It is still the one in its place. -/
  kept : ∃ left, (b.run acts).events[place]? = some { e with supply := left }
  /-- It gave the next of the items that it was filed with, in order and once each, -/
  items : (sharesOf place b acts).flatten = e.supply.rest.take (widths after).sum
  /-- as many as were asked for and as it had. -/
  count : (sharesOf place b acts).flatten.length =
    min (widths after).sum e.supply.rest.length
  /-- Another delivery goes on where the last one stopped, -/
  next : ∀ width, ((b.run acts).deliverPerEvent width).value[place]? =
    some ((e.supply.rest.drop (widths after).sum).take width)
  /-- with empty slices once everything is out. -/
  ended : e.supply.rest.length ≤ (widths after).sum → ∀ width,
    ((b.run acts).deliverPerEvent width).value[place]? = some []

/-- What the deliveries of a bucket hand out after a series of acts. -/
structure Dealt (b : Bucket α) (acts : List (Act α)) : Prop where
  /-- As one sequence they hand out, leave and tell what they do slice by slice. -/
  flat : ∀ width, (b.run acts).deliverWith width =
    let o := (b.run acts).deliverPerEvent width
    ⟨o.value.flatten, o.state, o.notes⟩
  default : (b.run acts).deliver = (b.run acts).deliverPerEvent defaultFrameWidth ∧
    (b.run acts).deliverFlat = (b.run acts).deliverWith defaultFrameWidth
  /-- There is one slice for each commitment filed, in the order they were filed in. -/
  slices : ∀ width,
    ((b.run acts).deliverPerEvent width).value.length = (b.filed acts).length
  placed : ∀ place e, (b.filed acts)[place]? = some e ↔ ∃ after, b.Placed acts place e after
  handed : ∀ place e after, b.Placed acts place e after → b.Handed acts place e after

theorem Placed.handed {b : Bucket α} {acts : List (Act α)} {place : Nat} {e : Commitment α}
    {after : List (Act α)} (h : b.Placed acts place e after) (hsound : e.supply.Sound) :
    b.Handed acts place e after := by
  obtain ⟨hshares, hevent⟩ := h.draws
  have hitems : (sharesOf place b acts).flatten = e.supply.rest.take (widths after).sum := by
    rw [hshares, Supply.draws_flatten hsound]
  have hnext : ∀ width, ((b.run acts).deliverPerEvent width).value[place]? =
      some ((e.supply.rest.drop (widths after).sum).take width) := by
    intro width
    rw [deliverPerEvent_value, List.getElem?_map, hevent, Option.map_some, Commitment.draw,
      Supply.take_value (Supply.draws_sound hsound _), Supply.draws_rest hsound]
  refine ⟨⟨_, hevent⟩, hitems, ?_, hnext, ?_⟩
  · rw [hitems, List.length_take]
  · intro hout width
    rw [hnext, List.drop_eq_nil_iff.mpr hout, List.take_nil]

/-- Whatever is filed in a bucket and delivered from it in whatever way, each commitment hands out
the items of its supply in order, no item twice, in the slice of its place. -/
theorem deliveries (b : Bucket α) (acts : List (Act α))
    (h : ∀ e ∈ b.filed acts, e.supply.Reached) : Dealt b acts where
  flat width := deliverWith_eq width (b.run acts)
  default := ⟨rfl, rfl⟩
  slices width := by
    rw [deliverPerEvent_value, List.length_map, run_length]
  placed _ _ := ⟨exists_placed, fun ⟨_, hplaced⟩ => hplaced.filed⟩
  handed _ _ _ hplaced :=
    hplaced.handed (h _ (List.mem_of_getElem? hplaced.filed)).sound

/-- A supplier that brings less than it declared, and a commitment that joins in between. -/
theorem deliveries_joined :
    let early : Commitment Nat := { deliveryTime := 4, supply := .lazy 5 [7, 8, 9] }
    let late : Commitment Nat := { deliveryTime := 4, supply := .ofList [1, 2] }
    let b : Bucket Nat := (empty 4).commit early
    let acts : List (Act Nat) := [.deliverWith 2, .commit late, .deliver, .deliverPerEvent 3]
    sharesOf 0 b acts = [[7, 8], [9], []] ∧ sharesOf 1 b acts = [[1], [2]] ∧
      (b.run acts).deliverFlat.value = [] ∧ Dealt b acts := by
  intro early late b acts
  refine ⟨by decide, by decide, by decide, deliveries b acts ?_⟩
  intro e he
  have hmem : e = early ∨ late = e := by
    simpa [b, acts, filed, empty, commit, Act.files?] using he
  rcases hmem with rfl | rfl
  · exact .lazy 5 [7, 8, 9] (by decide)
  · exact .ofList [1, 2] (by decide)

end BucketClock.Bucket
