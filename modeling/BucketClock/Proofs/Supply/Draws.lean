import BucketClock.Proofs.Alike
import Mathlib.Algebra.GroupWithZero.Nat
import Mathlib.Data.List.Dedup

/-!
Draws in a row. A `Recipe` says how a supply was made, and with that what it can
hand out in all. However many callers draw on it and in whatever order, their
draws form one list; each hands out the next items (`draws_value`), and several
draws in a row are one draw of as many items as they ask for together
(`draws_eq_take`). So what is handed out is divided among the callers
(`shares_perm`), and a supplier runs in the first draw or not at all
(`take_notes_of_drawn`). `recipe_delivers` puts these together.
-/

namespace BucketClock

/-- How many items each supplier brought that ran. -/
def Note.brought (notes : List Note) : List Nat :=
  notes.filterMap fun
    | .supplied count => some count
    | _ => none

namespace Supply

variable {α κ : Type}

/-! ## Recipes -/

inductive Recipe (α : Type) where
  | ofList (items : List α)
  | single (item : α)
  | lazy (size : Nat) (items : List α)
  | deferred (items : List α)

namespace Recipe

def supply : Recipe α → Supply α
  | ofList items => .ofList items
  | single item => .single item
  | lazy size items => .lazy size items
  | deferred items => .deferred items

/-- What the supply can hand out in all. -/
def items : Recipe α → List α
  | ofList items => items
  | single item => [item]
  | lazy size items => items.take size
  | deferred items => items

def declared : Recipe α → Option Nat
  | ofList items => some items.length
  | single _ => some 1
  | lazy size _ => some size
  | deferred _ => none

/-- How many items its supplier brings, if it has one that will run. -/
def brings : Recipe α → List Nat
  | ofList _ => []
  | single _ => []
  | lazy size items => if size = 0 then [] else [items.length]
  | deferred items => [items.length]

def InRange : Recipe α → Prop
  | ofList items => items.length ≤ Index.last
  | single _ => True
  | lazy size _ => size ≤ Index.last
  | deferred items => items.length ≤ Index.last

theorem built {o : Recipe α} (h : o.InRange) : o.supply.Built o.items := by
  cases o with
  | ofList items => exact .ofList h
  | single item => exact .ofList (show 1 ≤ Index.last by decide)
  | lazy size items => exact .lazy h rfl
  | deferred items => exact .deferred h

theorem sound {o : Recipe α} (h : o.InRange) : o.supply.Sound := (built h).reached.sound

theorem supply_rest {o : Recipe α} (h : o.InRange) : o.supply.rest = o.items := (built h).rest

theorem supply_position (o : Recipe α) : o.supply.position = 0 := by
  cases o <;> rfl

theorem supply_size (o : Recipe α) : o.supply.size = o.declared := by
  cases o <;> rfl

/-- Made supplies are full, but for those known to hold nothing. -/
theorem supply_phase (o : Recipe α) :
    o.supply.phase = if o.declared = some 0 then .exhausted else .full := by
  cases o <;> rfl

end Recipe

/-! ## One draw after the other -/

def draws (s : Supply α) : List Nat → Outcome (Supply α) (List (List α))
  | [] => ⟨[], s, []⟩
  | limit :: limits =>
    let o := s.take limit
    let later := o.state.draws limits
    ⟨o.value :: later.value, later.state, o.notes ++ later.notes⟩

theorem draws_append (s : Supply α) (limits limits' : List Nat) :
    s.draws (limits ++ limits') =
      let o := s.draws limits
      let later := o.state.draws limits'
      ⟨o.value ++ later.value, later.state, o.notes ++ later.notes⟩ := by
  induction limits generalizing s with
  | nil => rfl
  | cons limit limits ih => simp only [List.cons_append, draws, ih, List.append_assoc]

theorem draws_value_length (s : Supply α) (limits : List Nat) :
    (s.draws limits).value.length = limits.length := by
  induction limits generalizing s with
  | nil => rfl
  | cons limit limits ih => simp only [draws, List.length_cons, ih]

theorem draws_sound {s : Supply α} (h : s.Sound) (limits : List Nat) :
    (s.draws limits).state.Sound := by
  induction limits generalizing s with
  | nil => exact h
  | cons limit limits ih => exact ih (take_sound h limit)

/-- Draws leave what they do not hand out. -/
theorem draws_rest {s : Supply α} (h : s.Sound) (limits : List Nat) :
    (s.draws limits).state.rest = s.rest.drop limits.sum := by
  induction limits generalizing s with
  | nil => rfl
  | cons limit limits ih =>
    simp only [draws]
    rw [ih (take_sound h limit), take_rest h, List.drop_drop, List.sum_cons]

/-- Together the draws hand out the front of the rest. -/
theorem draws_flatten {s : Supply α} (h : s.Sound) (limits : List Nat) :
    (s.draws limits).value.flatten = s.rest.take limits.sum := by
  induction limits generalizing s with
  | nil => rfl
  | cons limit limits ih =>
    simp only [draws, List.flatten_cons]
    rw [ih (take_sound h limit), take_value h, take_rest h, List.sum_cons, List.take_add]

/-- A supplier that runs does not move the position. -/
theorem brought_position (s : Supply α) : s.brought.position = s.position := by
  unfold brought
  split
  · unfold materialize
    split <;> rfl
  · rfl

theorem take_position {s : Supply α} (h : s.Sound) (limit : Nat) :
    (s.take limit).state.position = s.position + min limit s.rest.length := by
  obtain ⟨hopened, hrest⟩ := brought_opened h
  rw [(take_of_opened s limit hopened).2, ← hrest, hopened.rest, ← s.brought_position]

/-- The position is the number of items that are out. -/
theorem draws_position {s : Supply α} (h : s.Sound) (limits : List Nat) :
    (s.draws limits).state.position = s.position + min limits.sum s.rest.length := by
  induction limits generalizing s with
  | nil => simp [draws]
  | cons limit limits ih =>
    simp only [draws]
    rw [ih (take_sound h limit), take_position h, take_rest h, List.length_drop, List.sum_cons]
    omega

/-- The draw in the middle of a list hands out the next items. -/
theorem draws_value {s : Supply α} (h : s.Sound) (before after : List Nat) (limit : Nat) :
    (s.draws (before ++ limit :: after)).value[before.length]? =
      some ((s.rest.drop before.sum).take limit) := by
  rw [draws_append]
  simp only [draws]
  rw [List.getElem?_append_right (Nat.le_of_eq (s.draws_value_length before)),
    draws_value_length, Nat.sub_self, List.getElem?_cons_zero,
    take_value (draws_sound h before), draws_rest h]

/-! ## Draws that are put together -/

/-- What a draw tells does not depend on how much it may hand out. -/
theorem take_notes (s : Supply α) (limit limit' : Nat) :
    (s.take limit).notes = (s.take limit').notes := rfl

/-- No draw after the first has anything to tell, so no supplier runs in it. -/
theorem take_notes_of_drawn {s : Supply α} (h : s.phase ≠ .full) (limit : Nat) :
    (s.take limit).notes = [] := by
  simp only [take, if_neg h]

theorem brought_of_drawn {s : Supply α} (h : s.phase ≠ .full) : s.brought = s := by
  simp only [brought, if_neg h]

theorem draws_notes_of_drawn {s : Supply α} (h : s.phase ≠ .full) (limits : List Nat) :
    (s.draws limits).notes = [] := by
  induction limits generalizing s with
  | nil => rfl
  | cons limit limits ih =>
    simp only [draws]
    rw [take_notes_of_drawn h, ih (s.take_phase limit), List.append_nil]

/-- Two draws leave what one draw of as many items leaves. -/
theorem take_take_state {s : Supply α} (h : s.Sound) (a b : Nat) :
    ((s.take a).state.take b).state = (s.take (a + b)).state := by
  have hopened := (brought_opened h).1
  have hdrawn := brought_of_drawn (s.take_phase a)
  have hopened' := (brought_opened (take_sound h a)).1
  rw [(take_of_opened _ b hopened').2, hdrawn, (take_of_opened s a hopened).2,
    (take_of_opened s (a + b) hopened).2]
  have hposition : s.brought.position + min a s.brought.buffer.length +
      min b (s.brought.buffer.drop a).length =
      s.brought.position + min (a + b) s.brought.buffer.length := by
    rw [List.length_drop]
    omega
  simp only [hposition, List.drop_drop]
  congr 1
  by_cases hend : s.brought.buffer.drop (a + b) = []
  · rw [if_pos hend, if_pos hend]
  · have hbegun : s.brought.buffer.drop a ≠ [] := by
      intro hnil
      rw [← List.drop_drop, hnil] at hend
      exact hend List.drop_nil
    rw [if_neg hend, if_neg hend, if_neg hbegun]

theorem take_take_notes (s : Supply α) (a b : Nat) :
    (s.take a).notes ++ ((s.take a).state.take b).notes = (s.take (a + b)).notes := by
  rw [take_notes_of_drawn (s.take_phase a), List.append_nil, s.take_notes a (a + b)]

/-- Draws in a row leave and tell what one draw of as many items leaves and tells. -/
theorem draws_eq_take {s : Supply α} (h : s.Sound) (limit : Nat) (limits : List Nat) :
    (s.draws (limit :: limits)).state = (s.take (limit :: limits).sum).state ∧
      (s.draws (limit :: limits)).notes = (s.take (limit :: limits).sum).notes := by
  induction limits generalizing s limit with
  | nil => simp [draws]
  | cons limit' limits ih =>
    obtain ⟨hstate, hnotes⟩ := ih (take_sound h limit) limit'
    rw [draws, hstate, hnotes, List.sum_cons (a := limit)]
    exact ⟨take_take_state h limit _, s.take_take_notes limit _⟩

/-- One draw in place of several in a row hands out what they do together, and changes nothing
else. -/
theorem draws_merge {s : Supply α} (h : s.Sound) (before : List Nat) (limit : Nat)
    (more after : List Nat) :
    let run := s.draws (before ++ limit :: more ++ after)
    ∃ earlier slices later, run.value = earlier ++ slices ++ later ∧
      earlier.length = before.length ∧ slices.length = more.length + 1 ∧
      s.draws (before ++ (limit :: more).sum :: after) =
        ⟨earlier ++ slices.flatten :: later, run.state, run.notes⟩ := by
  intro run
  have hbefore := draws_sound h before
  obtain ⟨hstate, hnotes⟩ := draws_eq_take hbefore limit more
  have hslices := draws_flatten hbefore (limit :: more)
  rw [← take_value hbefore] at hslices
  have hmerged : (s.draws before).state.draws ((limit :: more).sum :: after) =
      let o := (s.draws before).state.take (limit :: more).sum
      let later := o.state.draws after
      ⟨o.value :: later.value, later.state, o.notes ++ later.notes⟩ := rfl
  refine ⟨(s.draws before).value, ((s.draws before).state.draws (limit :: more)).value,
    (((s.draws before).state.draws (limit :: more)).state.draws after).value, ?_,
    draws_value_length _ _, draws_value_length _ (limit :: more), ?_⟩
  · simp only [run, draws_append]
  · simp only [run, List.append_assoc, draws_append, hmerged, hslices, hstate, hnotes]

/-- Once nothing is left, nothing more comes. -/
theorem draws_ended {s : Supply α} (h : s.Sound) {before : List Nat}
    (hout : s.rest.length ≤ before.sum) (after : List Nat) :
    ∀ slice ∈ (s.draws (before ++ after)).value.drop before.length, slice = [] := by
  intro slice hslice
  have hlater : ((s.draws before).state.draws after).value.flatten = [] := by
    rw [draws_flatten (draws_sound h before), draws_rest h, List.drop_eq_nil_iff.mpr hout,
      List.take_nil]
  rw [draws_append, List.drop_left' (draws_value_length _ _)] at hslice
  exact List.flatten_eq_nil_iff.mp hlater slice hslice

/-! ## Callers -/

section

variable [DecidableEq κ]

/-- What one caller got, in the order in which it got it. -/
def share (who : κ) (callers : List κ) (slices : List (List α)) : List α :=
  ((callers.zip slices).filter (·.1 = who)).flatMap (·.2)

theorem share_cons (who caller : κ) (callers : List κ) (slice : List α)
    (slices : List (List α)) :
    share who (caller :: callers) (slice :: slices) =
      (if caller = who then slice else []) ++ share who callers slices := by
  simp only [share, List.zip_cons_cons, List.filter_cons, decide_eq_true_eq]
  split <;> rfl

theorem share_sublist (who : κ) {callers : List κ} {slices : List (List α)}
    (h : callers.length = slices.length) : (share who callers slices).Sublist slices.flatten := by
  induction callers generalizing slices with
  | nil => exact List.nil_sublist _
  | cons caller callers ih =>
    cases slices with
    | nil => exact absurd h (Nat.succ_ne_zero _)
    | cons slice slices =>
      rw [share_cons, List.flatten_cons]
      refine List.Sublist.append ?_ (ih (Nat.succ.inj h))
      split
      · exact List.Sublist.refl _
      · exact List.nil_sublist _

/-- The slices are divided among the callers: nothing is left out and nothing is given twice. -/
theorem shares_perm {everyone callers : List κ} {slices : List (List α)} (hnodup : everyone.Nodup)
    (hmem : ∀ who ∈ callers, who ∈ everyone) (h : callers.length = slices.length) :
    (everyone.flatMap fun who => share who callers slices).Perm slices.flatten := by
  induction callers generalizing slices with
  | nil =>
    cases slices with
    | nil =>
      have hnone : ∀ who ∈ everyone, share who ([] : List κ) ([] : List (List α)) = [] :=
        fun _ _ => rfl
      rw [List.flatMap_eq_nil_iff.mpr hnone, List.flatten_nil]
    | cons slice slices => exact absurd h.symm (Nat.succ_ne_zero _)
  | cons caller callers ih =>
    cases slices with
    | nil => exact absurd h (Nat.succ_ne_zero _)
    | cons slice slices =>
      have hrest := ih (fun who hwho => hmem who (List.mem_cons_of_mem _ hwho)) (Nat.succ.inj h)
      -- the caller of the first slice stands among the callers in one place
      obtain ⟨front, back, rfl⟩ := List.append_of_mem (hmem caller List.mem_cons_self)
      have hnot : caller ∉ front ++ back := (List.nodup_cons.mp (List.nodup_middle.mp hnodup)).1
      have hother : ∀ whos : List κ, caller ∉ whos →
          (whos.flatMap fun who => share who (caller :: callers) (slice :: slices)) =
            whos.flatMap fun who => share who callers slices := by
        intro whos hwhos
        refine List.flatMap_congr fun who hwho => ?_
        have hne : caller ≠ who := fun heq => hwhos (heq ▸ hwho)
        rw [share_cons, if_neg hne, List.nil_append]
      simp only [List.mem_append, not_or] at hnot
      rw [List.flatMap_append, List.flatMap_cons] at hrest ⊢
      rw [hother front hnot.1, hother back hnot.2, share_cons, if_pos rfl, List.flatten_cons,
        List.append_assoc]
      exact List.perm_append_comm_assoc _ _ _ |>.trans (hrest.append_left slice)

end

/-! ## The law -/

section

variable [DecidableEq κ]

/-- What `run` is, if it is the run of draws with these limits, set by these callers, on a supply
that was made as `o` says. -/
structure Delivers (o : Recipe α) (callers : List κ) (limits : List Nat)
    (run : Outcome (Supply α) (List (List α))) : Prop where
  /-- Each draw hands out the next items, as many as it may and as there are. -/
  next : ∀ before limit after, limits = before ++ limit :: after →
    let position := (o.supply.draws before).state.position
    let slice := (o.items.drop position).take limit
    run.value[before.length]? = some slice ∧
      slice.length = min limit (o.items.length - position)
  /-- The position is the number of items that are out. -/
  position : run.state.position = run.value.flatten.length
  together : run.value.flatten = o.items.take (min limits.sum o.items.length) ∧
    run.value.flatten.length = min limits.sum o.items.length
  /-- What is out is divided among the callers, -/
  divided : (callers.dedup.flatMap fun who => share who callers run.value).Perm
    (o.items.take (min limits.sum o.items.length))
  /-- each of which gets its items in order. -/
  ordered : ∀ who, (share who callers run.value).Sublist
    (o.items.take (min limits.sum o.items.length))
  /-- One draw in place of several in a row hands out what they do and changes nothing else. -/
  split : ∀ before limit more after, limits = before ++ limit :: more ++ after →
    ∃ earlier slices later,
      run.value = earlier ++ slices ++ later ∧
      earlier.length = before.length ∧ slices.length = more.length + 1 ∧
      o.supply.draws (before ++ (limit :: more).sum :: after) =
        ⟨earlier ++ slices.flatten :: later, run.state, run.notes⟩
  /-- Once everything is out, nothing more comes. -/
  ended : ∀ before after, limits = before ++ after →
    (o.supply.draws before).value.flatten.length = o.items.length →
    ∀ slice ∈ run.value.drop before.length, slice = []
  /-- The supplier runs in the first draw or not at all, -/
  first : ∀ limit more, limits = limit :: more →
    Note.brought (o.supply.take limit).notes = o.brings ∧
      ((o.supply.take limit).state.draws more).notes = []
  /-- so never twice, -/
  once : (Note.brought run.notes).length ≤ 1
  /-- and never if nothing is to be brought. -/
  never : o.declared = some 0 → Note.brought run.notes = []

theorem Recipe.brings_length (o : Recipe α) : o.brings.length ≤ 1 := by
  cases o with
  | ofList items => exact Nat.zero_le _
  | single item => exact Nat.zero_le _
  | lazy size items =>
    simp only [brings]
    split <;> simp
  | deferred items => exact Nat.le_refl _

theorem Recipe.brings_of_empty {o : Recipe α} (h : o.declared = some 0) : o.brings = [] := by
  cases o with
  | ofList items => rfl
  | single item => rfl
  | lazy size items => exact if_pos (Option.some.inj h)
  | deferred items => cases h

/-- The first draw tells what the supplier brought. -/
theorem Recipe.take_brought (o : Recipe α) (limit : Nat) :
    Note.brought (o.supply.take limit).notes = o.brings := by
  have hnotes : (o.supply.take limit).notes =
      (if o.supply.phase = .full then o.supply.materialize else ⟨(), o.supply, []⟩).notes := rfl
  by_cases hempty : o.declared = some 0
  · rw [hnotes, supply_phase, if_pos hempty, brings_of_empty hempty]
    rfl
  · rw [hnotes, supply_phase, if_neg hempty, if_pos rfl]
    cases o with
    | ofList items => rfl
    | single item => rfl
    | lazy size items =>
      have hsize : size ≠ 0 := fun hzero => hempty (congrArg some hzero)
      show _ :: Note.brought (if size ≠ items.length then _ else _) = (lazy size items).brings
      rw [brings, if_neg hsize]
      split <;> rfl
    | deferred items => rfl

theorem Recipe.draws_notes {o : Recipe α} (h : o.InRange) (limit : Nat) (limits : List Nat) :
    (o.supply.draws (limit :: limits)).notes = (o.supply.take limit).notes := by
  rw [(draws_eq_take (sound h) limit limits).2]
  exact o.supply.take_notes _ _

theorem Recipe.draws_brought {o : Recipe α} (h : o.InRange) (limits : List Nat) :
    Note.brought (o.supply.draws limits).notes = if limits = [] then [] else o.brings := by
  cases limits with
  | nil => rfl
  | cons limit limits => rw [draws_notes h, take_brought, if_neg (List.cons_ne_nil _ _)]

/-- Whatever draws are made on a supply, it hands out its items in order, once each, and its
supplier runs once at most. -/
theorem recipe_delivers (o : Recipe α) (h : o.InRange) (requests : List (κ × Nat)) :
    Delivers o (requests.map (·.1)) (requests.map (·.2))
      (o.supply.draws (requests.map (·.2))) := by
  have hsound := Recipe.sound h
  have hrest := Recipe.supply_rest h
  have hflatten : ∀ limits, (o.supply.draws limits).value.flatten =
      o.items.take (min limits.sum o.items.length) := by
    intro limits
    rw [draws_flatten hsound, hrest, List.take_eq_take_min]
  have hposition : ∀ limits, (o.supply.draws limits).state.position =
      min limits.sum o.items.length := by
    intro limits
    rw [draws_position hsound, hrest, o.supply_position, Nat.zero_add]
  have hcallers : (requests.map (·.1)).length =
      (o.supply.draws (requests.map (·.2))).value.length := by
    rw [draws_value_length, List.length_map, List.length_map]
  constructor
  case next =>
    intro before limit after heq position slice
    refine ⟨?_, by rw [List.length_take, List.length_drop]⟩
    have hdrop : o.items.drop position = o.items.drop before.sum := by
      rw [show position = _ from hposition before, ← List.drop_eq_drop_min]
    rw [heq, draws_value hsound, hrest]
    exact congrArg (fun items => some (List.take limit items)) hdrop.symm
  case position =>
    rw [hposition, hflatten, List.length_take]
    omega
  case together =>
    rw [hflatten, List.length_take]
    exact ⟨rfl, by omega⟩
  case divided =>
    rw [← hflatten]
    exact shares_perm (List.nodup_dedup _) (fun _ hwho => List.mem_dedup.mpr hwho) hcallers
  case ordered =>
    rw [← hflatten]
    exact fun who => share_sublist who hcallers
  case split =>
    intro before limit more after heq
    rw [heq]
    exact draws_merge hsound before limit more after
  case ended =>
    intro before after heq hout
    have hgone : o.supply.rest.length ≤ before.sum := by
      rw [hflatten, List.length_take] at hout
      rw [hrest]
      omega
    rw [heq]
    exact draws_ended hsound hgone after
  case first =>
    intro limit more _
    exact ⟨o.take_brought limit, draws_notes_of_drawn (o.supply.take_phase limit) more⟩
  case once =>
    rw [Recipe.draws_brought h]
    split
    · exact Nat.zero_le _
    · exact o.brings_length
  case never =>
    intro hempty
    rw [Recipe.draws_brought h, Recipe.brings_of_empty hempty, ite_self]

/-- Two callers draw on a supply that is said to hold five items and whose supplier brings
three. -/
theorem recipe_delivers_short :
    let o : Recipe Nat := .lazy 5 [7, 8, 9]
    let requests := [("left", 2), ("right", 0), ("right", Index.last), ("left", 4)]
    let run := o.supply.draws (requests.map (·.2))
    run.value = [[7, 8], [], [9], []] ∧ share "left" (requests.map (·.1)) run.value = [7, 8] ∧
      Note.brought run.notes = [3] ∧
      Delivers o (requests.map (·.1)) (requests.map (·.2)) run :=
  ⟨by decide +kernel, by decide +kernel, by decide +kernel,
    recipe_delivers (.lazy 5 [7, 8, 9]) (show 5 ≤ Index.last by decide) _⟩

end

end Supply
end BucketClock
