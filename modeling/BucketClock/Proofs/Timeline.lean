import BucketClock.Proofs.Window
import BucketClock.Timeline

/-!
What a timeline hands out. Its first items are given, and the others come from a
`Source`: a repository that may hold the item of an index and may fail, and a
factory for what is not stored. Between two calls the repository may change in
any way, so a call is a number of items together with the repository it meets.

Whatever the calls before it were, a take looks up the indices it is short of
and no others, in order, at that very call; it hands out the items of the next
indices, or nothing at all and changes nothing (`take_run`). The timeline of a
track takes slots from its store in this way, and does no more to the store than
to make slots (`Timeline.run_hands`).
-/

namespace BucketClock

/-- Where a window finds what it does not have at hand. -/
structure Source (σ ι : Type) where
  get : Nat → σ → Outcome σ (Except TrackError (Option ι))
  make : Nat → σ → ι × σ

namespace Source

variable {σ ι : Type}

/-- Looks an index up; the factory makes what is not stored. -/
def look (src : Source σ ι) (i : Nat) (s : σ) : Outcome σ (Except TrackError ι) :=
  let o := src.get i s
  match o.value with
  | .error e => ⟨.error e, o.state, o.notes⟩
  | .ok (some x) => ⟨.ok x, o.state, o.notes⟩
  | .ok none =>
    let m := src.make i o.state
    ⟨.ok m.1, m.2, o.notes⟩

/-- The indices of the list were looked up in turn and every one was answered as listed: with the
item stored under it at that moment, or with the factory's where none was stored. -/
inductive Answered (src : Source σ ι) : List (Nat × ι) → σ → σ → List Note → Prop
  | nil (s : σ) : Answered src [] s s []
  | stored {i : Nat} {x : ι} {rest : List (Nat × ι)} {s s₁ s' : σ} {notes notes' : List Note}
      (h : src.get i s = ⟨.ok (some x), s₁, notes⟩) (later : Answered src rest s₁ s' notes') :
      Answered src ((i, x) :: rest) s s' (notes ++ notes')
  | made {i : Nat} {x : ι} {rest : List (Nat × ι)} {s s₁ s₂ s' : σ} {notes notes' : List Note}
      (h : src.get i s = ⟨.ok none, s₁, notes⟩) (hmake : src.make i s₁ = (x, s₂))
      (later : Answered src rest s₂ s' notes') :
      Answered src ((i, x) :: rest) s s' (notes ++ notes')

/-- The indices were looked up in turn until one failed, and that ended it. -/
inductive Refused (src : Source σ ι) : List Nat → TrackError → σ → σ → List Note → Prop
  | intro {answers : List (Nat × ι)} {i : Nat} {rest : List Nat} {e : TrackError} {s s₁ s' : σ}
      {notes notes' : List Note} (before : src.Answered answers s s₁ notes)
      (h : src.get i s₁ = ⟨.error e, s', notes'⟩) :
      Refused src (answers.map (·.1) ++ i :: rest) e s s' (notes ++ notes')

/-! ## One look-up -/

theorem look_ok {src : Source σ ι} {i : Nat} {s s₁ : σ} {x : ι} {notes : List Note}
    (h : src.look i s = ⟨.ok x, s₁, notes⟩) {rest : List (Nat × ι)} {s' : σ} {notes' : List Note}
    (later : src.Answered rest s₁ s' notes') :
    src.Answered ((i, x) :: rest) s s' (notes ++ notes') := by
  simp only [look] at h
  generalize hget : src.get i s = o at h
  obtain ⟨value, s₀, notes₀⟩ := o
  match value, h with
  | .ok (some y), h =>
    cases h
    exact .stored hget later
  | .ok none, h =>
    cases h
    exact .made hget rfl later

theorem look_error {src : Source σ ι} {i : Nat} {s s' : σ} {e : TrackError} {notes : List Note}
    (h : src.look i s = ⟨.error e, s', notes⟩) : src.get i s = ⟨.error e, s', notes⟩ := by
  simp only [look] at h
  generalize src.get i s = o at h
  obtain ⟨value, s₀, notes₀⟩ := o
  match value, h with
  | .error _, h =>
    cases h
    rfl

theorem Refused.cons {src : Source σ ι} {i : Nat} {indices : List Nat} {e : TrackError}
    {s s₁ s' : σ} {x : ι} {notes notes' : List Note} (h : src.look i s = ⟨.ok x, s₁, notes⟩)
    (later : src.Refused indices e s₁ s' notes') :
    src.Refused (i :: indices) e s s' (notes ++ notes') := by
  obtain ⟨before, hget⟩ := later
  rw [← List.append_assoc]
  exact .intro (look_ok h before) hget

/-! ## A row of look-ups -/

theorem lookUp_ok {src : Source σ ι} (start count : Nat) {s : σ} {found : List ι}
    (h : (Window.lookUp src.look start count s).value = .ok found) :
    ∃ answers, answers.map (·.1) = List.range' start count ∧ answers.map (·.2) = found ∧
      src.Answered answers s (Window.lookUp src.look start count s).state
        (Window.lookUp src.look start count s).notes := by
  induction count generalizing start s found with
  | zero =>
    cases h
    exact ⟨[], rfl, rfl, .nil s⟩
  | succ count ih =>
    simp only [Window.lookUp] at h ⊢
    generalize hlook : src.look start s = o at h ⊢
    obtain ⟨value, s₁, notes⟩ := o
    cases value with
    | error e => cases h
    | ok x =>
      simp only at h ⊢
      cases hrest : (Window.lookUp src.look (start + 1) count s₁).value with
      | error e => simp [hrest, Except.map] at h
      | ok found' =>
        obtain ⟨answers, hindices, hitems, hanswered⟩ := ih (start + 1) hrest
        have hfound : x :: found' = found := by simpa [hrest, Except.map] using h
        refine ⟨(start, x) :: answers, ?_, ?_, look_ok hlook hanswered⟩
        · rw [List.map_cons, hindices, List.range'_succ]
        · rw [List.map_cons, hitems, hfound]

theorem lookUp_error {src : Source σ ι} (start count : Nat) {s : σ} {e : TrackError}
    (h : (Window.lookUp src.look start count s).value = .error e) :
    src.Refused (List.range' start count) e s (Window.lookUp src.look start count s).state
      (Window.lookUp src.look start count s).notes := by
  induction count generalizing start s with
  | zero => cases h
  | succ count ih =>
    simp only [Window.lookUp] at h ⊢
    rw [List.range'_succ]
    generalize hlook : src.look start s = o at h ⊢
    obtain ⟨value, s₁, notes⟩ := o
    cases value with
    | error e' =>
      cases h
      exact .intro (.nil s) (look_error hlook)
    | ok x =>
      simp only at h ⊢
      cases hrest : (Window.lookUp src.look (start + 1) count s₁).value with
      | error e' =>
        have he : e' = e := by simpa [hrest, Except.map] using h
        exact .cons hlook (ih (start + 1) (he ▸ hrest))
      | ok found => simp [hrest, Except.map] at h

end Source

namespace Window

variable {σ ι : Type}

/-! ## Windows over given items -/

/-- A window over `initial`: it has at hand what is left of it, and beyond it nothing. -/
structure Over (initial : List ι) (w : Window ι) : Prop where
  size : w.size = max w.position initial.length
  items : w.items = initial.drop w.position
  le_last : w.position ≤ Index.last

theorem ofList_over (initial : List ι) : (ofList initial).Over initial where
  size := (Nat.zero_max _).symm
  items := rfl
  le_last := Nat.zero_le _

def missing (initial : List ι) (w : Window ι) (limit : Nat) : List Nat :=
  List.range' (max w.position initial.length)
    (Index.add w.position limit - max w.position initial.length)

def growth (start count : Nat) : List Note :=
  if count = 0 then [] else [.logged (.windowGrown start count)]

/-- A take that hands out `taken`: every index it is short of is answered, and the items are what
was left of the given ones up to there and then those answers. -/
structure Handed (src : Source σ ι) (initial : List ι) (w : Window ι) (limit : Nat) (s : σ)
    (o : Outcome (Window ι × σ) (Except TrackError (List ι))) (taken : List ι)
    (answers : List (Nat × ι)) : Prop where
  indices : answers.map (·.1) = w.missing initial limit
  answered : ∃ notes, src.Answered answers s o.state.2 notes ∧
    o.notes = notes ++ growth (max w.position initial.length) answers.length
  position : o.state.1.position = Index.add w.position limit
  length : w.position + taken.length = Index.add w.position limit
  items : taken = (initial.drop w.position).take taken.length ++ answers.map (·.2)

/-- Items from `p` up to `stop`, as they lie at hand once those beyond the given ones are found. -/
theorem grown_split {initial found : List ι} {p stop : Nat} (hle : p ≤ stop)
    (hfound : found.length = stop - max p initial.length) :
    (initial.drop p ++ found).take (stop - p) = (initial.drop p).take (stop - p) ++ found ∧
      (initial.drop p ++ found).drop (stop - p) = initial.drop stop := by
  have hroom : found.length ≤ stop - p - (initial.drop p).length := by
    rw [List.length_drop]
    omega
  constructor
  · rw [List.take_append, List.take_of_length_le hroom]
  · rw [List.drop_append, List.drop_of_length_le hroom, List.append_nil, List.drop_drop,
      Nat.add_sub_cancel' hle]

theorem Over.take_ok {src : Source σ ι} {initial : List ι} {w : Window ι} (h : w.Over initial)
    {limit : Nat} {s : σ} {taken : List ι} (hok : (w.take src.look limit s).value = .ok taken) :
    (w.take src.look limit s).state.1.Over initial ∧
      ∃ answers, Handed src initial w limit s (w.take src.look limit s) taken answers := by
  obtain ⟨hsize, hitems, hlast⟩ := h
  have hle : w.position ≤ Index.add w.position limit := Index.le_add hlast
  cases hlook : (lookUp src.look w.size (Index.add w.position limit - w.size) s).value with
  | error e => simp [take, hlook] at hok
  | ok found =>
    obtain ⟨answers, hindices, hanswers, hanswered⟩ := Source.lookUp_ok _ _ hlook
    have hlength : answers.length = Index.add w.position limit - w.size := by
      simpa using congrArg List.length hindices
    have hfound : found.length = Index.add w.position limit - max w.position initial.length := by
      rw [← hanswers, List.length_map, hlength, hsize]
    have hstop : min (Index.add w.position limit)
        (w.size + (Index.add w.position limit - w.size)) = Index.add w.position limit := by omega
    obtain ⟨hfront, hback⟩ := grown_split hle hfound
    simp only [take, hlook, hstop, hitems, hfront, hback, Except.ok.injEq] at hok ⊢
    have htaken : taken.length = Index.add w.position limit - w.position := by
      rw [← hok, List.length_append, List.length_take, List.length_drop, hfound]
      omega
    refine ⟨⟨?_, rfl, Index.add_le_last _ _⟩, answers, ⟨?_, ⟨_, hanswered, ?_⟩, rfl, ?_, ?_⟩⟩
    · simp only
      omega
    · rw [hindices, missing, hsize]
    · rw [growth, hlength, hsize]
    · omega
    · rw [htaken, hanswers, hok]

theorem Over.take_error {src : Source σ ι} {initial : List ι} {w : Window ι} (h : w.Over initial)
    {limit : Nat} {s : σ} {e : TrackError} (herror : (w.take src.look limit s).value = .error e) :
    (w.take src.look limit s).state.1 = w ∧
      src.Refused (w.missing initial limit) e s (w.take src.look limit s).state.2
        (w.take src.look limit s).notes := by
  cases hfound : (lookUp src.look w.size (Index.add w.position limit - w.size) s).value with
  | error e' =>
    have hrefused := Source.lookUp_error _ _ hfound
    simp only [take, hfound, Except.error.injEq] at herror ⊢
    rw [missing, ← h.size, ← herror]
    exact ⟨trivial, hrefused⟩
  | ok found => simp [take, hfound] at herror

section Items

variable {src : Source σ ι} {initial : List ι} {w : Window ι} {limit : Nat} {s : σ}
  {o : Outcome (Window ι × σ) (Except TrackError (List ι))} {taken : List ι}
  {answers : List (Nat × ι)}

/-- The given items come out under their own indices. -/
theorem Handed.given (h : Handed src initial w limit s o taken answers) {k : Nat}
    (hk : k < taken.length) (hgiven : w.position + k < initial.length) :
    taken[k]? = initial[w.position + k]? := by
  have hfront : k < ((initial.drop w.position).take taken.length).length := by
    rw [List.length_take, List.length_drop]
    omega
  rw [h.items, List.getElem?_append_left hfront, List.getElem?_take_of_lt hk,
    List.getElem?_drop]

/-- Beyond them comes what the look-up of the index was answered with. -/
theorem Handed.looked (h : Handed src initial w limit s o taken answers) {k : Nat}
    (hk : k < taken.length) (hbeyond : initial.length ≤ w.position + k) :
    ∃ x, taken[k]? = some x ∧ (w.position + k, x) ∈ answers := by
  have hlength := h.length
  have hindices := h.indices
  have hcount : answers.length =
      Index.add w.position limit - max w.position initial.length := by
    simpa [missing] using congrArg List.length hindices
  have hfront : ((initial.drop w.position).take taken.length).length =
      initial.length - w.position := by
    rw [List.length_take, List.length_drop]
    omega
  have hplace : k - (initial.length - w.position) < answers.length := by omega
  have hindex : (answers[k - (initial.length - w.position)]).1 = w.position + k := by
    have hmap : (answers.map (·.1))[k - (initial.length - w.position)]? =
        (List.range' (max w.position initial.length)
          (Index.add w.position limit - max w.position initial.length))[k -
            (initial.length - w.position)]? := by rw [hindices, missing]
    rw [List.getElem?_map, List.getElem?_eq_getElem hplace,
      List.getElem?_range' (by omega)] at hmap
    simp only [Option.map_some, Option.some.injEq] at hmap
    omega
  refine ⟨(answers[k - (initial.length - w.position)]).2, ?_, ?_⟩
  · rw [h.items, List.getElem?_append_right (by omega), hfront, List.getElem?_map,
      List.getElem?_eq_getElem hplace]
    rfl
  · rw [← hindex]
    exact List.getElem_mem hplace

end Items

/-! ## Runs -/

/-- A take, with the repository as it is then. -/
structure Call (σ : Type) where
  limit : Nat
  repository : σ

def after (src : Source σ ι) (w : Window ι) (c : Call σ) : Window ι :=
  (w.take src.look c.limit c.repository).state.1

def run (src : Source σ ι) (w : Window ι) (calls : List (Call σ)) : Window ι :=
  calls.foldl (after src) w

/-- What the successful takes of a run hand out, every item under its index. -/
def handed (src : Source σ ι) (w : Window ι) : List (Call σ) → List (Nat × ι)
  | [] => []
  | c :: cs =>
    (match (w.take src.look c.limit c.repository).value with
      | .ok taken => (List.range' w.position taken.length).zip taken
      | .error _ => []) ++ handed src (after src w c) cs

theorem run_append (src : Source σ ι) (w : Window ι) (cs cs' : List (Call σ)) :
    run src w (cs ++ cs') = run src (run src w cs) cs' := List.foldl_append

theorem handed_append (src : Source σ ι) (w : Window ι) (cs cs' : List (Call σ)) :
    handed src w (cs ++ cs') = handed src w cs ++ handed src (run src w cs) cs' := by
  induction cs generalizing w with
  | nil => rfl
  | cons c cs ih => simp only [List.cons_append, handed, ih, List.append_assoc, run, List.foldl_cons]

theorem Over.after (src : Source σ ι) {initial : List ι} {w : Window ι} (h : w.Over initial)
    (c : Call σ) : (after src w c).Over initial := by
  unfold Window.after
  cases hvalue : (w.take src.look c.limit c.repository).value with
  | ok taken => exact (h.take_ok hvalue).1
  | error e => rwa [(h.take_error hvalue).1]

theorem Over.run {src : Source σ ι} {initial : List ι} {w : Window ι} (h : w.Over initial)
    (calls : List (Call σ)) : (run src w calls).Over initial := by
  induction calls generalizing w with
  | nil => exact h
  | cons c calls ih => exact ih (h.after src c)

/-- From a window on, every index comes out once and in order. -/
theorem Over.handed_indices (src : Source σ ι) {initial : List ι} {w : Window ι}
    (h : w.Over initial) (calls : List (Call σ)) :
    ∃ count, (handed src w calls).map (·.1) = List.range' w.position count ∧
      (Window.run src w calls).position = w.position + count := by
  induction calls generalizing w with
  | nil => exact ⟨0, rfl, rfl⟩
  | cons c calls ih =>
    obtain ⟨count, hindices, hposition⟩ := ih (h.after src c)
    rw [handed, List.map_append, hindices]
    cases hvalue : (w.take src.look c.limit c.repository).value with
    | error e =>
      have hsame : Window.after src w c = w := (h.take_error hvalue).1
      refine ⟨count, ?_, ?_⟩
      · rw [hsame]
        rfl
      · rw [hsame] at hposition
        rw [Window.run, List.foldl_cons, hsame]
        exact hposition
    | ok taken =>
      obtain ⟨_, answers, hhanded⟩ := h.take_ok hvalue
      have hnext : (Window.after src w c).position = w.position + taken.length :=
        hhanded.position.trans hhanded.length.symm
      refine ⟨taken.length + count, ?_, ?_⟩
      · simp only
        rw [List.map_fst_zip (by simp), hnext, ← List.range'_append_1]
      · rw [← Nat.add_assoc, ← hnext, ← hposition]
        rfl

/-- A take after any run over given items, whatever the repository held and refused at every call.
The run handed out each index up to the position once and in order. If the take succeeds, and
stays within the range of indices, it hands out `limit` items: the given ones under their indices
and beyond them what the repository held at this call, or the factory made; and what it does to
the repository is to look up the indices from `max p n` on, in order and once each. If it fails it
stops at the look-up that failed, the window is as it was, and what is handed out from then on is
what would have been without this call. -/
theorem take_run (src : Source σ ι) (initial : List ι) (calls : List (Call σ)) (limit : Nat)
    (s : σ) :
    let w := run src (ofList initial) calls
    let o := w.take src.look limit s
    let start := max w.position initial.length
    (handed src (ofList initial) calls).map (·.1) = List.range w.position ∧
    (∀ taken, o.value = .ok taken → w.position + limit ≤ Index.last →
      taken.length = limit ∧ o.state.1.position = w.position + limit ∧
      ∃ answers notes,
        answers.map (·.1) = List.range' start (w.position + limit - start) ∧
        src.Answered answers s o.state.2 notes ∧
        o.notes = notes ++ growth start answers.length ∧
        ∀ k < limit,
          (w.position + k < initial.length → taken[k]? = initial[w.position + k]?) ∧
          (initial.length ≤ w.position + k →
            ∃ x, taken[k]? = some x ∧ (w.position + k, x) ∈ answers)) ∧
    (∀ e, o.value = .error e →
      o.state.1 = w ∧
      src.Refused (List.range' start (Index.add w.position limit - start)) e s o.state.2 o.notes ∧
      ∀ later, handed src (ofList initial) (calls ++ ⟨limit, s⟩ :: later) =
        handed src (ofList initial) (calls ++ later)) := by
  intro w o start
  have hover : w.Over initial := (ofList_over initial).run calls
  refine ⟨?_, ?_, ?_⟩
  · obtain ⟨count, hindices, hposition⟩ := (ofList_over initial).handed_indices src calls
    have hcount : w.position = count := hposition.trans (Nat.zero_add _)
    rw [hindices, hcount, List.range_eq_range']
    rfl
  · intro taken hok hroom
    obtain ⟨_, answers, h⟩ := hover.take_ok hok
    have hadd : Index.add w.position limit = w.position + limit := Index.add_eq_of_le hroom
    have hlength := h.length
    have hindices := h.indices
    obtain ⟨notes, hanswered, hnotes⟩ := h.answered
    rw [hadd] at hlength
    rw [missing, hadd] at hindices
    have htaken : taken.length = limit := Nat.add_left_cancel hlength
    refine ⟨htaken, h.position.trans hadd, answers, notes, hindices, hanswered, hnotes, ?_⟩
    intro k hk
    rw [← htaken] at hk
    exact ⟨h.given hk, h.looked hk⟩
  · intro e herror
    obtain ⟨hsame, hrefused⟩ := hover.take_error herror
    refine ⟨hsame, hrefused, ?_⟩
    intro later
    have hafter : after src w ⟨limit, s⟩ = w := hsame
    have hnothing : handed src w (⟨limit, s⟩ :: later) = handed src w later := by
      rw [handed, hafter]
      simp only [show (w.take src.look limit s).value = .error e from herror, List.nil_append]
    rw [handed_append, handed_append, hnothing]

end Window

/-! ## The timeline of a track -/

namespace Store

variable {α φ : Type}

/-- From `s` to `s'` slots were made, and nothing else in the store changed. -/
structure Grown (s s' : Store α φ) : Prop where
  shelf : s'.shelf = s.shelf
  nextSlot : s.nextSlot ≤ s'.nextSlot
  kept : ∀ slot < s.nextSlot, s'.bucket slot = s.bucket slot

/-- From `s` to `s'` an index was answered with the slot stored under it, or else with a new one
in which lies what the factory made. -/
inductive Answer (factory : Nat → Bucket α) (i : Nat) (slot : Slot) (s s' : Store α φ) : Prop
  | stored (lookup : s.lookup i = some slot)
  | made (lookup : s.lookup i = none) (new : s.nextSlot ≤ slot) (made : slot < s'.nextSlot)
      (bucket : s'.bucket slot = factory i)

theorem Grown.trans {s s' s'' : Store α φ} (h : Grown s s') (h' : Grown s' s'') : Grown s s'' :=
  ⟨h'.shelf.trans h.shelf, Nat.le_trans h.nextSlot h'.nextSlot, fun slot hslot =>
    (h'.kept slot (Nat.lt_of_lt_of_le hslot h.nextSlot)).trans (h.kept slot hslot)⟩

theorem Grown.lookup {s s' : Store α φ} (h : Grown s s') (i : Nat) : s'.lookup i = s.lookup i :=
  congrArg (·.find? i) h.shelf

theorem Answer.since {factory : Nat → Bucket α} {i : Nat} {slot : Slot} {s s' s'' : Store α φ}
    (h : Grown s s') (ha : Answer factory i slot s' s'') : Answer factory i slot s s'' := by
  cases ha with
  | stored hlookup => exact .stored ((h.lookup i).symm.trans hlookup)
  | made hlookup hnew hmade hbucket =>
    exact .made ((h.lookup i).symm.trans hlookup) (Nat.le_trans h.nextSlot hnew) hmade hbucket

theorem Answer.onward {factory : Nat → Bucket α} {i : Nat} {slot : Slot} {s s' s'' : Store α φ}
    (ha : Answer factory i slot s s') (h : Grown s' s'') : Answer factory i slot s s'' := by
  cases ha with
  | stored hlookup => exact .stored hlookup
  | made hlookup hnew hmade hbucket =>
    exact .made hlookup hnew (Nat.lt_of_lt_of_le hmade h.nextSlot)
      ((h.kept slot hmade).trans hbucket)

theorem make_grown (b : Bucket α) (s : Store α φ) :
    Grown s (s.make b).2 ∧ (s.make b).2.bucket (s.make b).1 = b := by
  refine ⟨⟨rfl, Nat.le_succ _, ?_⟩, ?_⟩
  · intro slot hslot
    rw [bucket_make, if_neg (Nat.ne_of_gt hslot)]
  · rw [bucket_make]
    exact if_pos rfl

variable [Outage φ]

def source (factory : Nat → Bucket α) : Source (Store α φ) Slot where
  get := Store.get
  make id s := s.make (factory id)

theorem get_grown (id : Nat) (s : Store α φ) :
    Grown s (s.get id).state ∧ ∀ found, (s.get id).value = .ok found → found = s.lookup id := by
  simp only [get]
  cases (Outage.meet s.outage (.get id)).1 with
  | some f => exact ⟨⟨rfl, Nat.le_refl _, fun _ _ => rfl⟩, fun _ h => by cases h⟩
  | none => exact ⟨⟨rfl, Nat.le_refl _, fun _ _ => rfl⟩, fun _ h => (Except.ok.inj h).symm⟩

/-- Looking indices up in a store changes neither its shelf nor the slots made before, so each is
answered as if it had been the first. -/
theorem answered_stored {factory : Nat → Bucket α} {answers : List (Nat × Slot)}
    {s s' : Store α φ} {notes : List Note} (h : (source factory).Answered answers s s' notes) :
    Grown s s' ∧ ∀ a ∈ answers, Answer factory a.1 a.2 s s' := by
  induction h with
  | nil s => exact ⟨⟨rfl, Nat.le_refl _, fun _ _ => rfl⟩, List.forall_mem_nil _⟩
  | @stored i x _ s s₁ s' _ _ hget _ ih =>
    obtain ⟨hgrown, hfound⟩ := s.get_grown i
    rw [show s.get i = _ from hget] at hgrown hfound
    refine ⟨hgrown.trans ih.1, List.forall_mem_cons.mpr ⟨?_, ?_⟩⟩
    · exact .stored (hfound _ rfl).symm
    · exact fun a ha => (ih.2 a ha).since hgrown
  | @made i x _ s s₁ s₂ s' _ _ hget hmake _ ih =>
    obtain ⟨hgrown, hfound⟩ := s.get_grown i
    rw [show s.get i = _ from hget] at hgrown hfound
    obtain ⟨hgrown', hbucket⟩ := s₁.make_grown (factory i)
    rw [show s₁.make (factory i) = _ from hmake] at hgrown' hbucket
    have hslot : x = s₁.nextSlot := (congrArg Prod.fst hmake).symm
    have hfirst : Answer factory i x s s₂ := by
      refine .made (hfound _ rfl).symm ?_ ?_ hbucket
      · rw [hslot]
        exact hgrown.nextSlot
      · rw [hslot, ← show (s₁.make (factory i)).2 = s₂ from congrArg Prod.snd hmake]
        exact Nat.lt_succ_self _
    refine ⟨(hgrown.trans hgrown').trans ih.1, List.forall_mem_cons.mpr ⟨?_, ?_⟩⟩
    · exact hfirst.onward ih.1
    · exact fun a ha => (ih.2 a ha).since (hgrown.trans hgrown')

theorem refused_grown {factory : Nat → Bucket α} {indices : List Nat} {e : TrackError}
    {s s' : Store α φ} {notes : List Note}
    (h : (source factory).Refused indices e s s' notes) : Grown s s' := by
  obtain @⟨_, i, _, _, _, s₁, _, _, _, before, hget⟩ := h
  have hgrown := (s₁.get_grown i).1
  rw [show s₁.get i = _ from hget] at hgrown
  exact (answered_stored before).1.trans hgrown

theorem fetch_eq_look (factory : Nat → Bucket α) (id : Nat) (s : Store α φ) :
    s.fetch factory id = (source factory).look id s := by
  simp only [fetch, Source.look, source]
  cases (s.get id).value with
  | error e => rfl
  | ok found =>
    cases found with
    | none => rfl
    | some slot => rfl

end Store

namespace Timeline

variable {α φ : Type} [Outage φ]

/-- A timeline takes as its window does from the store. -/
theorem take_eq_source (limit : Nat) (t : Timeline α) (s : Store α φ) :
    t.take limit s =
      let o := t.window.take (Store.source t.factory).look limit s
      ⟨o.value, ({ t with window := o.state.1 }, o.state.2), o.notes⟩ := by
  have hlook : (fun id s => s.fetch t.factory id) = (Store.source (φ := φ) t.factory).look := by
    funext id s
    exact s.fetch_eq_look t.factory id
  rw [Timeline.take, hlook]

def after (t : Timeline α) (c : Window.Call (Store α φ)) : Timeline α :=
  (t.take c.limit c.repository).state.1

def run (t : Timeline α) (calls : List (Window.Call (Store α φ))) : Timeline α :=
  calls.foldl after t

theorem run_eq_source (t : Timeline α) (calls : List (Window.Call (Store α φ))) :
    t.run calls =
      { t with window := Window.run (Store.source t.factory) t.window calls } := by
  induction calls generalizing t with
  | nil => rfl
  | cons c calls ih =>
    have hafter : t.after c =
        { t with window := Window.after (Store.source t.factory) t.window c } := by
      rw [after, take_eq_source]
      rfl
    rw [run, List.foldl_cons, hafter]
    exact ih _

/-- The slots of a take that succeeds within the range of indices: those given under their own
indices, and beyond them the slot in which the store holds the bucket of the index, or a new one
with what the factory makes. -/
structure Hands (t : Timeline α) (given : List Slot) (limit : Nat) (s : Store α φ)
    (o : Outcome (Timeline α × Store α φ) (Except TrackError (List Slot)))
    (slots : List Slot) : Prop where
  length : slots.length = limit
  position : o.state.1.window.position = t.window.position + limit
  known : ∀ k < limit, t.window.position + k < given.length →
    slots[k]? = given[t.window.position + k]?
  looked : ∀ k < limit, given.length ≤ t.window.position + k →
    ∃ slot, slots[k]? = some slot ∧
      Store.Answer t.factory (t.window.position + k) slot s o.state.2

theorem take_hands {given : List Slot} {t : Timeline α} (h : t.window.Over given) {limit : Nat}
    (hroom : t.window.position + limit ≤ Index.last) {s : Store α φ} {slots : List Slot}
    (hok : (t.take limit s).value = .ok slots) :
    Hands t given limit s (t.take limit s) slots := by
  rw [take_eq_source] at hok ⊢
  obtain ⟨_, answers, hhanded⟩ := h.take_ok hok
  obtain ⟨_, hanswered, _⟩ := hhanded.answered
  obtain ⟨_, hanswers⟩ := Store.answered_stored hanswered
  have hadd : Index.add t.window.position limit = t.window.position + limit :=
    Index.add_eq_of_le hroom
  have hlength : slots.length = limit := Nat.add_left_cancel (hhanded.length.trans hadd)
  refine ⟨hlength, hhanded.position.trans hadd, ?_, ?_⟩
  · intro k hk
    exact hhanded.given (hlength.symm ▸ hk)
  · intro k hk hbeyond
    obtain ⟨slot, hslot, hmem⟩ := hhanded.looked (hlength.symm ▸ hk) hbeyond
    exact ⟨slot, hslot, hanswers _ hmem⟩

/-- A take does no more to the store than to make slots, and one that fails leaves the timeline
as it was. -/
theorem take_grown {given : List Slot} {t : Timeline α} (h : t.window.Over given) (limit : Nat)
    (s : Store α φ) :
    Store.Grown s (t.take limit s).state.2 ∧
      ∀ e, (t.take limit s).value = .error e → (t.take limit s).state.1 = t := by
  rw [take_eq_source]
  cases hvalue : (t.window.take (Store.source t.factory).look limit s).value with
  | ok slots =>
    obtain ⟨_, _, hhanded⟩ := h.take_ok hvalue
    obtain ⟨_, hanswered, _⟩ := hhanded.answered
    exact ⟨(Store.answered_stored hanswered).1, nofun⟩
  | error e =>
    obtain ⟨hsame, hrefused⟩ := h.take_error hvalue
    refine ⟨Store.refused_grown hrefused, ?_⟩
    intro _ _
    simp only [hsame]

/-- A take of a timeline after any run, whatever the stores held and refused at every call. -/
theorem run_hands (given : List Slot) (factory : Nat → Bucket α)
    (calls : List (Window.Call (Store α φ))) (limit : Nat) (s : Store α φ) :
    let t := run ⟨.ofList given, factory⟩ calls
    let o := t.take limit s
    t.factory = factory ∧ Store.Grown s o.state.2 ∧
      (∀ slots, o.value = .ok slots → t.window.position + limit ≤ Index.last →
        Hands t given limit s o slots) ∧
      (∀ e, o.value = .error e → o.state.1 = t) := by
  intro t o
  have ht : t = ⟨Window.run (Store.source factory) (.ofList given) calls, factory⟩ :=
    run_eq_source _ calls
  have hover : t.window.Over given := by
    rw [ht]
    exact (Window.ofList_over given).run calls
  obtain ⟨hgrown, herror⟩ := take_grown hover limit s
  refine ⟨by rw [ht], hgrown, ?_, herror⟩
  intro slots hok hroom
  exact take_hands hover hroom hok

end Timeline

namespace Window

def holding (slot : Slot) (outage : List PlannedFailure) : Store Nat (List PlannedFailure) :=
  { Store.empty outage with shelf := ⟨[(3, slot)]⟩, nextSlot := 20 }

/-- Two slots are given. A take of three is followed by one of two, which the store refuses once
it is asked about bucket 4. -/
def refusedCalls : List (Call (Store Nat (List PlannedFailure))) :=
  [⟨3, holding 10 []⟩,
    ⟨2, holding 10 [{ kind := .get, id := some 4, failure := ⟨.told .backend "lost", .none⟩ }]⟩]

/-- By the next call bucket 3 was stored in another slot, and that is the one handed out. -/
theorem take_run_refused :
    let src := Store.source Bucket.empty
    let w := run src (ofList [5, 6]) refusedCalls
    let o := w.take src.look 2 (holding 11 [])
    w.position = 3 ∧ o.value = .ok [11, 20] ∧
      ∃ answers notes, answers.map (·.1) = [3, 4] ∧
        src.Answered answers (holding 11 []) o.state.2 notes ∧ (3, 11) ∈ answers := by
  intro src w o
  have hposition : w.position = 3 := by decide +kernel
  have hok : o.value = .ok [11, 20] := rfl
  obtain ⟨_, hsuccess, _⟩ := take_run src [5, 6] refusedCalls 2 (holding 11 [])
  obtain ⟨_, _, answers, notes, hindices, hanswered, _, hitems⟩ :=
    hsuccess [11, 20] hok (by decide +kernel)
  obtain ⟨x, hx, hmem⟩ := (hitems 0 (by decide)).2 (by decide +kernel)
  refine ⟨hposition, hok, answers, notes, ?_, hanswered, ?_⟩
  · rw [hindices]
    decide +kernel
  · change (w.position + 0, x) ∈ answers at hmem
    rw [hposition] at hmem
    cases hx
    exact hmem

end Window
end BucketClock
