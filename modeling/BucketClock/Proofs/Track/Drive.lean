import BucketClock.Proofs.Track.Delivery
import BucketClock.Proofs.Track.Output
import BucketClock.Track.Drive

/-!
Driving loops. A drive is a number of ticks, and the handler is told the items
of their drains one by one, whatever it answers (`driveFrom_drove`). Drives in a
row therefore hand every item out once, in order and with the bucket it was
drained from; and a drive that returns a report leaves nothing outstanding
(`drive_delivers`).
-/

namespace BucketClock

/-! ## What a handler hears -/

/-- What a handler is told about a drain: the items in order, each with its bucket. -/
def Drain.told {α : Type} (d : Drain α) : List (Nat × α) := d.frame.map (d.bucket, ·)

namespace Handler

variable {α σ : Type}

/-- What a handler answers when it is told of items one by one, and its state after them. -/
def hear (h : Handler σ α) : List (Nat × α) → σ → List (Except Incident Unit) × σ
  | [], s => ([], s)
  | x :: xs, s =>
    let o := h x.1 x.2 s
    let r := hear h xs o.2
    (o.1 :: r.1, r.2)

theorem hear_append (h : Handler σ α) (xs ys : List (Nat × α)) (s : σ) :
    hear h (xs ++ ys) s =
      ((hear h xs s).1 ++ (hear h ys (hear h xs s).2).1, (hear h ys (hear h xs s).2).2) := by
  induction xs generalizing s with
  | nil => rfl
  | cons x xs ih => simp only [List.cons_append, hear, ih]

theorem length_hear (h : Handler σ α) (xs : List (Nat × α)) (s : σ) :
    (hear h xs s).1.length = xs.length := by
  induction xs generalizing s with
  | nil => rfl
  | cons x xs ih => simp only [hear, List.length_cons, ih]

end Handler

namespace DriveReport

variable {α σ : Type}

def adding (frames : Nat) (answers : List (Except Incident Unit)) (r : DriveReport) :
    DriveReport where
  frames := r.frames + frames
  delivered := r.delivered + answers.countP (·.isOk)
  failed := r.failed + answers.countP (!·.isOk)

theorem adding_adding (frames frames' : Nat) (answers answers' : List (Except Incident Unit))
    (r : DriveReport) :
    (r.adding frames answers).adding frames' answers' =
      r.adding (frames + frames') (answers ++ answers') := by
  simp only [adding, List.countP_append, Nat.add_assoc]

theorem dispatchItems_state (h : Handler σ α) (bucket : Nat) (items : List α) (r : DriveReport)
    (s : σ) :
    (dispatchItems h bucket items r s).state =
      (r.adding 0 (h.hear (items.map (bucket, ·)) s).1, (h.hear (items.map (bucket, ·)) s).2) := by
  induction items generalizing r s with
  | nil => rfl
  | cons x items ih =>
    have hcounted : (r.recordItem bucket (h bucket x s).1).state = r.adding 0 [(h bucket x s).1] := by
      cases (h bucket x s).1 with
      | ok u => rfl
      | error i => rfl
    show (dispatchItems h bucket items (r.recordItem bucket (h bucket x s).1).state
      (h bucket x s).2).state = _
    rw [hcounted, ih, adding_adding]
    rfl

theorem dispatchFrame_state (h : Handler σ α) (bucket : Nat) (frame : List α) (r : DriveReport)
    (s : σ) :
    (r.dispatchFrame h bucket frame s).state =
      (r.adding 1 (h.hear (frame.map (bucket, ·)) s).1, (h.hear (frame.map (bucket, ·)) s).2) := by
  have hfirst : ({ r with frames := r.frames + 1 } : DriveReport) = r.adding 1 [] := rfl
  rw [dispatchFrame, dispatchItems_state, hfirst, adding_adding]
  rfl

end DriveReport

namespace Track

open Drain (handed)

variable {α φ σ : Type} [Outage φ]

/-! ## One round of the loop -/

section

variable {t : Track α φ} {r : DriveReport} {cap : Option Nat} (h : Handler σ α) (s : σ)

theorem driveFrom_done (hdone : t.hasWork = false) :
    t.driveFrom h cap r s = t.finish .direct r s [] := by
  rw [driveFrom, if_neg (by simp [hdone])]

theorem driveFrom_error (hwork : t.hasWork = true) (hcap : r.atCap cap = false) {e : TrackError}
    (hvalue : t.nextFrame.value = .error e) :
    t.driveFrom h cap r s = ⟨.error e, (t.nextFrame.state, s), t.nextFrame.notes⟩ := by
  rw [driveFrom, if_pos hwork, if_neg (by simp [hcap])]
  split
  · next e' he' =>
    rw [hvalue] at he'
    cases he'
    rfl
  · next hnone =>
    rw [hvalue] at hnone
    cases hnone
  · next frame hframe =>
    rw [hvalue] at hframe
    cases hframe

theorem driveFrom_idle (hwork : t.hasWork = true) (hcap : r.atCap cap = false)
    (hvalue : t.nextFrame.value = .ok none) :
    t.driveFrom h cap r s = t.nextFrame.state.finish .direct r s
      (t.nextFrame.notes ++ [.logged (.nothingPending t.nextFrame.state.name)]) := by
  rw [driveFrom, if_pos hwork, if_neg (by simp [hcap])]
  split
  · next e he =>
    rw [hvalue] at he
    cases he
  · rfl
  · next frame hframe =>
    rw [hvalue] at hframe
    cases hframe

theorem driveFrom_frame (hwork : t.hasWork = true) (hcap : r.atCap cap = false) {frame : List α}
    (hvalue : t.nextFrame.value = .ok (some frame)) :
    t.driveFrom h cap r s =
      let d := r.dispatchFrame h t.position frame s
      (t.nextFrame.state.driveFrom h cap d.state.1 d.state.2).after
        (t.nextFrame.notes ++ d.notes) := by
  rw [driveFrom, if_pos hwork, if_neg (by simp [hcap])]
  split
  · next e he =>
    rw [hvalue] at he
    cases he
  · next hnone =>
    rw [hvalue] at hnone
    cases hnone
  · next frame' hframe =>
    rw [hvalue] at hframe
    cases hframe
    rfl

end

/-! ## Drives as ticks -/

/-- From track `t` and handler state `s` to `t'` and `s'` some ticks were made, with the drains
`ds`, and the handler heard of their items in order and gave `answers`. -/
structure Drove (h : Handler σ α) (t : Track α φ) (s : σ) (t' : Track α φ) (s' : σ)
    (ds : List (Drain α)) (answers : List (Except Incident Unit)) : Prop where
  ticks : ∃ n, t' = t.run (List.replicate n .tick) ∧
    ds = t.history drains (List.replicate n .tick)
  heard : h.hear (ds.flatMap Drain.told) s = (answers, s')
  position : t'.position = t.position + ds.length
  delivered : t'.counters.deliveredItems = t.counters.deliveredItems + answers.length

theorem Drove.refl (h : Handler σ α) (t : Track α φ) (s : σ) : Drove h t s t s [] [] :=
  ⟨⟨0, rfl, rfl⟩, rfl, rfl, rfl⟩

theorem Drove.trans {h : Handler σ α} {t t' t'' : Track α φ} {s s' s'' : σ}
    {ds ds' : List (Drain α)} {answers answers' : List (Except Incident Unit)}
    (d : Drove h t s t' s' ds answers) (d' : Drove h t' s' t'' s'' ds' answers') :
    Drove h t s t'' s'' (ds ++ ds') (answers ++ answers') := by
  obtain ⟨n, hstate, hdrains⟩ := d.ticks
  obtain ⟨n', hstate', hdrains'⟩ := d'.ticks
  refine ⟨⟨n + n', ?_, ?_⟩, ?_, ?_, ?_⟩
  · rw [hstate', hstate, List.replicate_add, run_append]
  · rw [hdrains', hdrains, hstate, List.replicate_add, history_append]
  · rw [List.flatMap_append, Handler.hear_append, d.heard, d'.heard]
  · rw [d'.position, d.position, List.length_append, Nat.add_assoc]
  · rw [d'.delivered, d.delivered, List.length_append, Nat.add_assoc]

/-- One tick, and the handler told of its items. -/
theorem Sound.drove {t : Track α φ} (h : t.Sound) (handler : Handler σ α) (s : σ) :
    Drove handler t s t.nextFrame.state (handler.hear ((t.drains .tick).flatMap Drain.told) s).2
      (t.drains .tick) (handler.hear ((t.drains .tick).flatMap Drain.told) s).1 := by
  refine ⟨⟨1, rfl, ?_⟩, rfl, ?_, ?_⟩
  · exact (List.append_nil _).symm
  · have hticked := nextFrame_ticked h
    generalize t.frames .tick = frames, t.drains .tick = drains, t.nextFrame.state = t'
      at hticked ⊢
    cases hticked with
    | still _ hposition _ => exact hposition
    | drained _ _ hposition _ => exact hposition
  · have houtput := congrArg Prod.snd (nextFrame_output t)
    have hframes := frames_eq_drains h .tick
    rw [Handler.length_hear]
    refine houtput.trans ?_
    rw [hframes]
    simp [output, Drain.told, List.length_flatMap, List.length_flatten, Function.comp_def]

/-- A tick without a frame tells the handler nothing. -/
theorem Sound.drove_still {t : Track α φ} (h : t.Sound) (handler : Handler σ α) (s : σ)
    (hnone : t.drains .tick = []) : Drove handler t s t.nextFrame.state s [] [] := by
  have htick := h.drove handler s
  rw [hnone] at htick
  exact htick

/-- A tick with a frame tells the handler its items. -/
theorem Sound.drove_frame {t : Track α φ} (h : t.Sound) (handler : Handler σ α) (s : σ)
    {frame : List α} (hframe : t.nextFrame.value = .ok (some frame)) :
    Drove handler t s t.nextFrame.state (handler.hear (frame.map (t.position, ·)) s).2
      (t.drains .tick) (handler.hear (frame.map (t.position, ·)) s).1 := by
  obtain ⟨hdrains, hitems, _⟩ := frame_of_tick h hframe
  have htold : (t.drains .tick).flatMap Drain.told = frame.map (t.position, ·) := by
    rw [hdrains, List.flatMap_singleton, hitems]
    rfl
  have htick := h.drove handler s
  rw [htold] at htick
  exact htick

/-! ## The end of a drive -/

theorem Sound.pending_of_idle {t : Track α φ} (h : t.Sound)
    (hvalue : t.nextFrame.value = .ok none) : t.nextFrame.state.pending = 0 := by
  have hemitted := nextFrame_emitted h
  rw [hvalue] at hemitted
  generalize t.nextFrame.state = t', t.settleFilings = filed at hemitted ⊢
  cases hemitted with
  | idle hpending => exact hpending

/-- A store without buckets and no deferred work mean that nothing is in flight. -/
theorem Sound.pending_of_not_hasWork {t : Track α φ} (h : t.Sound) (hdone : t.hasWork = false) :
    t.pending = 0 := by
  simp only [hasWork, hasDeferredWork, isEmpty, Store.isEmpty, Shelf.isEmpty,
    Bool.or_eq_false_iff, Bool.not_eq_false', List.isEmpty_iff] at hdone
  obtain ⟨hentries, hstranded, _⟩ := hdone
  rw [h.pending, live, hstranded, Store.events, Store.stored, hentries]
  rfl

/-- A drive is a number of ticks, and its report counts their frames and the handler's answers.
It ends in a report only at the cap or with nothing in flight. -/
theorem driveFrom_drove {t : Track α φ} (hsound : t.Sound) (h : Handler σ α) (cap : Option Nat)
    (r : DriveReport) (s : σ) :
    ∃ ds answers,
      Drove h t s (t.driveFrom h cap r s).state.1 (t.driveFrom h cap r s).state.2 ds answers ∧
      ∀ report, (t.driveFrom h cap r s).value = .ok report →
        report = r.adding ds.length answers ∧
          (report.atCap cap = true ∨ (t.driveFrom h cap r s).state.1.pending = 0) := by
  fun_induction driveFrom h cap r t s with
  | case1 r t s _ hcap =>
    refine ⟨[], [], .refl h t s, ?_⟩
    rintro report ⟨⟩
    exact ⟨rfl, Or.inl hcap⟩
  | case2 r t s _ _ e he =>
    refine ⟨[], [], hsound.drove_still h s ?_, fun report hreport => by cases hreport⟩
    simp only [drains, he]
  | case3 r t s _ _ hnone =>
    refine ⟨[], [], hsound.drove_still h s ?_, ?_⟩
    · simp only [drains, hnone]
    · rintro report ⟨⟩
      exact ⟨rfl, Or.inr (hsound.pending_of_idle hnone)⟩
  | case4 r t s _ _ frame hframe d ih =>
    obtain ⟨ds, answers, hdrove, hreport⟩ := ih (hsound.perform (r := .tick) trivial).sound
    have hd : d.state = (r.adding 1 (h.hear (frame.map (t.position, ·)) s).1,
        (h.hear (frame.map (t.position, ·)) s).2) :=
      DriveReport.dispatchFrame_state h t.position frame r s
    obtain ⟨hdrains, _, _⟩ := frame_of_tick hsound hframe
    have hfirst := hsound.drove_frame h s hframe
    rw [hd] at hdrove hreport ⊢
    refine ⟨_, _, hfirst.trans hdrove, ?_⟩
    intro report hvalue
    obtain ⟨heq, hend⟩ := hreport report hvalue
    refine ⟨?_, hend⟩
    rw [heq, DriveReport.adding_adding, hdrains, List.length_append, List.length_singleton]
  | case5 r t s hdone =>
    refine ⟨[], [], .refl h t s, ?_⟩
    rintro report ⟨⟩
    exact ⟨rfl, Or.inr (hsound.pending_of_not_hasWork (by simpa using hdone))⟩

/-! ## Drives in a row -/

/-- The track and its handler after `k` drives in a row without a cap. -/
def driven (h : Handler σ α) (t : Track α φ) (s : σ) : Nat → Track α φ × σ
  | 0 => (t, s)
  | k + 1 => ((driven h t s k).1.drive h none (driven h t s k).2).state

theorem Sound.ticks {t : Track α φ} (h : t.Sound) (n : Nat) :
    (t.run (List.replicate n .tick)).Sound := by
  induction n with
  | zero => exact h
  | succ n ih =>
    rw [List.replicate_succ', run_snoc]
    exact (ih.perform (r := .tick) trivial).sound

theorem Drove.sound {h : Handler σ α} {t t' : Track α φ} {s s' : σ} {ds : List (Drain α)}
    {answers : List (Except Incident Unit)} (d : Drove h t s t' s' ds answers) (hsound : t.Sound) :
    t'.Sound := by
  obtain ⟨n, rfl, _⟩ := d.ticks
  exact hsound.ticks n

theorem driven_drove {t : Track α φ} (hsound : t.Sound) (h : Handler σ α) (s : σ) (k : Nat) :
    ∃ ds answers, Drove h t s (driven h t s k).1 (driven h t s k).2 ds answers := by
  induction k with
  | zero => exact ⟨[], [], .refl h t s⟩
  | succ k ih =>
    obtain ⟨ds, answers, hdrove⟩ := ih
    obtain ⟨ds', answers', hdrove', _⟩ :=
      driveFrom_drove (hdrove.sound hsound) h none {} (driven h t s k).2
    exact ⟨_, _, hdrove.trans hdrove'⟩

/-- What some drains from `t` to `t'` handed over of the accepted commitments: for each of them
the next items that it held, in order, and nothing else. -/
structure HandedOver (t t' : Track α φ) (accepted : List (Commitment α)) (ds : List (Drain α)) :
    Prop where
  numbered : accepted.map (·.mark) = List.range accepted.length
  items : ∀ e ∈ accepted, handed e.mark ds ++ t'.holding e.mark = t.holding e.mark
  nothingElse : ∀ n, accepted.length ≤ n → handed n ds = []

/-- What the report of a drive from `t` to `t'` stands for: nothing is left to do, every item that
was outstanding was handed over, and the report counts the frames and the answers. -/
structure Reported (t t' : Track α φ) (accepted : List (Commitment α)) (ds : List (Drain α))
    (answers : List (Except Incident Unit)) (r : DriveReport) : Prop where
  pending : t'.pending = 0
  nothingLeft : ∀ n, t'.holding n = []
  outstanding : ∀ e ∈ accepted, handed e.mark ds = t.holding e.mark
  items : t.counters.deliveredItems + (r.delivered + r.failed) = t'.counters.deliveredItems
  failed : r.failed = answers.countP (!·.isOk)
  frames : t.position + r.frames = t'.position

theorem Sound.holding_of_pending {t : Track α φ} (h : t.Sound) (hpending : t.pending = 0) (n : Nat) :
    t.holding n = [] := by
  have hlive : t.live = [] := List.length_eq_zero_iff.mp (h.pending.symm.trans hpending)
  rw [holding, hlive]
  rfl

theorem history_accepted_ticks (t : Track α φ) (n : Nat) :
    t.history accepted (List.replicate n .tick) = [] := by
  induction n generalizing t with
  | zero => rfl
  | succ n ih => exact ih _

theorem fresh_ticks {rs : List (Request α)} (hfresh : ∀ r ∈ rs, r.Fresh) (n : Nat) :
    ∀ r ∈ rs ++ List.replicate n .tick, r.Fresh := by
  refine List.forall_mem_append.mpr ⟨hfresh, ?_⟩
  intro r hr
  rw [List.eq_of_mem_replicate hr]
  trivial

theorem Drove.handedOver {t₀ : Track α φ} (h₀ : t₀.Opened)
    (hkeeps : Outage.KeepsEvents t₀.store.outage) {rs : List (Request α)}
    (hfresh : ∀ r ∈ rs, r.Fresh) {h : Handler σ α} {t' : Track α φ} {s s' : σ}
    {ds : List (Drain α)} {answers : List (Except Incident Unit)}
    (d : Drove h (t₀.run rs) s t' s' ds answers) :
    HandedOver (t₀.run rs) t' (t₀.history accepted rs) ds := by
  obtain ⟨n, hstate, hdrains⟩ := d.ticks
  have hledger := ledger_run h₀ hkeeps hfresh
  have hledger' := ledger_run h₀ hkeeps (fresh_ticks hfresh n)
  rw [run_append, history_append, history_append, history_accepted_ticks, List.append_nil,
    ← hstate, ← hdrains] at hledger'
  refine ⟨hledger.tally.numbered, ?_, ?_⟩
  · intro e he
    have hitems := (hledger.delivered he).items
    have hitems' := (hledger'.delivered he).items
    rw [Drain.handed_append, List.append_assoc, ← hitems] at hitems'
    exact List.append_cancel_left hitems'
  · intro n hn
    have hnone := hledger'.unused n hn
    rw [Drain.handed_append, List.append_eq_nil_iff] at hnone
    exact hnone.2

theorem Drove.reported {h : Handler σ α} {t t' : Track α φ} {s s' : σ} {ds : List (Drain α)}
    {answers : List (Except Incident Unit)} {accepted : List (Commitment α)}
    (d : Drove h t s t' s' ds answers) (hsound : t.Sound) (hpending : t'.pending = 0)
    (hover : HandedOver t t' accepted ds) :
    Reported t t' accepted ds answers (DriveReport.adding ds.length answers {}) := by
  have hnothing := (d.sound hsound).holding_of_pending hpending
  have hcount := List.length_eq_countP_add_countP (·.isOk) (l := answers)
  refine ⟨hpending, hnothing, ?_, ?_, ?_, ?_⟩
  · intro e he
    have hitems := hover.items e he
    rw [hnothing, List.append_nil] at hitems
    exact hitems
  · rw [d.delivered, hcount]
    simp [DriveReport.adding]
  · exact Nat.zero_add _
  · rw [d.position]
    exact congrArg _ (Nat.zero_add _)

/-- Driving: whatever the handler answers and whatever store calls fail, drives in a row hand the
items in flight over in order, each once and with the bucket it was drained from; and after a
drive that returns a report every item that was in flight has been handed over. -/
theorem drive_delivers {t₀ : Track α φ} (h₀ : t₀.Opened)
    (hkeeps : Outage.KeepsEvents t₀.store.outage) {rs : List (Request α)}
    (hfresh : ∀ r ∈ rs, r.Fresh) (h : Handler σ α) (s : σ) (k : Nat) :
    let t := t₀.run rs
    let x := driven h t s k
    let x' := driven h t s (k + 1)
    (∃ ds answers, Drove h t s x.1 x.2 ds answers ∧
        HandedOver t x.1 (t₀.history accepted rs) ds) ∧
      ∃ ds answers, Drove h x.1 x.2 x'.1 x'.2 ds answers ∧
        ∀ report, (x.1.drive h none x.2).value = .ok report →
          Reported x.1 x'.1 (t₀.history accepted rs) ds answers report := by
  intro t x x'
  have hsound := (ledger_run h₀ hkeeps hfresh).tally.sound
  obtain ⟨ds, answers, hdrove⟩ := driven_drove hsound h s k
  refine ⟨⟨ds, answers, hdrove, hdrove.handedOver h₀ hkeeps hfresh⟩, ?_⟩
  obtain ⟨n, hstate, _⟩ := hdrove.ticks
  have hsound' := hdrove.sound hsound
  obtain ⟨ds', answers', hdrove', hreport⟩ := driveFrom_drove hsound' h none {} x.2
  refine ⟨ds', answers', hdrove', ?_⟩
  intro report hvalue
  obtain ⟨rfl, hcap | hpending⟩ := hreport report hvalue
  · cases hcap
  · apply hdrove'.reported hsound' hpending
    have haccepted : t₀.history accepted (rs ++ List.replicate n .tick) = t₀.history accepted rs := by
      rw [history_append, history_accepted_ticks, List.append_nil]
    rw [hstate, ← run_append] at hdrove' ⊢
    rw [← haccepted]
    exact hdrove'.handedOver h₀ hkeeps (fresh_ticks hfresh n)

/-- A handler that remembers what it was told and rejects the item 2. -/
def fussy : Handler (List (Nat × Nat)) Nat := fun bucket item seen =>
  (if item = 2 then .error ⟨.message "rejected", []⟩ else .ok (), seen ++ [(bucket, item)])

/-- The drive retries the commitment that was held back and hands its item over, from bucket 2. -/
theorem drive_delivers_troubled :
    ((troubled.run requests).drive fussy none []).value.toOption = some ⟨1, 0, 1⟩ ∧
      ((troubled.run requests).drive fussy none []).state.2 = [(2, 2)] ∧
      ∃ ds answers, Drove fussy (troubled.run requests) []
          (driven fussy (troubled.run requests) [] 1).1
          (driven fussy (troubled.run requests) [] 1).2 ds answers ∧
        HandedOver (troubled.run requests) (driven fussy (troubled.run requests) [] 1).1
          (troubled.history accepted requests) ds := by
  obtain ⟨hover, _⟩ :=
    drive_delivers troubled_opened troubled_keepsEvents requests_fresh fussy [] 1
  exact ⟨by decide +kernel, by decide +kernel, hover⟩

end Track
end BucketClock
