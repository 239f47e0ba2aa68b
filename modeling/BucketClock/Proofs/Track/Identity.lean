import BucketClock.Proofs.Store.Identity
import BucketClock.Proofs.Track.Emptiness
import BucketClock.Proofs.Track.Lineage

/-!
The identities of commitments. What a run hands out to commitments without one
counts on from 1, commits that fail included (`handings_run`). An accepted
commitment has the identity that its caller gave it or the one that was handed
out to it, and keeps it: in flight, in what its policy is asked about, and in
every entry about it (`identities_stable`).
-/

namespace BucketClock

theorem Outcome.trace_consecutive {σ γ : Type} (next : σ → Nat) {step : γ → σ → Outcome σ Unit}
    {see : γ → σ → List Nat}
    (h : ∀ x s, Consecutive (see x s) (next s) (next (step x s).state)) (xs : List γ) (s : σ) :
    Consecutive (trace step see xs s) (next s) (next (each step xs s).state) := by
  induction xs generalizing s with
  | nil => exact .nil _
  | cons x xs ih => exact (h x s).append (ih (step x s).state)

def Commitment.unnamed {α : Type} (es : List (Commitment α)) (ids : List (Option Nat)) :
    List (Option Nat) :=
  ((es.zip ids).filter (·.1.id.isNone)).map (·.2)

/-- Commitments under the given identities: a commitment has the identity it came with, or one of
those handed out, in their order. -/
structure Named {α : Type} (handed : List Nat) (es : List (Commitment α))
    (ids : List (Option Nat)) : Prop where
  own : List.Forall₂ (fun e id => id ≠ none ∧ (e.id ≠ none → id = e.id)) es ids
  given : (Commitment.unnamed es ids).Sublist (handed.map some)

namespace Named

variable {α : Type} {handed handed' : List Nat} {es es' : List (Commitment α)}
  {ids ids' : List (Option Nat)}

/-- Identities that nobody got. -/
theorem nil (handed : List Nat) : Named handed ([] : List (Commitment α)) [] :=
  ⟨.nil, List.nil_sublist _⟩

theorem single {e : Commitment α} {id : Option Nat} (hid : id ≠ none)
    (hown : e.id ≠ none → id = e.id) (hgiven : e.id = none → handed.map some = [id]) :
    Named handed [e] [id] := by
  refine ⟨.cons ⟨hid, hown⟩ .nil, ?_⟩
  cases he : e.id with
  | none =>
    rw [hgiven he]
    simp [Commitment.unnamed, he]
  | some own => simp [Commitment.unnamed, he]

theorem append (h : Named handed es ids) (h' : Named handed' es' ids') :
    Named (handed ++ handed') (es ++ es') (ids ++ ids') := by
  constructor
  · exact List.rel_append h.own h'.own
  · rw [Commitment.unnamed, List.zip_append h.own.length_eq, List.filter_append, List.map_append,
      List.map_append]
    exact h.given.append h'.given

end Named

namespace Track

variable {α φ δ : Type} [Outage φ]

/-! ## What is handed out -/

/-- What is seen of the commits of the commitments drained from the bucket in a slot. -/
def drainCommits (see : Commitment α → Track α φ → List δ) (slot : Slot) (t : Track α φ) :
    List δ :=
  let moved := ((t.store.bucket slot).deliverWith t.frameWidth).state.takeEvents
  Outcome.trace (settle t.position)
    (fun e t' => if e.supply.isExhausted then [] else see (e.onward t.position t'.increment) t')
    moved.1 { t with store := t.store.update slot moved.2 }

/-- What is seen of the commits that a request asks for, in order, whether they succeed or not. -/
def commits (see : Commitment α → Track α φ → List δ) (t : Track α φ) : Request α → List δ
  | .schedule e =>
    if e.phase = .exhausted then [] else see ((t.numbered e).admitted t.position) t
  | .tick =>
    let retried := t.retryDeferred.state
    Outcome.trace retry (fun e t => see (e.caughtUp t.position) t) t.cleared.stranded
        { t.cleared with stranded := [] } ++
      if retried.pending = 0 then []
      else
        match retried.takeBucket.value with
        | .error _ => []
        | .ok slot => retried.takeBucket.state.drainCommits see slot

def handing (e : Commitment α) (t : Track α φ) : List Nat := t.store.handed t.timeline.factory e

def handings (t : Track α φ) (r : Request α) : List Nat := t.commits handing r

theorem takeBucket_nextId (t : Track α φ) :
    t.takeBucket.state.store.nextId = t.store.nextId := by
  have htaken : (t.timeline.take 1 t.store).state.2.nextId = t.store.nextId :=
    Window.take_invariant (P := fun s : Store α φ => s.nextId = t.store.nextId)
      (fun i s hs => (Store.fetch_nextId _ i s).trans hs) 1 t.timeline.window rfl
  simp only [takeBucket]
  split
  · exact htaken
  · split
    · exact htaken
    · exact htaken

theorem removeBucket_nextId (id : Nat) (t : Track α φ) :
    (t.removeBucket id).state.store.nextId = t.store.nextId := by
  rw [removeBucket_store, Store.remove_nextId]

theorem place_consecutive (e : Commitment α) (t : Track α φ) :
    Consecutive (t.handing e) t.store.nextId (t.place e).state.store.nextId := by
  rw [place_store]
  exact Store.commit_consecutive _ e t.store

theorem rollOver_consecutive (e : Commitment α) (t : Track α φ) :
    Consecutive (t.handing e) t.store.nextId (t.rollOver e).state.store.nextId := by
  rw [rollOver_store]
  exact Store.commit_consecutive _ e t.store

theorem settle_consecutive (position : Nat) (e : Commitment α) (t : Track α φ) :
    Consecutive (if e.supply.isExhausted then [] else t.handing (e.onward position t.increment))
      t.store.nextId (t.settle position e).state.store.nextId := by
  by_cases hexhausted : e.supply.isExhausted = true
  · rw [settle, if_pos hexhausted, if_pos hexhausted]
    exact .nil _
  · rw [settle_onward t position hexhausted, if_neg hexhausted]
    exact rollOver_consecutive _ t

theorem drain_consecutive (slot : Slot) (t : Track α φ) :
    Consecutive (t.drainCommits handing slot) t.store.nextId
      (t.drain slot).state.store.nextId := by
  have hsettled := Outcome.trace_consecutive (fun t : Track α φ => t.store.nextId)
    (settle_consecutive t.position) ((t.store.bucket slot).deliverWith t.frameWidth).state.events
    { t with
      store := t.store.update slot
        ((t.store.bucket slot).deliverWith t.frameWidth).state.takeEvents.2 }
  show Consecutive _ _ (removeBucket _ _).state.store.nextId
  rw [removeBucket_nextId]
  exact hsettled

theorem cleared_nextId (t : Track α φ) : t.cleared.store.nextId = t.store.nextId :=
  Outcome.each_keeps (fun t : Track α φ => t.store.nextId) removeBucket_nextId t.stale
    { t with stale := [] }

theorem retryDeferred_consecutive (t : Track α φ) :
    Consecutive
      (Outcome.trace retry (fun e t => t.handing (e.caughtUp t.position)) t.cleared.stranded
        { t.cleared with stranded := [] })
      t.store.nextId t.retryDeferred.state.store.nextId := by
  rw [← cleared_nextId t]
  exact Outcome.trace_consecutive (fun t : Track α φ => t.store.nextId)
    (fun _ t => rollOver_consecutive _ t) t.cleared.stranded { t.cleared with stranded := [] }

theorem nextFrame_consecutive (t : Track α φ) :
    Consecutive (t.handings .tick) t.store.nextId t.nextFrame.state.store.nextId := by
  have hretried := retryDeferred_consecutive t
  simp only [handings, commits, nextFrame]
  refine hretried.append ?_
  split
  · exact .nil _
  · have htaken := takeBucket_nextId t.retryDeferred.state
    rw [← htaken]
    cases t.retryDeferred.state.takeBucket.value with
    | error error => exact .nil _
    | ok slot => exact drain_consecutive slot _

theorem schedule_consecutive (e : Commitment α) (t : Track α φ) :
    Consecutive (t.handings (.schedule e)) t.store.nextId
      (t.schedule (t.numbered e)).state.store.nextId := by
  have hphase : (t.numbered e).phase = e.phase := rfl
  simp only [handings, commits]
  cases he : e.phase with
  | exhausted =>
    simp only [schedule, hphase, he]
    exact .nil _
  | notEmpty =>
    have hadmitted : (t.numbered e).admitted t.position = t.numbered e :=
      if_neg fun hlate => by simp [hphase, he] at hlate
    rw [hadmitted]
    simp only [schedule, hphase, he]
    exact place_consecutive _ t
  | full =>
    rw [(t.schedule_eq (e := t.numbered e) he).2]
    exact place_consecutive _ t

/-- The identities handed out in a request count on. -/
theorem perform_consecutive (t : Track α φ) (r : Request α) :
    Consecutive (t.handings r) t.store.nextId (t.perform r).store.nextId := by
  cases r with
  | schedule e => exact schedule_consecutive e t
  | tick => exact nextFrame_consecutive t

theorem run_consecutive (t : Track α φ) (rs : List (Request α)) :
    Consecutive (t.history handings rs) t.store.nextId (t.run rs).store.nextId := by
  induction rs generalizing t with
  | nil => exact .nil _
  | cons r rs ih => exact (perform_consecutive t r).append (ih (t.perform r))

/-- The identities handed out in a run are 1, 2, 3 and so on. -/
theorem handings_run {t₀ : Track α φ} (h : t₀.Opened) (rs : List (Request α)) :
    Consecutive (t₀.history handings rs) 1 (t₀.run rs).store.nextId := by
  have hfirst : t₀.store.nextId = 1 := by
    rw [h.unused.store]
    rfl
  rw [← hfirst]
  exact run_consecutive t₀ rs

/-! ## What accepted commitments are called -/

theorem filing_named {e c : Commitment α} {t : Track α φ} (hc : c ∈ t.filing e) :
    (e.id ≠ none → c.id = e.id) ∧ (e.id = none → (t.handing e).map some = [c.id]) := by
  unfold filing at hc
  split at hc
  · next id hid =>
    obtain rfl := List.mem_singleton.mp hc
    exact Store.commit_named hid
  · cases hc

theorem perform_named {t : Track α φ} (h : t.Sound) {r : Request α} (hfull : r.Full) :
    Named (t.handings r) (t.accepted r) ((t.enrolled r).map (·.id)) := by
  cases r with
  | tick => exact .nil _
  | schedule e =>
    have hne : e.phase ≠ .exhausted := by
      rw [show e.phase = .full from hfull]
      decide
    have hid : ((t.numbered e).admitted t.position).id = e.id := by
      rw [(t.numbered e).admitted_eq t.position]
      rfl
    simp only [enrolled, accepted, handings, commits, if_neg hne]
    rw [t.filings_schedule hfull]
    rcases schedule_turn (e := t.numbered e) h hfull with
      ⟨c, _, hvalue, hfiling, _⟩ | ⟨error, hvalue, hfiling, _⟩
    · have hc : c ∈ t.filing ((t.numbered e).admitted t.position) :=
        hfiling ▸ List.mem_singleton_self c
      obtain ⟨hown, hgiven⟩ := filing_named hc
      rw [hid] at hown hgiven
      rw [hfiling, hvalue]
      exact .single (filing_id hc) hown hgiven
    · rw [hfiling, hvalue]
      exact .nil _

def identities (t : Track α φ) (rs : List (Request α)) : List (Option Nat) :=
  (t.history enrolled rs).map (·.id)

theorem named_run {t₀ : Track α φ} (h : t₀.Opened) (hkeeps : Outage.KeepsEvents t₀.store.outage)
    {rs : List (Request α)} (hfull : ∀ r ∈ rs, r.Full) :
    Named (t₀.history handings rs) (t₀.history accepted rs) (t₀.identities rs) := by
  induction rs using List.reverseRecOn with
  | nil => exact .nil _
  | append_singleton rs r ih =>
    obtain ⟨hfull, hr⟩ := List.forall_mem_append.mp hfull
    have hsound := (tally_run h hkeeps hfull).sound
    rw [identities, history_snoc, history_snoc, history_snoc, List.map_append]
    exact (ih hfull).append (perform_named hsound (List.forall_mem_singleton.mp hr))

/-! ## What becomes of an identity -/

/-- An identity stays when the run goes on. -/
theorem identities_append {t : Track α φ} {rs : List (Request α)} (rs' : List (Request α))
    {n : Nat} {id : Option Nat} (h : (t.identities rs)[n]? = some id) :
    (t.identities (rs ++ rs'))[n]? = some id := by
  obtain ⟨hlt, _⟩ := List.getElem?_eq_some_iff.mp h
  rw [identities, history_append, List.map_append]
  exact (List.getElem?_append_left hlt).trans h

theorem identities_mark {t₀ : Track α φ} (h : t₀.Opened)
    (hkeeps : Outage.KeepsEvents t₀.store.outage) {rs : List (Request α)}
    (hfull : ∀ r ∈ rs, r.Full) {e : Commitment α} (he : e ∈ t₀.history enrolled rs) :
    (t₀.identities rs)[e.mark]? = some e.id := by
  have hmarks := (chronicle_run h hkeeps hfull).1.trans (tally_run h hkeeps hfull).numbered
  obtain ⟨i, hi, rfl⟩ := List.getElem_of_mem he
  have hmark : (t₀.history enrolled rs)[i].mark = i := by
    have hat := List.getElem_of_eq hmarks ((List.length_map _).symm ▸ hi)
    rw [List.getElem_map, List.getElem_range] at hat
    exact hat
  rw [hmark, identities, List.getElem?_map, List.getElem?_eq_getElem hi]
  rfl

/-- A policy is asked about a commitment in flight, under its identity. -/
theorem asked_live {t : Track α φ} (h : t.Sound) {mark : Nat} {readyMade : Bool}
    {rollover : Rollover} (hcall : .policy mark readyMade rollover ∈ t.callbacks .tick) :
    ∃ c ∈ t.retryDeferred.state.live, c.mark = mark ∧ rollover.eventId = c.id := by
  rcases callbacks_tick t with ⟨_, hnone⟩ | ⟨_, hcallbacks⟩
  · rw [hnone] at hcall
    cases hcall
  · rw [hcallbacks] at hcall
    rcases List.mem_append.mp hcall with hcall | hcall
    · obtain ⟨c, _, hc⟩ := List.mem_flatMap.mp hcall
      have hsupplier := (Commitment.mark_of_supplierCalls hc).2
      cases hsupplier
    · obtain ⟨c, hsurvivor, hc⟩ := List.mem_flatMap.mp hcall
      obtain ⟨c₀, hc₀, rfl⟩ := List.mem_map.mp (List.mem_of_mem_filter hsurvivor)
      obtain ⟨p, _, hasked⟩ := Option.map_eq_some_iff.mp (Option.mem_toList.mp hc)
      cases hasked
      exact ⟨c₀, (h.mem_due hc₀).1, rfl, rfl⟩

/-- Whatever shows the identity of a commitment in a run shows the one of its number: the
commitments in flight at any time, what policies are asked about, and the postings. -/
structure Stable (t₀ : Track α φ) (rs : List (Request α)) : Prop where
  live : ∀ before after, rs = before ++ after → ∀ c ∈ (t₀.run before).live,
    c.id ≠ none ∧ (t₀.identities rs)[c.mark]? = some c.id
  asked : ∀ before after, rs = before ++ .tick :: after →
    (t₀.run before).nextFrame.notes.filter Note.isCallback =
        ((t₀.run before).callbacks .tick).map Callback.note ∧
      ∀ mark readyMade rollover, .policy mark readyMade rollover ∈ (t₀.run before).callbacks .tick →
        (t₀.identities rs)[mark]? = some rollover.eventId
  numbered : ∀ p ∈ t₀.history postings rs, p.action ≠ .drain → ∃ n, p.mark? = some n
  posted : ∀ p ∈ t₀.history postings rs, ∀ n, p.mark? = some n →
    (t₀.identities rs)[n]? = some p.eventId

theorem stable_run {t₀ : Track α φ} (h : t₀.Opened) (hkeeps : Outage.KeepsEvents t₀.store.outage)
    {rs : List (Request α)} (hfull : ∀ r ∈ rs, r.Full) : Stable t₀ rs := by
  constructor
  case live =>
    rintro before after rfl c hc
    have hfull := (List.forall_mem_append.mp hfull).1
    have hlineage := lineage_run h hkeeps hfull
    obtain ⟨e, he, hdescends⟩ := hlineage.descends c hc
    rw [hdescends.mark, hdescends.id]
    exact ⟨hlineage.identified e he, identities_append after (identities_mark h hkeeps hfull he)⟩
  case asked =>
    rintro before after rfl
    have hfull := (List.forall_mem_append.mp hfull).1
    have hsound := (tally_run h hkeeps hfull).sound
    refine ⟨nextFrame_callbacks hsound, ?_⟩
    intro mark readyMade rollover hcall
    obtain ⟨c, hc, rfl, hid⟩ := asked_live hsound hcall
    obtain ⟨e, he, hdescends⟩ := ((lineage_run h hkeeps hfull).retried hsound).descends c hc
    rw [hid, hdescends.mark, hdescends.id]
    exact identities_append _ (identities_mark h hkeeps hfull he)
  case numbered => exact fun _ _ => Posting.mark_of_action
  case posted =>
    intro p hp n hn
    obtain ⟨e, he, rfl, hid⟩ := (chronicle_run h hkeeps hfull).2.eventId hp hn
    rw [hid]
    exact identities_mark h hkeeps hfull he

/-- Identities are stable, whatever store calls fail on the way. The identities handed out are 1, 2,
3 and so on, also where the commit fails afterwards. An accepted commitment has the identity that
its caller gave it or the next one of those handed out, and it has that identity wherever it is
seen later, in the store or held back, by its policy, and in all audit entries, which are those of
the postings. -/
theorem identities_stable {t₀ : Track α φ} (h : t₀.Opened)
    (hkeeps : Outage.KeepsEvents t₀.store.outage) {rs : List (Request α)}
    (hfull : ∀ r ∈ rs, r.Full) :
    let accepted := t₀.history accepted rs
    let handed := t₀.history handings rs
    let log := t₀.books.log (t₀.history postings rs)
    Consecutive handed 1 (t₀.run rs).store.nextId ∧
      accepted.map (·.mark) = List.range accepted.length ∧
      Named handed accepted (t₀.identities rs) ∧ Stable t₀ rs ∧
      (t₀.run rs).audit = t₀.audit.map (.recordAll log) ∧
      log.map (fun a => (a.action, a.eventId, a.bucket)) =
        (t₀.history postings rs).map fun p => (p.action, p.eventId, p.bucket) := by
  exact ⟨handings_run h rs, (tally_run h hkeeps hfull).numbered, named_run h hkeeps hfull,
    stable_run h hkeeps hfull, run_audit t₀ rs, Books.told_log _ _⟩

/-- A commitment without identity, one with, one whose save is refused and one without. -/
def tickets : List (Request Nat) :=
  [.schedule { deliveryTime := 0, supply := .ofList [1, 2] },
    .schedule { deliveryTime := 1, supply := .ofList [3, 4], id := some 77 },
    .schedule { deliveryTime := 1, supply := .ofList [5] },
    .schedule { deliveryTime := 2, supply := .ofList [6, 7] }, .tick, .tick, .tick]

theorem tickets_full : ∀ r ∈ tickets, r.Full := by
  simp only [tickets, List.forall_mem_cons]
  exact ⟨rfl, rfl, rfl, rfl, trivial, trivial, trivial, List.forall_mem_nil _⟩

/-- The refused commitment uses up identity 2. -/
theorem identities_stable_tickets :
    Stable troubled tickets ∧
      troubled.history handings tickets = [1, 2, 3] ∧
      troubled.identities tickets = [some 1, some 77, some 3] ∧
      ((troubled.run tickets).live.map fun c => (c.mark, c.id)) = [(2, some 3)] := by
  obtain ⟨_, _, _, hstable, _⟩ :=
    identities_stable troubled_opened troubled_keepsEvents tickets_full
  exact ⟨hstable, by decide +kernel, by decide +kernel, by decide +kernel⟩

end Track
end BucketClock
