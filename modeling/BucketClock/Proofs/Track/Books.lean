import BucketClock.Proofs.Track.Output
import BucketClock.Proofs.Track.Sound
import BucketClock.Text.Numeral

/-!
The books of a track: its clock, its horizon, its counters and its audit trail.
A request posts what it files, retires and drains, one posting after the other
(`perform_books`), and nothing else changes the books. A posting is counted and
entered in the trail at once, so the counters can be read off the entries
(`Balanced.post`), and after a run from the postings of the run (`run_books`).
-/

namespace BucketClock

/-! ## Reading an audit trail -/

namespace AuditEntry

def count (action : AuditAction) (log : List AuditEntry) : Nat :=
  log.countP fun a => a.action = action

/-- Whether an entry reports that a commitment was filed in a bucket. -/
def files (a : AuditEntry) : Bool := a.action = .schedule || a.action = .rollover

/-- The last bucket that a commitment was filed in, if there is one. -/
def highest (log : List AuditEntry) : Nat :=
  ((log.filter (·.files)).map (·.bucket)).foldl max 0

def items? (a : AuditEntry) : Option Nat :=
  a.payload.bind fun text =>
    if "items=".toList.isPrefixOf text.toList then Text.numeral? (text.toList.drop 6) else none

def itemsDrained (log : List AuditEntry) : Nat :=
  ((log.filter fun a => a.action = .drain).filterMap items?).sum

theorem count_snoc (action : AuditAction) (log : List AuditEntry) (a : AuditEntry) :
    count action (log ++ [a]) = count action log + if a.action = action then 1 else 0 := by
  simp [count, List.countP_append, List.countP_singleton]

theorem highest_snoc (log : List AuditEntry) (a : AuditEntry) :
    highest (log ++ [a]) = if a.files then max (highest log) a.bucket else highest log := by
  unfold highest
  cases ha : a.files with
  | true => simp [ha]
  | false => simp [ha]

theorem itemsDrained_snoc (log : List AuditEntry) (a : AuditEntry) :
    itemsDrained (log ++ [a]) =
      itemsDrained log + if a.action = .drain then a.items?.getD 0 else 0 := by
  unfold itemsDrained
  by_cases ha : a.action = .drain
  · cases hitems : a.items? with
    | none => simp [ha, hitems]
    | some n => simp [ha, hitems]
  · simp [ha]

end AuditEntry

namespace AuditTrail

def recordAll (log : List AuditEntry) (t : AuditTrail) : AuditTrail := log.foldl record t

theorem map_recordAll_nil (o : Option AuditTrail) : o.map (recordAll []) = o := Option.map_id'

theorem map_recordAll_append (log later : List AuditEntry) (o : Option AuditTrail) :
    o.map (recordAll (log ++ later)) = (o.map (recordAll log)).map (recordAll later) := by
  rw [Option.map_map]
  exact congrArg (o.map ·) (funext fun _ => List.foldl_append)

end AuditTrail

/-! ## Postings -/

/-- What a track posts: a commitment filed, a commitment retired in the drain of a bucket, and a
bucket drained of a number of items. -/
inductive Posting (α : Type) where
  | filed (e : Commitment α)
  | retired (bucket : Nat) (e : Commitment α)
  | drained (bucket items : Nat)

namespace Posting

variable {α : Type}

def action : Posting α → AuditAction
  | .filed e => if e.phase = .full then .schedule else .rollover
  | .retired _ _ => .retire
  | .drained _ _ => .drain

def eventId : Posting α → Option Nat
  | .filed e => e.id
  | .retired _ e => e.id
  | .drained _ _ => none

def bucket : Posting α → Nat
  | .filed e => e.deliveryTime
  | .retired bucket _ => bucket
  | .drained bucket _ => bucket

def items : Posting α → Nat
  | .drained _ items => items
  | _ => 0

def payload : Posting α → Option String
  | .drained _ items => some ("items=" ++ Text.describeNat items)
  | _ => none

end Posting

/-- What of a track is in its books. -/
structure Books where
  name : String
  stamp : Nat
  position : Nat
  horizon : Nat
  scheduled : Nat
  rollovers : Nat
  retired : Nat
  frames : Nat
  deliveredItems : Nat
  audit : Option AuditTrail

namespace Books

variable {α : Type}

def counted (b : Books) (p : Posting α) : Books :=
  match p.action with
  | .schedule => { b with scheduled := b.scheduled + 1, horizon := max b.horizon p.bucket }
  | .rollover => { b with rollovers := b.rollovers + 1, horizon := max b.horizon p.bucket }
  | .retire => { b with retired := b.retired + 1 }
  | .drain =>
    { b with
      position := b.position + 1
      frames := b.frames + 1
      deliveredItems := b.deliveredItems + p.items }

/-- The audit entry of a posting, with the clock as it is after it. -/
def entry (b : Books) (p : Posting α) : AuditEntry :=
  ⟨b.name, p.action, p.eventId, p.bucket, (b.counted p).position, b.stamp, p.payload⟩

def post (b : Books) (p : Posting α) : Books :=
  { b.counted p with audit := b.audit.map (·.record (b.entry p)) }

def log (b : Books) : List (Posting α) → List AuditEntry
  | [] => []
  | p :: ps => b.entry p :: (b.post p).log ps

theorem length_log (b : Books) (ps : List (Posting α)) : (b.log ps).length = ps.length := by
  induction ps generalizing b with
  | nil => rfl
  | cons p ps ih => rw [log, List.length_cons, List.length_cons, ih]

theorem entry_items? (b : Books) {p : Posting α} (h : p.action = .drain) :
    (b.entry p).items? = some p.items := by
  cases p with
  | filed e =>
    simp only [Posting.action] at h
    split at h <;> cases h
  | retired bucket e => cases h
  | drained bucket items =>
    have htext : ("items=" ++ Text.describeNat items).toList =
        "items=".toList ++ Nat.toDigits 10 items := by
      simp [Text.describeNat]
    have hdrop : ("items=".toList ++ Nat.toDigits 10 items).drop 6 = Nat.toDigits 10 items :=
      List.drop_left' rfl
    have hprefix : "items=".toList.isPrefixOf ("items=".toList ++ Nat.toDigits 10 items) = true :=
      List.isPrefixOf_iff_prefix.mpr (List.prefix_append _ _)
    show (if _ then _ else none) = _
    rw [htext, hprefix, if_pos rfl, hdrop, Text.numeral?_toDigits]
    rfl

/-! ## The balance of the books -/

/-- The counters of the books are those of a series of entries. -/
structure Balanced (b : Books) (log : List AuditEntry) : Prop where
  scheduled : AuditEntry.count .schedule log = b.scheduled
  rollovers : AuditEntry.count .rollover log = b.rollovers
  retired : AuditEntry.count .retire log = b.retired
  frames : AuditEntry.count .drain log = b.frames
  position : b.frames = b.position
  legible : ∀ a ∈ log, a.action = .drain → a.items?.isSome = true
  items : AuditEntry.itemsDrained log = b.deliveredItems
  horizon : AuditEntry.highest log = b.horizon

theorem Balanced.post {b : Books} {log : List AuditEntry} (h : b.Balanced log) (p : Posting α) :
    (b.post p).Balanced (log ++ [b.entry p]) := by
  have hitems : (b.entry p).action = .drain → (b.entry p).items? = some p.items :=
    fun hdrain => b.entry_items? hdrain
  have hlegible : ∀ a ∈ log ++ [b.entry p], a.action = .drain → a.items?.isSome = true := by
    refine List.forall_mem_append.mpr ⟨h.legible, List.forall_mem_singleton.mpr ?_⟩
    intro hdrain
    rw [hitems hdrain]
    rfl
  have haction : (b.entry p).action = p.action := rfl
  have hbucket : (b.entry p).bucket = p.bucket := rfl
  cases hp : p.action with
  | schedule | rollover | retire | drain =>
    rw [hp] at haction
    constructor
    case legible => exact hlegible
    all_goals
      simp [AuditEntry.count_snoc, AuditEntry.highest_snoc, AuditEntry.itemsDrained_snoc,
        AuditEntry.files, Books.post, counted, hp, haction, hbucket, hitems, h.scheduled,
        h.rollovers, h.retired, h.frames, h.position, h.items, h.horizon]

theorem Balanced.postAll {b : Books} {log : List AuditEntry} (h : b.Balanced log)
    (ps : List (Posting α)) : (ps.foldl Books.post b).Balanced (log ++ b.log ps) := by
  induction ps generalizing b log with
  | nil =>
    rw [Books.log, List.append_nil]
    exact h
  | cons p ps ih =>
    have hrest := ih (h.post p)
    rw [List.append_assoc] at hrest
    exact hrest

/-- Every entry reports one of the four actions. -/
theorem Balanced.length {b : Books} {log : List AuditEntry} (h : b.Balanced log) :
    log.length = b.scheduled + b.rollovers + b.retired + b.frames := by
  have hall : log.length = AuditEntry.count .schedule log + AuditEntry.count .rollover log +
      AuditEntry.count .retire log + AuditEntry.count .drain log := by
    clear h
    induction log with
    | nil => rfl
    | cons a log ih =>
      cases ha : a.action <;> simp [AuditEntry.count, ha] at ih ⊢ <;> omega
  rw [hall, h.scheduled, h.rollovers, h.retired, h.frames]

/-- A trail gets the entries of all postings, as far as it has room. -/
theorem audit_log (b : Books) (ps : List (Posting α)) :
    (ps.foldl post b).audit = b.audit.map (.recordAll (b.log ps)) := by
  induction ps generalizing b with
  | nil => exact (AuditTrail.map_recordAll_nil b.audit).symm
  | cons p ps ih =>
    rw [List.foldl_cons, ih, log]
    exact (AuditTrail.map_recordAll_append [b.entry p] _ b.audit).symm

/-- Every entry names what its posting names. -/
theorem told_log (b : Books) (ps : List (Posting α)) :
    (b.log ps).map (fun a => (a.action, a.eventId, a.bucket)) =
      ps.map fun p => (p.action, p.eventId, p.bucket) := by
  induction ps generalizing b with
  | nil => rfl
  | cons p ps ih =>
    rw [log, List.map_cons, List.map_cons, ih]
    rfl

/-- A trail with room for the entries of all postings keeps them. -/
theorem audit_postAll {b : Books} {trail : AuditTrail} (h : b.audit = some trail)
    {ps : List (Posting α)} (hroom : trail.entries.length + ps.length ≤ trail.capacity) :
    ∃ trail', (ps.foldl post b).audit = some trail' ∧
      trail'.entries = trail.entries ++ b.log ps := by
  induction ps generalizing b trail with
  | nil => exact ⟨trail, h, (List.append_nil _).symm⟩
  | cons p ps ih =>
    rw [List.length_cons] at hroom
    obtain ⟨hentries, hcapacity⟩ :=
      AuditTrail.record_of_room (t := trail) (by omega) (b.entry p)
    have haudit : (b.post p).audit = some (trail.record (b.entry p)) := by
      rw [post, h]
      rfl
    obtain ⟨trail', hkept, hall⟩ := ih haudit (by
      rw [hentries, hcapacity, List.length_append, List.length_singleton]
      omega)
    refine ⟨trail', hkept, ?_⟩
    rw [hall, hentries, log, List.append_assoc]
    rfl

end Books

/-! ## What a track posts -/

namespace Track

variable {α φ : Type}

def books (t : Track α φ) : Books where
  name := t.name
  stamp := t.stamp
  position := t.position
  horizon := t.horizon
  scheduled := t.counters.scheduled
  rollovers := t.counters.rollovers
  retired := t.counters.retired
  frames := t.counters.frames
  deliveredItems := t.counters.deliveredItems
  audit := t.audit

variable [Outage φ]

/-- What is posted when a drained commitment is dealt with. -/
def settlePosting (position : Nat) (e : Commitment α) (t : Track α φ) : List (Posting α) :=
  if e.supply.isExhausted then [.retired position e]
  else (t.filing (e.onward position t.increment)).map .filed

def drainPostings (slot : Slot) (t : Track α φ) : List (Posting α) :=
  let delivered := (t.store.bucket slot).deliverWith t.frameWidth
  let moved := delivered.state.takeEvents
  Outcome.trace (settle t.position) (settlePosting t.position) moved.1
      { t with store := t.store.update slot moved.2 }
    ++ [.drained t.position delivered.value.length]

def settlePostings (t : Track α φ) : List (Posting α) :=
  let retried := t.retryDeferred.state
  if retried.pending = 0 then []
  else
    match retried.takeBucket.value with
    | .error _ => []
    | .ok slot => retried.takeBucket.state.drainPostings slot

def postings (t : Track α φ) : Request α → List (Posting α)
  | .schedule e => (t.filings (.schedule e)).map .filed
  | .tick => t.retryFilings.map .filed ++ t.settlePostings

theorem place_books (e : Commitment α) (t : Track α φ) :
    (t.place e).state.books = ((t.filing e).map Posting.filed).foldl Books.post t.books := by
  simp only [place, filing]
  generalize t.store.commit t.timeline.factory e = committed
  obtain ⟨value, store, notes⟩ := committed
  cases value with
  | error refusal => rfl
  | ok id =>
    have haction : (Posting.filed { e with id := id }).action =
        if e.phase = .full then .schedule else .rollover := rfl
    by_cases hfull : e.phase = .full
    · rw [if_pos hfull] at haction
      simp only [if_pos hfull, List.map_singleton, List.foldl_cons, List.foldl_nil, Books.post,
        Books.entry, Books.counted, haction]
      rfl
    · rw [if_neg hfull] at haction
      simp only [if_neg hfull, List.map_singleton, List.foldl_cons, List.foldl_nil, Books.post,
        Books.entry, Books.counted, haction]
      rfl

theorem rollOver_books (e : Commitment α) (t : Track α φ) :
    (t.rollOver e).state.books = ((t.filing e).map Posting.filed).foldl Books.post t.books := by
  have hplace := place_books e t
  simp only [rollOver]
  split
  · exact hplace
  · split
    · exact hplace
    · exact hplace

theorem retry_books (e : Commitment α) (t : Track α φ) :
    (t.retry e).state.books = ((t.retryFiling e).map Posting.filed).foldl Books.post t.books :=
  rollOver_books _ t

theorem settle_books (position : Nat) (e : Commitment α) (t : Track α φ) :
    (t.settle position e).state.books = (t.settlePosting position e).foldl Books.post t.books := by
  unfold settlePosting
  by_cases hexhausted : e.supply.isExhausted = true
  · rw [settle, if_pos hexhausted, if_pos hexhausted]
    rfl
  · rw [settle_onward t position hexhausted, if_neg hexhausted]
    exact rollOver_books _ t

theorem removeBucket_books (id : Nat) (t : Track α φ) :
    (t.removeBucket id).state.books = t.books := by
  obtain ⟨_, _, hsame⟩ := removeBucket_same id t
  rw [hsame]
  rfl

theorem cleared_books (t : Track α φ) : t.cleared.books = t.books :=
  Outcome.each_keeps books removeBucket_books t.stale { t with stale := [] }

theorem retryDeferred_books (t : Track α φ) :
    t.retryDeferred.state.books = (t.retryFilings.map Posting.filed).foldl Books.post t.books := by
  have hretried := Outcome.each_folds books Books.post retry_books t.cleared.stranded
    { t.cleared with stranded := [] }
  have hfiled : Outcome.trace retry (fun e t => (retryFiling e t).map Posting.filed)
      t.cleared.stranded { t.cleared with stranded := [] } = t.retryFilings.map Posting.filed :=
    (Outcome.trace_hom (f := List.map Posting.filed) rfl (fun _ _ => List.map_append) _ _ _ _).symm
  rw [hfiled] at hretried
  refine hretried.trans ?_
  rw [← cleared_books t]
  rfl

theorem takeBucket_books (t : Track α φ) : t.takeBucket.state.books = t.books := by
  obtain ⟨_, _, hsame⟩ := takeBucket_same t
  rw [hsame]
  rfl

theorem drain_books (slot : Slot) (t : Track α φ) :
    (t.drain slot).state.books = (t.drainPostings slot).foldl Books.post t.books := by
  simp only [drain, drainPostings]
  generalize (t.store.bucket slot).deliverWith t.frameWidth = delivered
  have hsettled := Outcome.each_folds books Books.post (settle_books t.position)
    delivered.state.events { t with store := t.store.update slot delivered.state.takeEvents.2 }
  have hremoved := (removeBucket_books (t.store.bucket slot).id _).trans hsettled
  -- the emptied bucket is removed and then the drain is posted
  have hpost := congrArg (Books.post · (.drained t.position delivered.value.length : Posting α))
    hremoved
  rw [List.foldl_append]
  exact hpost

theorem nextFrame_books (t : Track α φ) :
    t.nextFrame.state.books = (t.postings .tick).foldl Books.post t.books := by
  have hretried := retryDeferred_books t
  simp only [nextFrame, postings, settlePostings, List.foldl_append, ← hretried]
  split
  · rfl
  · cases t.retryDeferred.state.takeBucket.value with
    | error e => exact takeBucket_books _
    | ok slot => exact (drain_books slot _).trans (by rw [takeBucket_books])

theorem schedule_books (e : Commitment α) (t : Track α φ) :
    (t.schedule (t.numbered e)).state.books =
      (t.postings (.schedule e)).foldl Books.post t.books := by
  have hphase : (t.numbered e).phase = e.phase := rfl
  simp only [postings, filings]
  by_cases hexhausted : e.phase = .exhausted
  · rw [if_pos hexhausted]
    simp only [schedule, hphase, hexhausted]
    rfl
  · rw [if_neg hexhausted, ← place_books]
    by_cases hfull : e.phase = .full
    · rw [(t.schedule_eq (e := t.numbered e) hfull).2]
    · have hbegun : e.phase = .notEmpty := by
        cases he : e.phase with
        | full => exact absurd he hfull
        | notEmpty => rfl
        | exhausted => exact absurd he hexhausted
      have hadmitted : (t.numbered e).admitted t.position = t.numbered e :=
        if_neg fun hlate => hfull hlate.1
      rw [hadmitted]
      simp only [schedule, hphase, hbegun]

/-- The postings of a request are all that changes the books. -/
theorem perform_books (t : Track α φ) (r : Request α) :
    (t.perform r).books = (t.postings r).foldl Books.post t.books := by
  cases r with
  | schedule e => exact schedule_books e t
  | tick => exact nextFrame_books t

theorem run_books (t : Track α φ) (rs : List (Request α)) :
    (t.run rs).books = (t.history postings rs).foldl Books.post t.books := by
  induction rs generalizing t with
  | nil => rfl
  | cons r rs ih =>
    rw [history, List.foldl_append, ← perform_books]
    exact ih (t.perform r)

/-- The trail gets the entries of the postings, as far as it has room. -/
theorem run_audit (t : Track α φ) (rs : List (Request α)) :
    (t.run rs).audit = t.audit.map (.recordAll (t.books.log (t.history postings rs))) := by
  have haudit := congrArg Books.audit (run_books t rs)
  rw [Books.audit_log] at haudit
  exact haudit

end Track
end BucketClock
