import BucketClock.Proofs.Track.Careers

/-!
The audit trail of a track against its state. Over every run, whatever store
calls fail on the way, the entries are those of the postings of the run, so the
counters of the track can be read off the trail, and with them where each
commitment in flight is (`audit_agrees`).
-/

namespace BucketClock

/-! ## Replaying the entries of a commitment -/

namespace AuditEntry

/-- What the entries say about the commitment with an identity: action by action, and where. -/
def steps (id : Option Nat) (log : List AuditEntry) : List (AuditAction × Nat) :=
  (log.filter (·.eventId = id)).map fun a => (a.action, a.bucket)

def lastBucket (steps : List (AuditAction × Nat)) : Option Nat :=
  (steps.filter fun s => s.1 = .schedule || s.1 = .rollover).getLast?.map (·.2)

end AuditEntry

/-- The steps of a commitment that was accepted for `bucket`: rollovers to later and later buckets,
and then it may be retired where it was filed last. -/
def Lifecycle (bucket : Nat) (steps : List (AuditAction × Nat)) : Prop :=
  ∃ rolled retired : List Nat,
    steps = (.schedule, bucket) :: rolled.map (.rollover, ·) ++ retired.map (.retire, ·) ∧
      (bucket :: rolled).Pairwise (· < ·) ∧ retired.length ≤ 1 ∧
      ∀ b ∈ retired, (bucket :: rolled).getLast? = some b

def Posting.step {α : Type} (p : Posting α) : AuditAction × Nat := (p.action, p.bucket)

/-- The entries of postings tell the same steps. -/
theorem Books.steps_log {α : Type} (b : Books) (id : Option Nat) (ps : List (Posting α)) :
    AuditEntry.steps id (b.log ps) = (ps.filter (·.eventId = id)).map Posting.step := by
  induction ps generalizing b with
  | nil => rfl
  | cons p ps ih =>
    have hrest := ih (b.post p)
    have hid : (b.entry p).eventId = p.eventId := rfl
    unfold AuditEntry.steps at hrest ⊢
    by_cases hp : p.eventId = id
    · rw [log, List.filter_cons_of_pos (by simpa [hid] using hp),
        List.filter_cons_of_pos (by simpa using hp), List.map_cons, List.map_cons, hrest]
      rfl
    · rw [log, List.filter_cons_of_neg (by simpa [hid] using hp),
        List.filter_cons_of_neg (by simpa using hp), hrest]

theorem Books.mem_log {α : Type} {b : Books} {ps : List (Posting α)} {a : AuditEntry}
    (ha : a ∈ b.log ps) : ∃ p ∈ ps, a.action = p.action ∧ a.eventId = p.eventId := by
  induction ps generalizing b with
  | nil => cases ha
  | cons p ps ih =>
    rcases List.mem_cons.mp ha with rfl | ha
    · exact ⟨p, List.mem_cons_self, rfl, rfl⟩
    · obtain ⟨q, hq, hsame⟩ := ih ha
      exact ⟨q, List.mem_cons_of_mem _ hq, hsame⟩

theorem Posting.mark_of_action {α : Type} {p : Posting α} (h : p.action ≠ .drain) :
    ∃ n, p.mark? = some n := by
  cases p with
  | filed e => exact ⟨e.mark, rfl⟩
  | retired _ e => exact ⟨e.mark, rfl⟩
  | drained _ _ => exact absurd rfl h

namespace Track

variable {α φ : Type} [Outage φ]

/-! ## Runs -/

def enrolled (t : Track α φ) : Request α → List (Commitment α)
  | .schedule e => t.filings (.schedule e)
  | .tick => []

/-- A series of postings tells the careers of the accepted commitments and of no others. -/
structure Chronicle (t : Track α φ) (enrolled : List (Commitment α)) (ps : List (Posting α)) :
    Prop where
  whereabouts : ∀ e ∈ enrolled, Whereabouts t e (Posting.about e.mark ps)
  known : ∀ p ∈ ps, ∀ n, p.mark? = some n → n ∈ enrolled.map (·.mark)

theorem Chronicle.tick {t : Track α φ} {enrolled : List (Commitment α)} {ps : List (Posting α)}
    (h : t.Chronicle enrolled ps) (hsound : t.Sound) (hnodup : (t.live.map (·.mark)).Nodup)
    (hlive : ∀ n ∈ t.live.map (·.mark), n ∈ enrolled.map (·.mark)) :
    (t.perform .tick).Chronicle enrolled (ps ++ t.postings .tick) := by
  constructor
  · intro e he
    have hretried := (h.whereabouts e he).retried hsound hnodup
    have hsettled := hretried.settled hsound hnodup
    rw [postings, Posting.about_append, Posting.about_append, ← List.append_assoc]
    exact hsettled
  · have hretries : ∀ p ∈ t.retryFilings.map Posting.filed, ∀ n, p.mark? = some n →
        n ∈ t.live.map (·.mark) := by
      intro p hp n hn
      by_contra hout
      have hnone := retries_passed hsound (n := n) fun hheld => hout (by
        rw [live, List.map_append]
        exact List.mem_append_right _ hheld)
      exact List.filter_eq_nil_iff.mp hnone p hp (by simpa using hn)
    have hsettles : ∀ p ∈ t.settlePostings, ∀ n, p.mark? = some n → n ∈ t.live.map (·.mark) := by
      intro p hp n hn
      rcases nextFrame_posted hsound hnodup with ⟨hnone, _⟩ | ⟨held, hdrained⟩
      · rw [hnone] at hp
        cases hp
      · by_contra hout
        have hnone := hdrained.passed (n := n) fun hdue => hout (by
          obtain ⟨c, hc, rfl⟩ := List.mem_map.mp hdue
          apply (retryDeferred_marks hsound).mem_iff.mp
          exact List.mem_map_of_mem (hdrained.sound.mem_live hc))
        exact List.filter_eq_nil_iff.mp hnone p hp (by simpa using hn)
    intro p hp n hn
    rcases List.mem_append.mp hp with hp | hp
    · exact h.known p hp n hn
    · rcases List.mem_append.mp hp with hp | hp
      · exact hlive n (hretries p hp n hn)
      · exact hlive n (hsettles p hp n hn)

/-- An accepted commitment leaves the others alone. -/
theorem Whereabouts.beside {t t' : Track α φ} (h : t.Sound) {filed : List (Commitment α)}
    (hturn : Turn t t' [] filed [] 0) (hposition : t'.position = t.position)
    (hstranded : t'.stranded = t.stranded) {e : Commitment α} {ps : List (Posting α)}
    (hs : Whereabouts t e ps) (hnot : e.mark ∉ filed.map (·.mark)) : Whereabouts t' e ps := by
  have hlive := hturn.live.map (·.mark)
  rw [List.append_nil, List.append_nil, List.map_append] at hlive
  refine hs.kept ?_ ?_ (Nat.le_of_eq hposition.symm) ?_
  · intro c hc
    rw [hturn.contents _ (hposition ▸ (h.filed _ c hc).2)]
    exact List.mem_append_left _ hc
  · intro c hc
    exact hstranded ▸ hc
  · intro hmark
    exact (List.mem_append.mp (hlive.mem_iff.mp hmark)).resolve_right hnot

/-- An accepted commitment begins its career. -/
theorem Chronicle.accept {t t' : Track α φ} {enrolled : List (Commitment α)} {ps : List (Posting α)}
    (h : t.Chronicle enrolled ps) (hsound : t.Sound) {c : Commitment α}
    (hturn : Turn t t' [] [c] [] 0) (hposition : t'.position = t.position)
    (hstranded : t'.stranded = t.stranded) (hnew : c.mark ∉ enrolled.map (·.mark))
    (hfull : c.phase = .full) (hid : c.id ≠ none) :
    t'.Chronicle (enrolled ++ [c]) (ps ++ [.filed c]) := by
  constructor
  · intro e he
    rw [Posting.about_append, Posting.about_cons_filed]
    rcases List.mem_append.mp he with he | he
    · have hne : ¬ c.mark = e.mark := fun heq => hnew (heq ▸ List.mem_map_of_mem he)
      have hother : Posting.about e.mark ([] : List (Posting α)) = [] := rfl
      rw [if_neg hne, hother, List.append_nil]
      refine (h.whereabouts e he).beside hsound hturn hposition hstranded ?_
      rw [List.map_singleton, List.mem_singleton]
      exact fun heq => hne heq.symm
    · obtain rfl := List.mem_singleton.mp he
      have hnone : Posting.about e.mark ps = [] := by
        apply List.filter_eq_nil_iff.mpr
        intro p hp hmark
        exact hnew (h.known p hp e.mark (of_decide_eq_true hmark))
      have hstart : Career e ([] ++ [e]) := .start hfull hid
      rw [if_pos rfl, hnone]
      refine Whereabouts.stored hstart ?_
      rw [hturn.contents _ (hturn.later e (List.mem_singleton_self e))]
      exact List.mem_append_right _ (Commitment.mem_dueAt.mpr ⟨List.mem_singleton_self e, rfl⟩)
  · intro p hp n hn
    rw [List.map_append]
    rcases List.mem_append.mp hp with hp | hp
    · exact List.mem_append_left _ (h.known p hp n hn)
    · obtain rfl := List.mem_singleton.mp hp
      cases hn
      exact List.mem_append_right _ (List.mem_singleton_self _)

theorem Chronicle.schedule {t : Track α φ} {enrolled : List (Commitment α)} {ps : List (Posting α)}
    (h : t.Chronicle enrolled ps) (hsound : t.Sound)
    (hnew : t.counters.scheduled ∉ enrolled.map (·.mark)) {e : Commitment α}
    (hfull : e.phase = .full) :
    (t.perform (.schedule e)).Chronicle (enrolled ++ t.enrolled (.schedule e))
      (ps ++ t.postings (.schedule e)) := by
  have hfull' : (t.numbered e).phase = .full := hfull
  have hposition := t.schedule_position (t.numbered e)
  have hstranded : (t.schedule (t.numbered e)).state.stranded = t.stranded := by
    rw [(t.schedule_eq hfull').2]
    exact (place_holds _ t).1
  simp only [Track.enrolled, postings, perform]
  rw [t.filings_schedule hfull]
  rcases schedule_turn hsound hfull' with ⟨c, hid, _, hfiling, hturn⟩ | ⟨_, _, hfiling, hturn⟩
  · have hadmitted := (t.numbered e).admitted_eq t.position
    have hmark : c.mark = t.counters.scheduled := by
      rw [hid.mark_eq, hadmitted]
      rfl
    have hphase : c.phase = .full := by
      obtain ⟨_, rfl, _⟩ := hid
      rw [hadmitted]
      exact hfull
    have hidentified : c.id ≠ none := filing_id (hfiling ▸ List.mem_singleton_self c)
    rw [hfiling]
    exact h.accept hsound hturn hposition hstranded (hmark ▸ hnew) hphase hidentified
  · rw [hfiling, List.map_nil, List.append_nil, List.append_nil]
    refine ⟨fun e₀ he₀ => ?_, h.known⟩
    exact (h.whereabouts e₀ he₀).beside hsound hturn hposition hstranded List.not_mem_nil

/-- The enrolled commitments have the numbers and supplies of the accepted ones. -/
theorem enrolled_goods {t : Track α φ} (h : t.Sound) {r : Request α} (hfull : r.Full) :
    (t.enrolled r).map Commitment.goods = (t.accepted r).map Commitment.goods := by
  cases r with
  | tick => rfl
  | schedule e =>
    have hfull' : (t.numbered e).phase = .full := hfull
    simp only [enrolled, accepted]
    rw [t.filings_schedule hfull]
    rcases schedule_turn h hfull' with ⟨e', hid, hvalue, hfiling, _⟩ | ⟨error, hvalue, hfiling, _⟩
    · rw [hfiling, hvalue, List.map_singleton, List.map_singleton, hid.goods_eq,
        Commitment.goods_admitted]
    · rw [hfiling, hvalue, List.map_nil]

theorem enrolled_marks {t : Track α φ} (h : t.Sound) {r : Request α} (hfull : r.Full) :
    (t.enrolled r).map (·.mark) = (t.accepted r).map (·.mark) := by
  rw [← Commitment.map_goods_fst, enrolled_goods h hfull, Commitment.map_goods_fst]

/-- Over every run the postings tell the careers of the accepted commitments. -/
theorem chronicle_run {t₀ : Track α φ} (h : t₀.Opened) (hkeeps : Outage.KeepsEvents t₀.store.outage)
    {rs : List (Request α)} (hfull : ∀ r ∈ rs, r.Full) :
    (t₀.history enrolled rs).map (·.mark) = (t₀.history accepted rs).map (·.mark) ∧
      (t₀.run rs).Chronicle (t₀.history enrolled rs) (t₀.history postings rs) := by
  induction rs using List.reverseRecOn with
  | nil =>
    refine ⟨rfl, fun e he => ?_, fun p hp => ?_⟩
    · cases he
    · cases hp
  | append_singleton rs r ih =>
    obtain ⟨hfull, hr⟩ := List.forall_mem_append.mp hfull
    have hr := List.forall_mem_singleton.mp hr
    obtain ⟨hmarks, hchronicle⟩ := ih hfull
    have htally := tally_run h hkeeps hfull
    have hrange : (t₀.history enrolled rs).map (·.mark) =
        List.range (t₀.history accepted rs).length := hmarks.trans htally.numbered
    rw [run_snoc, history_snoc, history_snoc, history_snoc, List.map_append, List.map_append,
      hmarks, enrolled_marks htally.sound hr]
    refine ⟨rfl, ?_⟩
    cases r with
    | schedule e =>
      refine hchronicle.schedule htally.sound ?_ hr
      rw [hrange, htally.scheduled, List.mem_range]
      exact Nat.lt_irrefl _
    | tick =>
      have hnone : (t₀.run rs).enrolled .tick = [] := rfl
      rw [hnone, List.append_nil]
      refine hchronicle.tick htally.sound htally.live_nodup ?_
      intro n hn
      rw [hrange]
      exact htally.once.mem_iff.mp (List.mem_append_left _ hn)

/-! ## Reading the whereabouts off the entries -/

omit [Outage φ] in
theorem Career.steps {e last : Commitment α} {before : List (Commitment α)}
    (h : Career e (before ++ [last])) :
    ∃ rolled : List Nat,
      (((before ++ [last]).map Posting.filed).map Posting.step) =
        (.schedule, e.deliveryTime) :: rolled.map (.rollover, ·) ∧
      (e.deliveryTime :: rolled).Pairwise (· < ·) ∧
      (e.deliveryTime :: rolled).getLast? = some last.deliveryTime := by
  obtain ⟨rolled, hrolled, hbegun⟩ := h.starts
  have hbuckets : (before ++ [last]).map (·.deliveryTime) =
      e.deliveryTime :: rolled.map (·.deliveryTime) := by
    rw [hrolled, List.map_cons]
  refine ⟨rolled.map (·.deliveryTime), ?_, ?_, ?_⟩
  · have hstart : (Posting.filed e).step = (.schedule, e.deliveryTime) := by
      simp [Posting.step, Posting.action, Posting.bucket, h.full]
    have hsteps : ∀ c ∈ rolled, (Posting.filed c).step = (.rollover, c.deliveryTime) := by
      intro c hc
      simp [Posting.step, Posting.action, Posting.bucket, hbegun c hc]
    rw [hrolled, List.map_cons, List.map_cons, hstart, List.map_map, List.map_map]
    exact congrArg _ (List.map_congr_left hsteps)
  · rw [← hbuckets]
    exact h.onward
  · rw [← hbuckets]
    simp

omit [Outage φ] in
theorem Whereabouts.lifecycle {t : Track α φ} {e : Commitment α} {ps : List (Posting α)}
    (h : Whereabouts t e ps) : Lifecycle e.deliveryTime (ps.map Posting.step) := by
  cases h with
  | stored career _ | held career _ _ _ =>
    obtain ⟨rolled, hsteps, hpairwise, _⟩ := career.steps
    refine ⟨rolled, [], ?_, hpairwise, Nat.zero_le _, fun b hb => by cases hb⟩
    rw [hsteps, List.map_nil, List.append_nil]
  | @retired before last c career _ _ =>
    obtain ⟨rolled, hsteps, hpairwise, hlast⟩ := career.steps
    refine ⟨rolled, [last.deliveryTime], ?_, hpairwise, Nat.le_refl _, ?_⟩
    · rw [List.map_append, hsteps]
      rfl
    · intro b hb
      rw [List.mem_singleton.mp hb, hlast]

omit [Outage φ] in
/-- The bucket of the last filing of a career. -/
theorem lastBucket_filed (before : List (Commitment α)) (last : Commitment α) :
    AuditEntry.lastBucket (((before ++ [last]).map Posting.filed).map Posting.step) =
      some last.deliveryTime := by
  have hfiling : ∀ c : Commitment α, (Posting.filed c).step.1 = .schedule ∨
      (Posting.filed c).step.1 = .rollover := by
    intro c
    by_cases hfull : c.phase = .full
    · exact Or.inl (if_pos hfull)
    · exact Or.inr (if_neg hfull)
  have hall : (((before ++ [last]).map Posting.filed).map Posting.step).filter
      (fun s => s.1 = .schedule || s.1 = .rollover) =
        ((before ++ [last]).map Posting.filed).map Posting.step := by
    apply List.filter_eq_self.mpr
    intro s hs
    obtain ⟨p, hp, rfl⟩ := List.mem_map.mp hs
    obtain ⟨c, _, rfl⟩ := List.mem_map.mp hp
    simpa using hfiling c
  rw [AuditEntry.lastBucket, hall]
  simp [Posting.step, Posting.bucket]

omit [Outage φ] in
/-- All postings about a commitment name the same identity. -/
theorem Whereabouts.eventId {t : Track α φ} {e : Commitment α} {ps : List (Posting α)}
    (h : Whereabouts t e ps) : ∀ p ∈ ps, p.eventId = e.id := by
  have hfiled : ∀ {filed : List (Commitment α)}, Career e filed →
      ∀ p ∈ filed.map Posting.filed, p.eventId = e.id := by
    intro filed career p hp
    obtain ⟨c, hc, rfl⟩ := List.mem_map.mp hp
    exact (career.same c hc).2
  cases h with
  | stored career _ | held career _ _ _ => exact hfiled career
  | retired career same _ =>
    exact List.forall_mem_append.mpr ⟨hfiled career, List.forall_mem_singleton.mpr same.2⟩

omit [Outage φ] in
theorem Whereabouts.identified {t : Track α φ} {e : Commitment α} {ps : List (Posting α)}
    (h : Whereabouts t e ps) : e.id ≠ none := by
  cases h with
  | stored career _ | held career _ _ _ | retired career _ _ => exact career.identified

/-- Where a commitment in flight is, told by the steps of its career. -/
structure Placed (t : Track α φ) (c : Commitment α) (steps : List (AuditAction × Nat)) : Prop where
  bucket : ∃ b, AuditEntry.lastBucket steps = some b ∧
    (c ∈ t.store.contents b ↔ t.position ≤ b) ∧ (c ∈ t.stranded ↔ b < t.position)
  running : ∀ s ∈ steps, s.1 ≠ .retire

omit [Outage φ] in
theorem filed_running (filed : List (Commitment α)) :
    ∀ s ∈ (filed.map Posting.filed).map Posting.step, s.1 ≠ .retire := by
  intro s hs
  obtain ⟨p, hp, rfl⟩ := List.mem_map.mp hs
  obtain ⟨c, _, rfl⟩ := List.mem_map.mp hp
  by_cases hfull : c.phase = .full <;> simp [Posting.step, Posting.action, hfull]

/-- A commitment in flight is in its last bucket, or held back since that was drained. -/
theorem Whereabouts.placed {t : Track α φ} (h : t.Sound) (hnodup : (t.live.map (·.mark)).Nodup)
    {e : Commitment α} {ps : List (Posting α)} (hs : Whereabouts t e ps) {c : Commitment α}
    (hc : c ∈ t.live) (hmark : c.mark = e.mark) :
    c.id = e.id ∧ Placed t c (ps.map Posting.step) := by
  cases hs with
  | @stored before c' career there =>
    have hsame := career.last
    obtain rfl : c = c' := List.inj_on_of_nodup_map hnodup hc (h.mem_live there)
      (hmark.trans hsame.1.symm)
    have hle := (h.filed _ c there).2
    refine ⟨hsame.2, ⟨_, lastBucket_filed before c, ?_, ?_⟩, filed_running _⟩
    · exact ⟨fun _ => hle, fun _ => there⟩
    · constructor
      · intro hheld
        exact absurd (List.mem_map_of_mem hheld) (h.not_stranded hnodup there)
      · intro hlt
        exact absurd hle (Nat.not_le_of_lt hlt)
  | @held before last c' career held same behind =>
    obtain rfl : c = c' := List.inj_on_of_nodup_map hnodup hc (mem_live_of_stranded held)
      (hmark.trans same.1.symm)
    refine ⟨same.2, ⟨_, lastBucket_filed before last, ?_, ?_⟩, filed_running _⟩
    · constructor
      · intro hstored
        exact (h.filed _ c hstored).2
      · intro hle
        exact absurd hle (Nat.not_le_of_lt behind)
    · exact ⟨fun _ => behind, fun _ => held⟩
  | retired career same gone => exact absurd (hmark ▸ List.mem_map_of_mem hc) gone

/-- A commitment whose last step is no retirement is in flight. -/
theorem Whereabouts.live {t : Track α φ} (h : t.Sound) {e : Commitment α} {ps : List (Posting α)}
    (hs : Whereabouts t e ps) (hrunning : ∀ s ∈ ps.map Posting.step, s.1 ≠ .retire) :
    ∃ c ∈ t.live, c.id = e.id := by
  cases hs with
  | @stored before c career there =>
    exact ⟨c, h.mem_live there, career.last.2⟩
  | @held before last c career held same behind => exact ⟨c, mem_live_of_stranded held, same.2⟩
  | @retired before last c career same gone =>
    have hretire := hrunning (.retire, last.deliveryTime) (by
      rw [List.map_append]
      exact List.mem_append_right _ List.mem_cons_self)
    exact absurd rfl hretire

/-! ## The trail and the state -/

structure Agrees (t : Track α φ) (log : List AuditEntry) : Prop where
  scheduled : AuditEntry.count .schedule log = t.stats.scheduled
  rollovers : AuditEntry.count .rollover log = t.stats.rollovers
  retired : AuditEntry.count .retire log = t.stats.retired
  frames : AuditEntry.count .drain log = t.stats.frames
  position : t.stats.frames = t.stats.position
  pending : t.stats.pending + AuditEntry.count .retire log = AuditEntry.count .schedule log
  legible : ∀ a ∈ log, a.action = .drain → a.items?.isSome = true
  items : AuditEntry.itemsDrained log = t.stats.deliveredItems
  horizon : AuditEntry.highest log = t.stats.horizon

/-- A series of entries tells the life of every accepted commitment and where it is now. -/
structure Replays (t : Track α φ) (enrolled : List (Commitment α)) (log : List AuditEntry) :
    Prop where
  lifecycle : ∀ e ∈ enrolled, Lifecycle e.deliveryTime (AuditEntry.steps e.id log)
  known : ∀ a ∈ log, a.action ≠ .drain → ∃ e ∈ enrolled, a.eventId = e.id
  placed : ∀ c ∈ t.live, Placed t c (AuditEntry.steps c.id log)
  live : ∀ e ∈ enrolled, (∃ c ∈ t.live, c.id = e.id) ↔
    ∀ s ∈ AuditEntry.steps e.id log, s.1 ≠ .retire

omit [Outage φ] in
theorem Chronicle.eventId {t : Track α φ} {enrolled : List (Commitment α)} {ps : List (Posting α)}
    (h : t.Chronicle enrolled ps) {p : Posting α} (hp : p ∈ ps) {n : Nat} (hn : p.mark? = some n) :
    ∃ e ∈ enrolled, e.mark = n ∧ p.eventId = e.id := by
  obtain ⟨e, he, rfl⟩ := List.mem_map.mp (h.known p hp n hn)
  have habout : p ∈ Posting.about e.mark ps := List.mem_filter.mpr ⟨hp, by simpa using hn⟩
  exact ⟨e, he, rfl, (h.whereabouts e he).eventId p habout⟩

omit [Outage φ] in
/-- If no two accepted commitments share an identity, their entries can be told apart. -/
theorem Chronicle.steps {t : Track α φ} {enrolled : List (Commitment α)} {ps : List (Posting α)}
    (h : t.Chronicle enrolled ps) (hids : (enrolled.map (·.id)).Nodup) (b : Books)
    {e : Commitment α} (he : e ∈ enrolled) :
    AuditEntry.steps e.id (b.log ps) = (Posting.about e.mark ps).map Posting.step := by
  rw [Books.steps_log]
  apply congrArg
  apply List.filter_congr
  intro p hp
  apply decide_eq_decide.mpr
  constructor
  · intro hid
    cases hmark : p.mark? with
    | none =>
      have hnone : p.eventId = none := by
        cases p with
        | filed _ | retired _ _ => cases hmark
        | drained _ _ => rfl
      exact absurd (hid.symm.trans hnone) (h.whereabouts e he).identified
    | some n =>
      obtain ⟨e', he', rfl, hid'⟩ := h.eventId hp hmark
      have heq : e' = e := List.inj_on_of_nodup_map hids he' he (hid'.symm.trans hid)
      rw [heq]
  · intro hmark
    exact (h.whereabouts e he).eventId p (List.mem_filter.mpr ⟨hp, by simpa using hmark⟩)

theorem Chronicle.replays {t : Track α φ} {enrolled : List (Commitment α)} {ps : List (Posting α)}
    (h : t.Chronicle enrolled ps) (hsound : t.Sound) (hnodup : (t.live.map (·.mark)).Nodup)
    (hlive : ∀ n ∈ t.live.map (·.mark), n ∈ enrolled.map (·.mark))
    (hids : (enrolled.map (·.id)).Nodup) (b : Books) : t.Replays enrolled (b.log ps) := by
  have hplaced : ∀ c ∈ t.live, ∃ e ∈ enrolled, c.id = e.id ∧
      Placed t c (AuditEntry.steps e.id (b.log ps)) := by
    intro c hc
    obtain ⟨e, he, hmark⟩ := List.mem_map.mp (hlive c.mark (List.mem_map_of_mem hc))
    obtain ⟨hid, hplace⟩ := (h.whereabouts e he).placed hsound hnodup hc hmark.symm
    rw [← h.steps hids b he] at hplace
    exact ⟨e, he, hid, hplace⟩
  refine ⟨?_, ?_, ?_, ?_⟩
  · intro e he
    rw [h.steps hids b he]
    exact (h.whereabouts e he).lifecycle
  · intro a ha haction
    obtain ⟨p, hp, hsame, hid⟩ := Books.mem_log ha
    rw [hsame] at haction
    obtain ⟨n, hn⟩ := Posting.mark_of_action haction
    obtain ⟨e, he, _, hid'⟩ := h.eventId hp hn
    exact ⟨e, he, hid.trans hid'⟩
  · intro c hc
    obtain ⟨e, _, hid, hplace⟩ := hplaced c hc
    rw [hid]
    exact hplace
  · intro e he
    constructor
    · rintro ⟨c, hc, hid⟩
      obtain ⟨e', he', hid', hplace⟩ := hplaced c hc
      rw [← hid, hid']
      exact hplace.running
    · intro hrunning
      rw [h.steps hids b he] at hrunning
      exact (h.whereabouts e he).live hsound hrunning

omit [Outage φ] in
theorem Opened.horizon {t : Track α φ} (h : t.Opened) : t.horizon = 0 := by
  induction h with
  | ofStore _ => rfl
  | withName _ _ ih | withFrameWidth _ _ ih | withIncrement _ _ ih | withAudit _ _ ih
  | stamped _ _ ih => exact ih

omit [Outage φ] in
/-- The books of a track that was not used yet balance with no entries. -/
theorem Opened.balanced {t : Track α φ} (h : t.Opened) : t.books.Balanced [] := by
  obtain ⟨_, _, hposition, _, hcounters, _, _⟩ := h.unused
  have hhorizon := h.horizon
  constructor
  case legible => exact fun a ha => by cases ha
  all_goals
    simp [books, hposition, hcounters, hhorizon, AuditEntry.count, AuditEntry.highest,
      AuditEntry.itemsDrained]

/-- The audit trail agrees with the counters and the state: whatever store calls fail on the way,
a trail with room for all entries counts what the track counts and, if no two accepted commitments
share an identity, tells the life of each and where it is. -/
theorem audit_agrees {t₀ : Track α φ} (h : t₀.Opened) (hkeeps : Outage.KeepsEvents t₀.store.outage)
    {capacity : Nat} (haudit : t₀.audit = some { capacity := capacity }) {rs : List (Request α)}
    (hfull : ∀ r ∈ rs, r.Full)
    (hroom : (t₀.run rs).stats.scheduled + (t₀.run rs).stats.rollovers +
      (t₀.run rs).stats.retired + (t₀.run rs).stats.frames ≤ capacity) :
    ∃ trail, (t₀.run rs).audit = some trail ∧ (t₀.run rs).Agrees trail.entries ∧
      (((t₀.history enrolled rs).map (·.id)).Nodup →
        (t₀.run rs).Replays (t₀.history enrolled rs) trail.entries) := by
  have htally := tally_run h hkeeps hfull
  obtain ⟨hmarks, hchronicle⟩ := chronicle_run h hkeeps hfull
  have hbooks := run_books t₀ rs
  have hbalanced := h.balanced.postAll (t₀.history postings rs)
  rw [← hbooks, List.nil_append] at hbalanced
  have hlength := hbalanced.length
  rw [Books.length_log] at hlength
  have hfits : ({ capacity := capacity } : AuditTrail).entries.length +
      (t₀.history postings rs).length ≤ capacity := by
    rw [hlength]
    show 0 + _ ≤ capacity
    rw [Nat.zero_add]
    exact hroom
  obtain ⟨trail, hkept, hentries⟩ := Books.audit_postAll (b := t₀.books) haudit hfits
  rw [← hbooks] at hkept
  have hlog : trail.entries = t₀.books.log (t₀.history postings rs) := hentries
  rw [← hlog] at hbalanced
  refine ⟨trail, hkept, ?_, ?_⟩
  · have hpending : (t₀.run rs).stats.pending + AuditEntry.count .retire trail.entries =
        AuditEntry.count .schedule trail.entries := by
      rw [hbalanced.retired, hbalanced.scheduled]
      have hcounted := htally.sound.counted
      rw [← htally.sound.pending] at hcounted
      exact hcounted.symm
    exact ⟨hbalanced.scheduled, hbalanced.rollovers, hbalanced.retired, hbalanced.frames,
      hbalanced.position, hpending, hbalanced.legible, hbalanced.items, hbalanced.horizon⟩
  · intro hids
    rw [hlog]
    refine hchronicle.replays htally.sound htally.live_nodup ?_ hids t₀.books
    intro n hn
    rw [hmarks, htally.numbered]
    exact htally.once.mem_iff.mp (List.mem_append_left _ hn)

def audited : Track Nat (List PlannedFailure) := troubled.withAudit (.empty 5)

/-- Both commitments are accepted; one is retired, and the other held back since bucket 1 was
drained, where its last entry says that it was filed. -/
theorem audit_agrees_troubled :
    (∃ trail, (audited.run requests).audit = some trail ∧
        (audited.run requests).Agrees trail.entries ∧
        (audited.run requests).Replays (audited.history enrolled requests) trail.entries) ∧
      (audited.run requests).audit.map (·.entries.map fun a => (a.action, a.eventId, a.bucket)) =
        some [(.schedule, some 1, 1), (.schedule, some 2, 1), (.drain, none, 0),
          (.retire, some 2, 1), (.drain, none, 1)] ∧
      (audited.run requests).stranded.map (·.id) = [some 1] := by
  have hids : ((audited.history enrolled requests).map (·.id)).Nodup := by decide +kernel
  have hroom : (audited.run requests).stats.scheduled + (audited.run requests).stats.rollovers +
      (audited.run requests).stats.retired + (audited.run requests).stats.frames ≤ 5 := by
    decide +kernel
  obtain ⟨trail, hkept, hagrees, hreplays⟩ := audit_agrees (.withAudit _ troubled_opened)
    troubled_keepsEvents rfl (fun r hr => (requests_fresh r hr).full) hroom
  exact ⟨⟨trail, hkept, hagrees, hreplays hids⟩, by decide +kernel, by decide +kernel⟩

end Track
end BucketClock
