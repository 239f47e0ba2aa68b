import BucketClock.Proofs.Track.Books
import BucketClock.Proofs.Track.Delivery
import BucketClock.Proofs.Track.Retries

/-!
The careers of commitments. The postings about an accepted commitment say that
it was filed as full, filed again in later and later buckets, and retired at
most once; and the last of them say where it is (`Whereabouts`). The retries of a
tick keep this (`Whereabouts.retried`), and so does the rest of it
(`Whereabouts.settled`).
-/

namespace BucketClock

namespace Posting

variable {α : Type}

def mark? : Posting α → Option Nat
  | .filed e => some e.mark
  | .retired _ e => some e.mark
  | .drained _ _ => none

def filed? : Posting α → Option (Commitment α)
  | .filed e => some e
  | .retired _ _ => none
  | .drained _ _ => none

def retired? : Posting α → Option (Nat × Commitment α)
  | .filed _ => none
  | .retired bucket e => some (bucket, e)
  | .drained _ _ => none

def about (n : Nat) (ps : List (Posting α)) : List (Posting α) := ps.filter (·.mark? = some n)

theorem about_append (n : Nat) (ps qs : List (Posting α)) :
    about n (ps ++ qs) = about n ps ++ about n qs :=
  List.filter_append ps qs

@[simp]
theorem about_cons_filed (n : Nat) (e : Commitment α) (ps : List (Posting α)) :
    about n (.filed e :: ps) = if e.mark = n then .filed e :: about n ps else about n ps := by
  have hmark : (decide ((filed e).mark? = some n) = true) = (e.mark = n) := by simp [mark?]
  simp only [about, List.filter_cons, hmark]

@[simp]
theorem about_cons_retired (n bucket : Nat) (e : Commitment α) (ps : List (Posting α)) :
    about n (.retired bucket e :: ps) =
      if e.mark = n then .retired bucket e :: about n ps else about n ps := by
  have hmark : (decide ((retired bucket e).mark? = some n) = true) = (e.mark = n) := by simp [mark?]
  simp only [about, List.filter_cons, hmark]

theorem about_cons_drained (n bucket items : Nat) (ps : List (Posting α)) :
    about n (.drained bucket items :: ps) = about n ps := rfl

theorem about_filed (n : Nat) (es : List (Commitment α)) :
    about n (es.map .filed) = (es.filter (·.mark = n)).map .filed := by
  induction es with
  | nil => rfl
  | cons e es ih => by_cases hmark : e.mark = n <;> simp [hmark, ih]

/-- The postings about a commitment that is filed only, or retired only. -/
theorem about_eq {n : Nat} {ps : List (Posting α)}
    (h : (ps.filterMap filed?).filter (·.mark = n) = [] ∨
      (ps.filterMap retired?).filter (·.2.mark = n) = []) :
    about n ps = ((ps.filterMap filed?).filter (·.mark = n)).map .filed ++
      ((ps.filterMap retired?).filter (·.2.mark = n)).map fun r => .retired r.1 r.2 := by
  induction ps with
  | nil => rfl
  | cons p ps ih =>
    cases p with
    | filed e =>
      by_cases hmark : e.mark = n
      · have hretired : (ps.filterMap retired?).filter (·.2.mark = n) = [] := by
          simpa [List.filterMap_cons, filed?, retired?, hmark] using h
        have hrest := ih (Or.inr hretired)
        simpa [List.filterMap_cons, filed?, retired?, hmark] using hrest
      · have hrest := ih (by simpa [List.filterMap_cons, filed?, retired?, hmark] using h)
        simpa [List.filterMap_cons, filed?, retired?, hmark] using hrest
    | retired bucket e =>
      by_cases hmark : e.mark = n
      · have hfiled : (ps.filterMap filed?).filter (·.mark = n) = [] := by
          simpa [List.filterMap_cons, filed?, retired?, hmark] using h
        have hrest := ih (Or.inl hfiled)
        rw [hfiled] at hrest
        simp only [about_cons_retired, if_pos hmark, hrest]
        simp [List.filterMap_cons, filed?, retired?, hmark, hfiled]
      · have hrest := ih (by simpa [List.filterMap_cons, filed?, retired?, hmark] using h)
        simpa [List.filterMap_cons, filed?, retired?, hmark] using hrest
    | drained bucket items =>
      have hrest := ih (by simpa [List.filterMap_cons, filed?, retired?] using h)
      simpa [about_cons_drained, List.filterMap_cons, filed?, retired?] using hrest

end Posting

/-! ## Filed again, by number -/

namespace Commitment

variable {α : Type}

theorem Identified.mark_eq {e e' : Commitment α} (h : e.Identified e') : e'.mark = e.mark :=
  congrArg Prod.fst h.goods_eq

theorem Identified.id_eq {e e' : Commitment α} (h : e.Identified e') (hid : e.id ≠ none) :
    e'.id = e.id := by
  obtain ⟨id, rfl, hnone | hsame⟩ := h
  · exact absurd hnone hid
  · exact hsame

theorem Refiled.marks_perm {es filed held : List (Commitment α)} (h : Refiled es filed held) :
    (filed.map (·.mark) ++ held.map (·.mark)).Perm (es.map (·.mark)) := by
  have hmarks := h.goods_perm.map Prod.fst
  rw [map_goods_fst, map_goods_fst, List.map_append] at hmarks
  exact hmarks

/-- A number that is not among those to file is not filed. -/
theorem Refiled.filter_eq_nil {es filed held : List (Commitment α)} (h : Refiled es filed held)
    {n : Nat} (hn : n ∉ es.map (·.mark)) : filed.filter (·.mark = n) = [] := by
  apply List.filter_eq_nil_iff.mpr
  intro e he heq
  apply hn
  apply h.marks_perm.mem_iff.mp
  apply List.mem_append_left
  exact List.mem_map.mpr ⟨e, he, of_decide_eq_true heq⟩

/-- Each of the commitments to file is filed once, or it is held back and not filed. -/
theorem Refiled.fate {es filed held : List (Commitment α)} (h : Refiled es filed held)
    (hnodup : (es.map (·.mark)).Nodup) {e : Commitment α} (he : e ∈ es) :
    ∃ e', e.Identified e' ∧ (e' ∈ filed ∧ filed.filter (·.mark = e.mark) = [e'] ∨
      e' ∈ held ∧ filed.filter (·.mark = e.mark) = []) := by
  have hmarks := h.marks_perm.nodup_iff.mpr hnodup
  obtain ⟨hfiled, _, hdisjoint⟩ := List.nodup_append.mp hmarks
  obtain ⟨e', he', hid⟩ := h.image he
  refine ⟨e', hid, ?_⟩
  rw [← hid.mark_eq]
  rcases List.mem_append.mp he' with he' | he'
  · exact Or.inl ⟨he', Drain.filter_mark he' hfiled⟩
  · right
    refine ⟨he', List.filter_eq_nil_iff.mpr ?_⟩
    intro c hc heq
    exact hdisjoint c.mark (List.mem_map_of_mem hc) e'.mark (List.mem_map_of_mem he')
      (of_decide_eq_true heq)

end Commitment

/-! ## The two kinds of postings of a drain -/

namespace Track

open Commitment (Refiled dueAt survivors spent)

variable {α φ : Type} [Outage φ]

theorem filed_part (es : List (Commitment α)) :
    (es.map Posting.filed).filterMap Posting.filed? = es := by
  rw [List.filterMap_map]
  exact List.filterMap_some

theorem retired_part (es : List (Commitment α)) :
    (es.map Posting.filed).filterMap Posting.retired? = [] := by
  rw [List.filterMap_map]
  exact List.filterMap_eq_nil_iff.mpr fun _ _ => rfl

theorem settlePosting_filed (position : Nat) (e : Commitment α) (t : Track α φ) :
    (t.settlePosting position e).filterMap Posting.filed? = t.settleFiling position e := by
  unfold settlePosting settleFiling
  split
  · rfl
  · exact filed_part _

theorem settlePosting_retired (position : Nat) (e : Commitment α) (t : Track α φ) :
    (t.settlePosting position e).filterMap Posting.retired? =
      if e.supply.isExhausted then [(position, e)] else [] := by
  unfold settlePosting
  split
  · rfl
  · exact retired_part _

theorem drainPostings_filed (slot : Slot) (t : Track α φ) :
    (t.drainPostings slot).filterMap Posting.filed? = t.drainFilings slot := by
  simp only [drainPostings, drainFilings]
  rw [List.filterMap_append,
    Outcome.trace_hom (f := List.filterMap Posting.filed?) rfl fun _ _ => List.filterMap_append]
  simp only [settlePosting_filed]
  exact List.append_nil _

theorem drainPostings_retired (slot : Slot) (t : Track α φ) :
    (t.drainPostings slot).filterMap Posting.retired? =
      (spent t.frameWidth (t.store.bucket slot).events).map fun e => (t.position, e) := by
  simp only [drainPostings, spent, Bucket.deliverWith, Bucket.takeEvents, Bucket.drawFlat_state]
  rw [List.filterMap_append,
    Outcome.trace_hom (f := List.filterMap Posting.retired?) rfl fun _ _ => List.filterMap_append]
  simp only [settlePosting_retired]
  rw [Outcome.trace_flatMap, Commitment.map_filter_flatMap]
  exact List.append_nil _

theorem settlePostings_filed (t : Track α φ) :
    t.settlePostings.filterMap Posting.filed? = t.settleFilings := by
  simp only [settlePostings, settleFilings]
  split
  · rfl
  · cases t.retryDeferred.state.takeBucket.value with
    | error error => rfl
    | ok slot => exact drainPostings_filed slot _

/-- A tick that hands out no frame posts nothing after its retries. -/
theorem settlePostings_eq_nil {t : Track α φ}
    (h : ∀ frame, t.nextFrame.value ≠ .ok (some frame)) : t.settlePostings = [] := by
  simp only [nextFrame] at h
  simp only [settlePostings]
  split
  · rfl
  · next hpending =>
    simp only [if_neg hpending] at h
    cases hvalue : t.retryDeferred.state.takeBucket.value with
    | error error => rfl
    | ok slot =>
      rw [hvalue] at h
      exact absurd rfl (h _)

/-- A tick that hands out a frame retires what its drain exhausts. -/
theorem settlePostings_retired {t : Track α φ} {frame : List α} (h : t.retryDeferred.state.Sound)
    (hframe : t.nextFrame.value = .ok (some frame)) :
    t.settlePostings.filterMap Posting.retired? =
      (spent t.retryDeferred.state.frameWidth
        (t.retryDeferred.state.store.contents t.retryDeferred.state.position)).map
          fun e => (t.retryDeferred.state.position, e) := by
  simp only [nextFrame] at hframe
  simp only [settlePostings]
  generalize t.retryDeferred.state = r at *
  split at hframe
  · cases hframe
  · next hpending =>
    rw [if_neg hpending]
    obtain ⟨store, window, hstate, hsteady, ⟨⟨error, hvalue⟩, _⟩ | ⟨slot, hvalue, _, _, hserves⟩⟩ :=
      takeBucket_spec h.ready h.window h.inRange
    · rw [hvalue] at hframe
      cases hframe
    · rw [hvalue, hstate]
      refine (drainPostings_retired slot _).trans ?_
      rw [hserves.events, hsteady.contents]

theorem filing_id {e c : Commitment α} {t : Track α φ} (hc : c ∈ t.filing e) : c.id ≠ none := by
  unfold filing at hc
  split at hc
  · next id hid =>
    obtain rfl := List.mem_singleton.mp hc
    exact Store.commit_id hid
  · cases hc

/-! ## Careers -/

/-- The filings of an accepted commitment, the first of which accepted it: later ones are
rollovers to later buckets, and the identity stays. -/
structure Career (e : Commitment α) (filed : List (Commitment α)) : Prop where
  starts : ∃ rolled, filed = e :: rolled ∧ ∀ c ∈ rolled, c.phase ≠ .full
  full : e.phase = .full
  identified : e.id ≠ none
  same : ∀ c ∈ filed, c.mark = e.mark ∧ c.id = e.id
  onward : (filed.map (·.deliveryTime)).Pairwise (· < ·)

theorem Career.start {e : Commitment α} (hfull : e.phase = .full) (hid : e.id ≠ none) :
    Career e [e] := by
  refine ⟨⟨[], rfl, fun c hc => by cases hc⟩, hfull, hid, ?_, List.pairwise_singleton _ _⟩
  intro c hc
  obtain rfl := List.mem_singleton.mp hc
  exact ⟨rfl, rfl⟩

theorem Career.last {e c : Commitment α} {before : List (Commitment α)}
    (h : Career e (before ++ [c])) : c.mark = e.mark ∧ c.id = e.id :=
  h.same c (List.mem_append_right _ List.mem_cons_self)

/-- A career ends with its last bucket so far. -/
theorem Career.le_last {e c : Commitment α} {before : List (Commitment α)}
    (h : Career e (before ++ [c])) : ∀ a ∈ before ++ [c], a.deliveryTime ≤ c.deliveryTime := by
  have hpairwise := h.onward
  rw [List.map_append, List.pairwise_append] at hpairwise
  intro a ha
  rcases List.mem_append.mp ha with ha | ha
  · exact Nat.le_of_lt (hpairwise.2.2 _ (List.mem_map_of_mem ha) _ List.mem_cons_self)
  · exact Nat.le_of_eq (congrArg _ (List.mem_singleton.mp ha))

/-- A career goes on in a later bucket. -/
theorem Career.extend {e last c : Commitment α} {before : List (Commitment α)}
    (h : Career e (before ++ [last])) (hphase : c.phase ≠ .full) (hmark : c.mark = e.mark)
    (hid : c.id = e.id) (hlater : last.deliveryTime < c.deliveryTime) :
    Career e (before ++ [last] ++ [c]) := by
  obtain ⟨rolled, hrolled, hbegun⟩ := h.starts
  refine ⟨⟨rolled ++ [c], ?_, ?_⟩, h.full, h.identified, ?_, ?_⟩
  · rw [hrolled]
    rfl
  · exact List.forall_mem_append.mpr ⟨hbegun, List.forall_mem_singleton.mpr hphase⟩
  · exact List.forall_mem_append.mpr ⟨h.same, List.forall_mem_singleton.mpr ⟨hmark, hid⟩⟩
  · rw [List.map_append, List.pairwise_append]
    refine ⟨h.onward, List.pairwise_singleton _ _, ?_⟩
    intro earlier hearlier bucket hbucket
    obtain ⟨a, ha, rfl⟩ := List.mem_map.mp hearlier
    obtain rfl := List.mem_singleton.mp hbucket
    exact Nat.lt_of_le_of_lt (h.le_last a ha) hlater

/-- How far an accepted commitment got, told by the postings about it: it is stored in its last
bucket, it is held back since its last bucket was drained, or it is retired. -/
inductive Whereabouts (t : Track α φ) (e : Commitment α) : List (Posting α) → Prop
  | stored {before : List (Commitment α)} {c : Commitment α} (career : Career e (before ++ [c]))
      (there : c ∈ t.store.contents c.deliveryTime) : Whereabouts t e ((before ++ [c]).map .filed)
  | held {before : List (Commitment α)} {last c : Commitment α}
      (career : Career e (before ++ [last])) (held : c ∈ t.stranded)
      (same : c.mark = e.mark ∧ c.id = e.id) (behind : last.deliveryTime < t.position) :
      Whereabouts t e ((before ++ [last]).map .filed)
  | retired {before : List (Commitment α)} {last c : Commitment α}
      (career : Career e (before ++ [last])) (same : c.mark = e.mark ∧ c.id = e.id)
      (gone : e.mark ∉ t.live.map (·.mark)) :
      Whereabouts t e ((before ++ [last]).map .filed ++ [.retired last.deliveryTime c])

omit [Outage φ] in
/-- A career goes on in a later bucket, or waits for one once its last bucket was drained. -/
theorem Career.goesOn {t : Track α φ} {e last c : Commitment α} {before : List (Commitment α)}
    (career : Career e (before ++ [last])) (same : c.mark = e.mark ∧ c.id = e.id)
    {ps : List (Posting α)}
    (h : ps = [.filed c] ∧ c.phase ≠ .full ∧ last.deliveryTime < c.deliveryTime ∧
          c ∈ t.store.contents c.deliveryTime ∨
        ps = [] ∧ c ∈ t.stranded ∧ last.deliveryTime < t.position) :
    Whereabouts t e ((before ++ [last]).map .filed ++ ps) := by
  rcases h with ⟨rfl, hphase, hlater, hthere⟩ | ⟨rfl, hheld, hbehind⟩
  · rw [← List.map_singleton, ← List.map_append]
    exact .stored (career.extend hphase same.1 same.2 hlater) hthere
  · rw [List.append_nil]
    exact .held career hheld same hbehind

omit [Outage φ] in
/-- A commitment that is left alone stands where it stood. -/
theorem Whereabouts.kept {t t' : Track α φ} {e : Commitment α} {ps : List (Posting α)}
    (h : Whereabouts t e ps)
    (hstored : ∀ c, c ∈ t.store.contents c.deliveryTime → c ∈ t'.store.contents c.deliveryTime)
    (hheld : ∀ c, c ∈ t.stranded → c ∈ t'.stranded) (hposition : t.position ≤ t'.position)
    (hlive : e.mark ∈ t'.live.map (·.mark) → e.mark ∈ t.live.map (·.mark)) :
    Whereabouts t' e ps := by
  cases h with
  | stored career there => exact .stored career (hstored _ there)
  | held career held same behind =>
    exact .held career (hheld _ held) same (Nat.lt_of_lt_of_le behind hposition)
  | retired career same gone => exact .retired career same fun hmark => gone (hlive hmark)

/-! ## What the parts of a tick do to a commitment -/

omit [Outage φ] in
theorem mem_live_of_stranded {t : Track α φ} {c : Commitment α} (hc : c ∈ t.stranded) :
    c ∈ t.live :=
  List.mem_append_right _ hc

/-- A commitment that is stored is not held back. -/
theorem Sound.not_stranded {t : Track α φ} (h : t.Sound) (hnodup : (t.live.map (·.mark)).Nodup)
    {id : Nat} {c : Commitment α} (hc : c ∈ t.store.contents id) :
    c.mark ∉ t.stranded.map (·.mark) := by
  rw [live, List.map_append] at hnodup
  intro hheld
  have hstored := (Store.contents_sublist h.ready.sane.tidy.orderly id).subset hc
  exact (List.nodup_append.mp hnodup).2.2 c.mark (List.mem_map_of_mem hstored) c.mark hheld rfl

theorem caughtUp_marks (position : Nat) (es : List (Commitment α)) :
    (es.map (·.caughtUp position)).map (·.mark) = es.map (·.mark) := by
  rw [← Commitment.map_goods_fst, Commitment.map_goods_caughtUp, Commitment.map_goods_fst]

/-- In the retries of a tick only commitments held back are filed. -/
theorem retries_passed {t : Track α φ} (h : t.Sound) {n : Nat}
    (hn : n ∉ t.stranded.map (·.mark)) : Posting.about n (t.retryFilings.map .filed) = [] := by
  obtain ⟨_, hrefiled, _, _, _⟩ := retryDeferred_turn h
  rw [← caughtUp_marks t.position] at hn
  rw [Posting.about_filed, hrefiled.filter_eq_nil hn, List.map_nil]

theorem retryDeferred_marks {t : Track α φ} (h : t.Sound) :
    (t.retryDeferred.state.live.map (·.mark)).Perm (t.live.map (·.mark)) := by
  have hlive := (retryDeferred_goods h).map Prod.fst
  rw [Commitment.map_goods_fst, Commitment.map_goods_fst] at hlive
  exact hlive

/-- The retries of a tick: a commitment held back is filed in a later bucket than before, or held
back still, and the others are left alone. -/
theorem Whereabouts.retried {t : Track α φ} (h : t.Sound) (hnodup : (t.live.map (·.mark)).Nodup)
    {e : Commitment α} {ps : List (Posting α)} (hs : Whereabouts t e ps) :
    Whereabouts t.retryDeferred.state e
      (ps ++ Posting.about e.mark (t.retryFilings.map .filed)) := by
  obtain ⟨held, hrefiled, hturn, hposition, hheld⟩ := retryDeferred_turn h
  have hcontents : ∀ c id, t.position ≤ id → c ∈ t.store.contents id →
      c ∈ t.retryDeferred.state.store.contents id := by
    intro c id hid hc
    rw [hturn.contents id (hposition ▸ hid)]
    exact List.mem_append_left _ hc
  cases hs with
  | @stored before c career there =>
    have hnot := h.not_stranded hnodup there
    rw [career.last.1] at hnot
    rw [retries_passed h hnot, List.append_nil]
    exact .stored career (hcontents c _ (h.filed _ c there).2 there)
  | @held before last c career hc same behind =>
    have hnodup' : ((t.stranded.map (·.caughtUp t.position)).map (·.mark)).Nodup := by
      rw [caughtUp_marks]
      exact ((List.sublist_append_right _ _).map _).nodup hnodup
    obtain ⟨c', hid, hfate⟩ := hrefiled.fate hnodup' (List.mem_map_of_mem hc)
    rw [c.caughtUp_eq t.position] at hid hfate
    have hmark : c'.mark = e.mark := hid.mark_eq.trans same.1
    have hidentity : c'.id = e.id := (hid.id_eq (same.2 ▸ career.identified)).trans same.2
    have hphase : c'.phase ≠ .full := by
      obtain ⟨_, rfl, _⟩ := hid
      exact h.begun c hc
    simp only [same.1] at hfate
    apply career.goesOn ⟨hmark, hidentity⟩
    rw [Posting.about_filed]
    rcases hfate with ⟨hfiled, honly⟩ | ⟨hkept, hnone⟩
    · left
      have hle := hturn.later c' hfiled
      refine ⟨by rw [honly]; rfl, hphase, by omega, ?_⟩
      rw [hturn.contents _ hle]
      exact List.mem_append_right _ (Commitment.mem_dueAt.mpr ⟨hfiled, rfl⟩)
    · exact Or.inr ⟨by rw [hnone]; rfl, hheld ▸ hkept, hposition ▸ behind⟩
  | retired career same gone =>
    have hnot : e.mark ∉ t.stranded.map (·.mark) := by
      intro hmark
      apply gone
      rw [live, List.map_append]
      exact List.mem_append_right _ hmark
    rw [retries_passed h hnot, List.append_nil]
    exact .retired career same fun hmark => gone ((retryDeferred_marks h).mem_iff.mp hmark)

/-- The drain of the bucket at the clock, from `r` to `t'`, with its postings. -/
structure DrainPosted (r t' : Track α φ) (postings : List (Posting α))
    (filed held : List (Commitment α)) : Prop where
  sound : r.Sound
  distinct : (r.live.map (·.mark)).Nodup
  inRange : r.position < Index.last
  refiled : Refiled ((survivors r.frameWidth (r.store.contents r.position)).map
    (·.onward r.position r.increment)) filed held
  turn : Turn r t' (r.store.contents r.position) filed held
    (spent r.frameWidth (r.store.contents r.position)).length
  position : t'.position = r.position + 1
  stranded : t'.stranded = r.stranded ++ held
  filed : postings.filterMap Posting.filed? = filed
  retired : postings.filterMap Posting.retired? =
    (spent r.frameWidth (r.store.contents r.position)).map fun e => (r.position, e)

namespace DrainPosted

variable {r t' : Track α φ} {postings : List (Posting α)} {filed held : List (Commitment α)}

theorem due_distinct (d : DrainPosted r t' postings filed held) :
    ((r.store.contents r.position).map (·.mark)).Nodup := by
  have hsublist := (Store.contents_sublist d.sound.ready.sane.tidy.orderly r.position).trans
    (List.sublist_append_left r.store.events r.stranded)
  exact (hsublist.map _).nodup d.distinct

theorem spent_or_survives (d : DrainPosted r t' postings filed held) :
    ((spent r.frameWidth (r.store.contents r.position)).map (·.mark) ++
      (survivors r.frameWidth (r.store.contents r.position)).map (·.mark)).Nodup :=
  (Commitment.marks_perm _ _).nodup_iff.mpr d.due_distinct

omit [Outage φ] in
theorem targets (r : Track α φ) (es : List (Commitment α)) :
    (es.map (·.onward r.position r.increment)).map (·.mark) = es.map (·.mark) := by
  rw [← Commitment.map_goods_fst, Commitment.map_goods_onward, Commitment.map_goods_fst]

/-- No posting is about a commitment that is not due. -/
theorem passed (d : DrainPosted r t' postings filed held) {n : Nat}
    (hn : n ∉ (r.store.contents r.position).map (·.mark)) : Posting.about n postings = [] := by
  have hmarks := Commitment.marks_perm r.frameWidth (r.store.contents r.position)
  rw [← hmarks.mem_iff, List.mem_append, not_or] at hn
  have hfiled : filed.filter (·.mark = n) = [] := by
    apply d.refiled.filter_eq_nil
    rw [targets]
    exact hn.2
  have hretired : ((spent r.frameWidth (r.store.contents r.position)).map
      fun e => (r.position, e)).filter (·.2.mark = n) = [] := by
    apply List.filter_eq_nil_iff.mpr
    intro p hp heq
    obtain ⟨e, he, rfl⟩ := List.mem_map.mp hp
    exact hn.1 (List.mem_map.mpr ⟨e, he, of_decide_eq_true heq⟩)
  rw [Posting.about_eq (by rw [d.filed]; exact Or.inl hfiled), d.filed, d.retired, hfiled, hretired]
  rfl

/-- What is stored in a later bucket is not due. -/
theorem not_due_of_lt (d : DrainPosted r t' postings filed held) {c : Commitment α}
    (hc : c ∈ r.store.contents c.deliveryTime) (hlt : r.position < c.deliveryTime) :
    c.mark ∉ (r.store.contents r.position).map (·.mark) := by
  intro hmark
  obtain ⟨c', hc', hsame⟩ := List.mem_map.mp hmark
  obtain rfl : c' = c := List.inj_on_of_nodup_map d.distinct (d.sound.mem_live hc')
    (d.sound.mem_live hc) hsame
  have htime := (d.sound.filed _ c' hc').1
  omega

/-- What is held back is not due. -/
theorem not_due_of_stranded (d : DrainPosted r t' postings filed held) {c : Commitment α}
    (hc : c ∈ r.stranded) : c.mark ∉ (r.store.contents r.position).map (·.mark) := by
  intro hmark
  obtain ⟨c', hc', hsame⟩ := List.mem_map.mp hmark
  apply d.sound.not_stranded d.distinct hc'
  rw [hsame]
  exact List.mem_map_of_mem hc

/-- A commitment that is due and exhausted is retired. -/
theorem spent_posted (d : DrainPosted r t' postings filed held) {c : Commitment α}
    (hc : c ∈ r.store.contents r.position)
    (hexhausted : (c.drawn r.frameWidth).supply.isExhausted = true) :
    Posting.about c.mark postings = [.retired r.position (c.drawn r.frameWidth)] := by
  have hspent : c.drawn r.frameWidth ∈ spent r.frameWidth (r.store.contents r.position) :=
    List.mem_filter.mpr ⟨List.mem_map_of_mem hc, hexhausted⟩
  obtain ⟨hnodup, _, hdisjoint⟩ := List.nodup_append.mp d.spent_or_survives
  have hfiled : filed.filter (·.mark = c.mark) = [] := by
    apply d.refiled.filter_eq_nil
    rw [targets]
    intro hsurvives
    exact hdisjoint c.mark (List.mem_map.mpr ⟨_, hspent, rfl⟩) c.mark hsurvives rfl
  have hretired : ((spent r.frameWidth (r.store.contents r.position)).map
      fun e => (r.position, e)).filter (·.2.mark = c.mark) =
        [(r.position, c.drawn r.frameWidth)] := by
    rw [List.filter_map]
    exact congrArg (List.map _) (Drain.filter_mark hspent hnodup)
  rw [Posting.about_eq (by rw [d.filed]; exact Or.inl hfiled), d.filed, d.retired, hfiled, hretired]
  rfl

/-- A commitment that is due and not exhausted is filed where it goes on to, or held back. -/
theorem survivor_posted (d : DrainPosted r t' postings filed held) {c : Commitment α}
    (hc : c ∈ r.store.contents r.position)
    (hmore : ¬ (c.drawn r.frameWidth).supply.isExhausted = true) :
    ∃ c', ((c.drawn r.frameWidth).onward r.position r.increment).Identified c' ∧
      (c' ∈ filed ∧ Posting.about c.mark postings = [.filed c'] ∨
        c' ∈ held ∧ Posting.about c.mark postings = []) := by
  have hsurvivor := Commitment.mem_survivors hc hmore
  obtain ⟨_, hnodup, hdisjoint⟩ := List.nodup_append.mp d.spent_or_survives
  have hretired : ((spent r.frameWidth (r.store.contents r.position)).map
      fun e => (r.position, e)).filter (·.2.mark = c.mark) = [] := by
    apply List.filter_eq_nil_iff.mpr
    intro p hp heq
    obtain ⟨e, he, rfl⟩ := List.mem_map.mp hp
    exact hdisjoint e.mark (List.mem_map_of_mem he) c.mark
      (List.mem_map.mpr ⟨_, hsurvivor, rfl⟩) (of_decide_eq_true heq)
  have habout : Posting.about c.mark postings = (filed.filter (·.mark = c.mark)).map .filed := by
    rw [Posting.about_eq (by rw [d.retired]; exact Or.inr hretired), d.filed, d.retired, hretired]
    exact List.append_nil _
  have hmark : ((c.drawn r.frameWidth).onward r.position r.increment).mark = c.mark :=
    congrArg Prod.fst (Commitment.goods_onward _ _ (c.drawn r.frameWidth))
  obtain ⟨c', hid, hfate⟩ := d.refiled.fate (by rw [targets]; exact hnodup)
    (List.mem_map_of_mem hsurvivor)
  rw [hmark] at hfate
  refine ⟨c', hid, ?_⟩
  rw [habout]
  rcases hfate with ⟨hfiled, honly⟩ | ⟨hheld, hnone⟩
  · exact Or.inl ⟨hfiled, by rw [honly]; rfl⟩
  · exact Or.inr ⟨hheld, by rw [hnone]; rfl⟩

/-- What is in flight after the drain was in flight before, and what is spent is not. -/
theorem live (d : DrainPosted r t' postings filed held) {n : Nat}
    (hn : n ∈ t'.live.map (·.mark)) : n ∈ r.live.map (·.mark) ∧
      n ∉ (spent r.frameWidth (r.store.contents r.position)).map (·.mark) := by
  obtain ⟨others, hsplit⟩ := d.sound.live_split r.position
  have hbefore := hsplit.map (·.mark)
  have hafter := (d.turn.goods_perm hsplit).map Prod.fst
  have hdue := Commitment.marks_perm r.frameWidth (r.store.contents r.position)
  rw [List.map_append, Commitment.map_goods_fst, Commitment.map_goods_fst,
    Commitment.map_goods_fst, List.map_append] at hafter
  rw [List.map_append] at hbefore
  have hrefiled := d.refiled.marks_perm
  rw [targets] at hrefiled
  have hnodup := hbefore.nodup_iff.mp d.distinct
  obtain ⟨_, _, hapart⟩ := List.nodup_append.mp hnodup
  obtain ⟨_, _, hdisjoint⟩ := List.nodup_append.mp d.spent_or_survives
  rw [hbefore.mem_iff]
  rcases List.mem_append.mp (hafter.mem_iff.mp hn) with hn | hn
  · have hsurvives := hrefiled.mem_iff.mp hn
    refine ⟨List.mem_append_left _ (hdue.mem_iff.mp (List.mem_append_right _ hsurvives)), ?_⟩
    exact fun hspent => hdisjoint n hspent n hsurvives rfl
  · refine ⟨List.mem_append_right _ hn, ?_⟩
    intro hspent
    exact hapart n (hdue.mem_iff.mp (List.mem_append_left _ hspent)) n hn rfl

end DrainPosted

/-- A commitment that is due is retired, or goes on to a later bucket. -/
theorem Whereabouts.settledUp {r t' : Track α φ} {postings : List (Posting α)}
    {filed held : List (Commitment α)} (d : DrainPosted r t' postings filed held)
    {e c : Commitment α} {before : List (Commitment α)} (career : Career e (before ++ [c]))
    (hc : c ∈ r.store.contents r.position) :
    Whereabouts t' e ((before ++ [c]).map .filed ++ Posting.about e.mark postings) := by
  have hposition := d.position
  have hbucket := (d.sound.filed _ c hc).1
  have hsame := career.last
  rw [← hsame.1]
  by_cases hexhausted : (c.drawn r.frameWidth).supply.isExhausted = true
  · have hspent : c.mark ∈ (spent r.frameWidth (r.store.contents r.position)).map (·.mark) :=
      List.mem_map.mpr ⟨_, List.mem_filter.mpr ⟨List.mem_map_of_mem hc, hexhausted⟩, rfl⟩
    rw [d.spent_posted hc hexhausted, ← hbucket]
    exact .retired career hsame fun hlive => (d.live hlive).2 (hsame.1 ▸ hspent)
  · obtain ⟨c', hid, hfate⟩ := d.survivor_posted hc hexhausted
    obtain ⟨bucket, policy, honward⟩ := (c.drawn r.frameWidth).onward_eq r.position r.increment
    have hmark : c'.mark = e.mark := by
      rw [hid.mark_eq, honward]
      exact hsame.1
    have hidentity : c'.id = e.id := by
      rw [hid.id_eq (by rw [honward]; exact hsame.2 ▸ career.identified), honward]
      exact hsame.2
    have hphase : c'.phase ≠ .full := by
      obtain ⟨_, rfl, _⟩ := hid
      exact Commitment.onward_begun _ _ _
    apply career.goesOn ⟨hmark, hidentity⟩
    rcases hfate with ⟨hfiled, habout⟩ | ⟨hheld, habout⟩
    · left
      have hlater := d.turn.later c' hfiled
      refine ⟨habout, hphase, by omega, ?_⟩
      rw [d.turn.contents _ hlater]
      exact List.mem_append_right _ (Commitment.mem_dueAt.mpr ⟨hfiled, rfl⟩)
    · right
      refine ⟨habout, ?_, by omega⟩
      rw [d.stranded]
      exact List.mem_append_right _ hheld

/-- The drain of a bucket moves on what is due there and leaves the others alone. -/
theorem Whereabouts.drained {r t' : Track α φ} {postings : List (Posting α)}
    {filed held : List (Commitment α)} (d : DrainPosted r t' postings filed held)
    {e : Commitment α} {ps : List (Posting α)} (hs : Whereabouts r e ps) :
    Whereabouts t' e (ps ++ Posting.about e.mark postings) := by
  have hposition := d.position
  cases hs with
  | @stored before c career there =>
    have hsame := career.last
    rcases Nat.lt_or_eq_of_le (d.sound.filed _ c there).2 with hlt | heq
    · rw [d.passed (hsame.1 ▸ d.not_due_of_lt there hlt), List.append_nil]
      refine .stored career ?_
      rw [d.turn.contents _ (by omega)]
      exact List.mem_append_left _ there
    · exact .settledUp d career (heq ▸ there)
  | @held before last c career hc same behind =>
    rw [d.passed (same.1 ▸ d.not_due_of_stranded hc), List.append_nil]
    refine .held career ?_ same (by omega)
    rw [d.stranded]
    exact List.mem_append_left _ hc
  | retired career same gone =>
    have hnot : e.mark ∉ (r.store.contents r.position).map (·.mark) := by
      intro hmark
      obtain ⟨c, hc, hsame⟩ := List.mem_map.mp hmark
      exact gone (List.mem_map.mpr ⟨c, d.sound.mem_live hc, hsame⟩)
    rw [d.passed hnot, List.append_nil]
    exact .retired career same fun hlive => gone (d.live hlive).1

/-- What a tick does after its retries, posting by posting. -/
theorem nextFrame_posted {t : Track α φ} (h : t.Sound) (hnodup : (t.live.map (·.mark)).Nodup) :
    (t.settlePostings = [] ∧ Turn t.retryDeferred.state t.nextFrame.state [] [] [] 0 ∧
        t.nextFrame.state.position = t.retryDeferred.state.position ∧
        t.nextFrame.state.stranded = t.retryDeferred.state.stranded) ∨
      ∃ held, DrainPosted t.retryDeferred.state t.nextFrame.state t.settlePostings
        t.settleFilings held := by
  obtain ⟨_, _, hturn, _, _⟩ := retryDeferred_turn h
  have hnodup' := (retryDeferred_marks h).nodup_iff.mpr hnodup
  have hnone : (∀ frame, t.nextFrame.value ≠ .ok (some frame)) → t.settlePostings = [] :=
    settlePostings_eq_nil
  have hretired : ∀ frame, t.nextFrame.value = .ok (some frame) → _ :=
    fun frame => settlePostings_retired hturn.sound
  have hfiled := settlePostings_filed t
  have hemitted := nextFrame_emitted h
  have hsound := hturn.sound
  generalize t.nextFrame.value = value, t.nextFrame.state = t', t.settleFilings = filed,
    t.settlePostings = postings, t.retryDeferred.state = r at *
  cases hemitted with
  | idle _ =>
    exact Or.inl ⟨hnone fun frame => by simp, hsound.turn, rfl, rfl⟩
  | refused _ _ hturn' hposition hstranded =>
    exact Or.inl ⟨hnone fun frame => by simp, hturn', hposition, hstranded⟩
  | framed _ hlast hrefiled hturn' hposition hstranded =>
    exact Or.inr ⟨_, hsound, hnodup', hlast, hrefiled, hturn', hposition, hstranded, hfiled,
      hretired _ rfl⟩

theorem Whereabouts.settled {t : Track α φ} (h : t.Sound) (hnodup : (t.live.map (·.mark)).Nodup)
    {e : Commitment α} {ps : List (Posting α)} (hs : Whereabouts t.retryDeferred.state e ps) :
    Whereabouts t.nextFrame.state e (ps ++ Posting.about e.mark t.settlePostings) := by
  rcases nextFrame_posted h hnodup with ⟨hnone, hturn, hposition, hstranded⟩ | ⟨held, hdrained⟩
  · obtain ⟨_, _, hretried, _, _⟩ := retryDeferred_turn h
    have hsound := hretried.sound
    have hlive := hturn.live.map (·.mark)
    rw [List.append_nil, List.append_nil, List.append_nil] at hlive
    rw [hnone]
    refine (List.append_nil ps).symm ▸ hs.kept ?_ ?_ (Nat.le_of_eq hposition.symm) hlive.mem_iff.mp
    · intro c hc
      rw [hturn.contents _ (hposition ▸ (hsound.filed _ c hc).2)]
      exact List.mem_append_left _ hc
    · intro c hc
      exact hstranded ▸ hc
  · exact hs.drained hdrained

end Track
end BucketClock
