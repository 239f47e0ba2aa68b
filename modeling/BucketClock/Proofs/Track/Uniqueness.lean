import BucketClock.Proofs.Track.Identity
import Mathlib.Data.List.NodupEquivFin

/-!
Identities that are not unique. Callers choose identities, and the store counts
on without a look at them, so it can hand out one that a caller chose
(`clashing_shared`). This is the only way in which two commitments come to share
an identity, if callers choose theirs distinct: as long as nothing is handed out
that was chosen, an identity names one commitment (`shared_identity`).
-/

namespace BucketClock

namespace Named

variable {α : Type} {handed : List Nat} {es : List (Commitment α)} {ids : List (Option Nat)}

/-- The identities are those that commitments came with and those that they were given. -/
theorem perm (h : Named handed es ids) :
    ids.Perm ((es.filterMap (·.id)).map some ++ Commitment.unnamed es ids) := by
  have hown := h.own
  clear h
  induction hown with
  | nil => exact .nil
  | @cons e id es ids hid _ ih =>
    cases he : e.id with
    | none =>
      have hunnamed : Commitment.unnamed (e :: es) (id :: ids) =
          id :: Commitment.unnamed es ids := by
        simp [Commitment.unnamed, he]
      rw [hunnamed, List.filterMap_cons_none he]
      exact (ih.cons id).trans List.perm_middle.symm
    | some own =>
      have hunnamed : Commitment.unnamed (e :: es) (id :: ids) = Commitment.unnamed es ids := by
        simp [Commitment.unnamed, he]
      have hsame : id = some own := (hid.2 (by simp [he])).trans he
      rw [hunnamed, List.filterMap_cons_some he, hsame]
      exact ih.cons _

/-- Two commitments share an identity only if one came with it and the other was given it. -/
theorem shared (h : Named handed es ids) (hown : (es.filterMap (·.id)).Nodup)
    (hhanded : handed.Nodup) {m n : Nat} (hne : m ≠ n) {id : Option Nat}
    (hm : ids[m]? = some id) (hn : ids[n]? = some id) :
    ∃ i, id = some i ∧ i ∈ es.filterMap (·.id) ∧ i ∈ handed := by
  have htwice : 2 ≤ ids.count id := by
    apply List.replicate_sublist_iff.mp
    apply List.duplicate_iff_sublist.mp
    apply List.duplicate_iff_exists_distinct_get.mpr
    obtain ⟨hm', hm⟩ := List.getElem?_eq_some_iff.mp hm
    obtain ⟨hn', hn⟩ := List.getElem?_eq_some_iff.mp hn
    rcases Nat.lt_or_gt_of_ne hne with hlt | hlt
    · exact ⟨⟨m, hm'⟩, ⟨n, hn'⟩, hlt, hm.symm, hn.symm⟩
    · exact ⟨⟨n, hn'⟩, ⟨m, hm'⟩, hlt, hn.symm, hm.symm⟩
  have hsome := Option.some_injective Nat
  -- each of the two parts has it once at most, so both have it
  have hparts := h.perm.count_eq id
  rw [List.count_append] at hparts
  have howned := List.nodup_iff_count_le_one.mp (hown.map hsome) id
  have hgiven := List.nodup_iff_count_le_one.mp (h.given.nodup (hhanded.map hsome)) id
  have hin : id ∈ (es.filterMap (·.id)).map some := by
    apply List.count_pos_iff.mp
    omega
  have hin' : id ∈ Commitment.unnamed es ids := by
    apply List.count_pos_iff.mp
    omega
  obtain ⟨i, hi, rfl⟩ := List.mem_map.mp hin
  exact ⟨i, rfl, hi, (List.mem_map_of_injective hsome).mp (h.given.subset hin')⟩

end Named

namespace Track

variable {α φ : Type} [Outage φ]

def chosen (t : Track α φ) (rs : List (Request α)) : List Nat :=
  (t.history accepted rs).filterMap (·.id)

/-- An identity names one commitment, among those in flight and in the audit entries. -/
structure Unique (t₀ : Track α φ) (rs : List (Request α)) : Prop where
  live : ((t₀.run rs).live.map (·.id)).Nodup
  entries : ∀ a ∈ t₀.books.log (t₀.history postings rs), a.action ≠ .drain →
    ∃! n, ∃ p ∈ t₀.history postings rs, p.mark? = some n ∧ p.eventId = a.eventId

theorem Stable.unique {t₀ : Track α φ} {rs : List (Request α)} (h : Stable t₀ rs)
    (hmarks : ((t₀.run rs).live.map (·.mark)).Nodup)
    (hinjective : ∀ (m n : Nat) (id : Option Nat), (t₀.identities rs)[m]? = some id →
      (t₀.identities rs)[n]? = some id → m = n) : Unique t₀ rs := by
  have hlive := fun c hc => (h.live rs [] (List.append_nil rs).symm c hc).2
  constructor
  case live =>
    refine List.Nodup.map_on ?_ hmarks.of_map
    intro c hc c' hc' hid
    apply List.inj_on_of_nodup_map hmarks hc hc'
    exact hinjective _ _ _ (hlive c hc) (hid ▸ hlive c' hc')
  case entries =>
    intro a ha haction
    obtain ⟨p, hp, hsame, hid⟩ := Books.mem_log ha
    obtain ⟨n, hn⟩ := h.numbered p hp (hsame ▸ haction)
    refine ⟨n, ⟨p, hp, hn, hid.symm⟩, ?_⟩
    rintro n' ⟨p', hp', hn', hid'⟩
    have hposted := h.posted p' hp' n' hn'
    rw [hid', hid] at hposted
    exact hinjective _ _ _ hposted (h.posted p hp n hn)

/-- Callers may choose identities that the store hands out. If they choose distinct ones, then
commitments share an identity only if it was chosen for one of them and handed out, and while no
identity was both chosen and handed out, each names one commitment. -/
theorem shared_identity {t₀ : Track α φ} (h : t₀.Opened)
    (hkeeps : Outage.KeepsEvents t₀.store.outage) {rs : List (Request α)}
    (hfull : ∀ r ∈ rs, r.Full) (hchosen : (t₀.chosen rs).Nodup) :
    let handed := t₀.history handings rs
    handed = List.range' 1 handed.length ∧
      (t₀.run rs).audit = t₀.audit.map (.recordAll (t₀.books.log (t₀.history postings rs))) ∧
      (∀ c ∈ (t₀.run rs).live, ∀ c' ∈ (t₀.run rs).live, c.id = c'.id → c.mark ≠ c'.mark →
        ∃ i, c.id = some i ∧ i ∈ t₀.chosen rs ∧ i ∈ handed) ∧
      ((∀ i ∈ t₀.chosen rs, i ∉ handed) → Unique t₀ rs) := by
  intro handed
  have hhanded := (handings_run h rs).range
  have hnodup : handed.Nodup := (handings_run h rs).nodup
  have hstable := stable_run h hkeeps hfull
  have hlive := fun c hc => (hstable.live rs [] (List.append_nil rs).symm c hc).2
  have hnamed := named_run h hkeeps hfull
  refine ⟨hhanded, run_audit t₀ rs, ?_, ?_⟩
  · intro c hc c' hc' hid hne
    exact hnamed.shared hchosen hnodup hne (hlive c hc) (hid ▸ hlive c' hc')
  · intro hdisjoint
    refine hstable.unique (tally_run h hkeeps hfull).live_nodup ?_
    intro m n id hm hn
    by_contra hne
    obtain ⟨i, _, hi, hi'⟩ := hnamed.shared hchosen hnodup hne hm hn
    exact hdisjoint i hi hi'

/-- One identity is chosen, and three others are handed out. -/
theorem shared_identity_tickets :
    troubled.chosen tickets = [77] ∧ troubled.history handings tickets = [1, 2, 3] ∧
      Unique troubled tickets := by
  have hchosen : troubled.chosen tickets = [77] := by decide +kernel
  have hhanded : troubled.history handings tickets = [1, 2, 3] := by decide +kernel
  obtain ⟨_, _, _, hunique⟩ := shared_identity troubled_opened troubled_keepsEvents tickets_full
    (hchosen ▸ List.nodup_singleton 77)
  refine ⟨hchosen, hhanded, hunique ?_⟩
  rw [hchosen, hhanded]
  decide

def witnessed : Track Nat Unit := (ofStore (.empty ())).withAudit (.empty 2)

/-- A commitment for which identity 1 is chosen, and one without identity. -/
def clashing : List (Request Nat) :=
  [.schedule { deliveryTime := 1, supply := .ofList [1], id := some 1 },
    .schedule { deliveryTime := 1, supply := .ofList [2] }]

/-- The store hands out identity 1 although it was chosen. -/
theorem clashing_shared :
    witnessed.Opened ∧ (∀ r ∈ clashing, r.Full) ∧ witnessed.chosen clashing = [1] ∧
      witnessed.history handings clashing = [1] ∧
      ((witnessed.run clashing).live.map fun c => (c.mark, c.id)) = [(0, some 1), (1, some 1)] ∧
      (witnessed.run clashing).audit.map (·.entries.map fun a => (a.action, a.eventId)) =
        some [(.schedule, some 1), (.schedule, some 1)] ∧
      ¬ ((witnessed.run clashing).live.map (·.id)).Nodup := by
  refine ⟨.withAudit _ (.ofStore _), ?_, by decide +kernel, by decide +kernel, by decide +kernel,
    by decide +kernel, by decide +kernel⟩
  simp only [clashing, List.forall_mem_cons]
  exact ⟨rfl, rfl, List.forall_mem_nil _⟩

end Track
end BucketClock
