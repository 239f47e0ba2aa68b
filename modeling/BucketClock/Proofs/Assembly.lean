import BucketClock.Config.Assembly
import BucketClock.Json.Records
import BucketClock.Proofs.Track.RetryLaw

/-!
Building tracks from settings. The settings of a scheduler are checked as a
whole, those of a track once more when it is built, and those of a text when it
is read; all three checks let the same settings through (`problem?_eq_none`,
`fault?_eq_none`, `parse_ok`). So no track fails on its settings once its store
is made, and what is built is exactly what is configured.

Main statement: `assembly`.
-/

namespace BucketClock

variable {σ α φ : Type}

/-! ## Settings of one track -/

namespace TrackConfig

structure Usable (c : TrackConfig) : Prop where
  frameWidth : 0 < c.frameWidth
  increment : 0 < c.increment
  auditCapacity : ∀ capacity, c.auditCapacity = some capacity → 0 < capacity

theorem fault?_eq_none {c : TrackConfig} : c.fault? = none ↔ c.Usable := by
  have hcapacity : c.auditCapacity ≠ some 0 ↔
      ∀ capacity, c.auditCapacity = some capacity → 0 < capacity := by
    cases c.auditCapacity with
    | none => simp
    | some capacity => simp [Nat.pos_iff_ne_zero]
  simp only [fault?]
  constructor
  · intro h
    split at h
    · cases h
    · next hwidth =>
      split at h
      · cases h
      · next hincrement =>
        split at h
        · cases h
        · next haudit =>
          exact ⟨Nat.pos_of_ne_zero hwidth, Nat.pos_of_ne_zero hincrement, hcapacity.mp haudit⟩
  · rintro ⟨hwidth, hincrement, haudit⟩
    rw [if_neg (Nat.ne_of_gt hwidth), if_neg (Nat.ne_of_gt hincrement),
      if_neg (hcapacity.mpr haudit)]

end TrackConfig

/-- A track that was set up with a name and settings, which stand as they were given, and that
nothing was asked of yet. -/
structure Track.Configured (name : String) (c : TrackConfig) (t : Track α φ) : Prop where
  name : t.name = name
  frameWidth : t.frameWidth = c.frameWidth
  increment : t.increment = c.increment
  audit : t.audit = c.auditCapacity.map .empty
  hosted : t.Hosted

namespace TrackConfig

/-- The clamps of the settings do nothing to usable ones. -/
theorem Usable.build {c : TrackConfig} (h : c.Usable) (name : String) (store : Store α φ) :
    ∃ t, (c.build name store).value = .ok t ∧ t.Configured name c := by
  have hwidth : max c.frameWidth 1 = c.frameWidth := Nat.max_eq_left h.frameWidth
  have hincrement : max c.increment 1 = c.increment := Nat.max_eq_left h.increment
  have hhosted : ((((Track.ofStore store).withName name).withFrameWidth
      c.frameWidth).withIncrement c.increment).Hosted :=
    .withIncrement _ (.withFrameWidth _ (.withName _ (.ofStore store)))
  simp only [TrackConfig.build, fault?_eq_none.mpr h]
  cases haudit : c.auditCapacity with
  | none => exact ⟨_, rfl, rfl, hwidth, hincrement, by rw [haudit]; rfl, hhosted⟩
  | some capacity =>
    exact ⟨_, rfl, rfl, hwidth, hincrement, by rw [haudit]; rfl, .withAudit _ hhosted⟩

/-- A track is built of the settings that have no fault and of no others. -/
theorem build_ok_iff (name : String) (c : TrackConfig) (store : Store α φ) :
    (∃ t, (c.build name store).value = .ok t) ↔ c.Usable := by
  constructor
  · rintro ⟨t, ht⟩
    rw [← fault?_eq_none]
    cases hfault : c.fault? with
    | none => rfl
    | some fault => simp [TrackConfig.build, hfault] at ht
  · intro h
    obtain ⟨t, ht, _⟩ := h.build name store
    exact ⟨t, ht⟩

end TrackConfig

/-! ## Settings of a scheduler -/

namespace SchedulerConfig

structure Valid (cfg : SchedulerConfig) : Prop where
  inhabited : cfg.tracks ≠ []
  usable : ∀ t ∈ cfg.tracks, t.2.Usable

theorem Valid.of_perm {cfg cfg' : SchedulerConfig} (h : cfg.Valid)
    (hperm : cfg'.tracks.Perm cfg.tracks) : cfg'.Valid := by
  refine ⟨?_, fun t ht => h.usable t (hperm.mem_iff.mp ht)⟩
  intro hempty
  rw [hempty] at hperm
  exact h.inhabited hperm.nil_eq.symm

theorem problem?_eq_none {cfg : SchedulerConfig} : cfg.problem? = none ↔ cfg.Valid := by
  have hfaults : (cfg.tracks.findSome? fun t => t.2.fault?.map (ConfigProblem.track t.1)) = none ↔
      ∀ t ∈ cfg.tracks, t.2.Usable := by
    simp only [List.findSome?_eq_none_iff, Option.map_eq_none_iff, TrackConfig.fault?_eq_none]
  simp only [problem?]
  constructor
  · intro h
    split at h
    · cases h
    · next hinhabited =>
      exact ⟨fun hempty => hinhabited (List.isEmpty_iff.mpr hempty), hfaults.mp h⟩
  · rintro ⟨hinhabited, husable⟩
    rw [if_neg (fun hempty => hinhabited (List.isEmpty_iff.mp hempty))]
    exact hfaults.mpr husable

/-- A problem is that there is no track, or the fault of one that there is. -/
theorem problem?_cases {cfg : SchedulerConfig} {p : ConfigProblem} (h : cfg.problem? = some p) :
    (cfg.tracks = [] ∧ p = .noTracks) ∨
      ∃ name c fault, (name, c) ∈ cfg.tracks ∧ c.fault? = some fault ∧ p = .track name fault := by
  simp only [problem?] at h
  split at h
  · next hempty => exact Or.inl ⟨List.isEmpty_iff.mp hempty, (Option.some.inj h).symm⟩
  · obtain ⟨⟨name, c⟩, hmem, hfault⟩ := List.exists_of_findSome?_eq_some h
    obtain ⟨fault, hfault, hp⟩ := Option.map_eq_some_iff.mp hfault
    exact Or.inr ⟨name, c, fault, hmem, hfault, hp.symm⟩

/-! ## Settings in a text -/

theorem set_names {cfg : SchedulerConfig} (h : (cfg.tracks.map (·.1)).Nodup) (name : String)
    (c : TrackConfig) : ((cfg.set name c).tracks.map (·.1)).Nodup := by
  have hkept : ((cfg.tracks.filter fun t => t.1 ≠ name).map (·.1)).Nodup :=
    h.sublist (List.filter_sublist.map _)
  rw [set, List.map_append, List.nodup_append']
  refine ⟨hkept, List.nodup_singleton _, ?_⟩
  intro other hother hname
  obtain ⟨t, ht, rfl⟩ := List.mem_map.mp hother
  have hne : t.1 ≠ name := by simpa using (List.mem_filter.mp ht).2
  exact hne (List.mem_singleton.mp hname)

theorem ofMembers?_names {members : List (Option String × Json)} {cfg cfg' : SchedulerConfig}
    (h : (cfg.tracks.map (·.1)).Nodup) (hread : ofMembers? members cfg = some cfg') :
    (cfg'.tracks.map (·.1)).Nodup := by
  induction members generalizing cfg with
  | nil =>
    cases hread
    exact h
  | cons member members ih =>
    obtain ⟨key, j⟩ := member
    cases key with
    | none => cases hread
    | some name =>
      simp only [ofMembers?] at hread
      split at hread
      · exact ih (set_names h name _) hread
      · cases hread

/-- What a text holds has one entry under a name. -/
theorem ofJson?_names {j : Json} {cfg : SchedulerConfig} (h : ofJson? j = some cfg) :
    (cfg.tracks.map (·.1)).Nodup := by
  obtain ⟨f, _, h⟩ := Option.bind_eq_some_iff.mp h
  obtain ⟨tracks, _, h⟩ := Option.bind_eq_some_iff.mp h
  have hnone : ((⟨[]⟩ : SchedulerConfig).tracks.map (·.1)).Nodup := List.nodup_nil
  cases tracks with
  | obj members => exact ofMembers?_names hnone h
  | _ => cases h

/-- A text is accepted if it can be read and its settings are usable. -/
theorem parse_ok {text : String} {cfg : SchedulerConfig} :
    parse text = .ok cfg ↔ (Json.parse? text).bind ofJson? = some cfg ∧ cfg.Valid := by
  simp only [parse]
  cases (Json.parse? text).bind ofJson? with
  | none => simp
  | some read =>
    cases hproblem : read.problem? with
    | none =>
      simp only [hproblem, Except.ok.injEq, Option.some.injEq]
      constructor
      · rintro rfl
        exact ⟨rfl, problem?_eq_none.mp hproblem⟩
      · exact And.left
    | some p =>
      simp only [hproblem, reduceCtorEq, Option.some.injEq, false_iff, not_and]
      rintro rfl hvalid
      rw [problem?_eq_none.mpr hvalid] at hproblem
      cases hproblem

theorem parse_names {text : String} {cfg : SchedulerConfig} (h : parse text = .ok cfg) :
    (cfg.tracks.map (·.1)).Nodup := by
  obtain ⟨j, _, hread⟩ := Option.bind_eq_some_iff.mp (parse_ok.mp h).1
  exact ofJson?_names hread

end SchedulerConfig

/-! ## Stores -/

namespace StoreMaker

def recorded (m : StoreMaker σ α φ) : StoreMaker (σ × List (String × TrackConfig)) α φ :=
  fun name c s =>
    let made := m name c s.1
    (made.1, made.2, s.2 ++ [(name, c)])

/-- The failure of a maker that is asked for the stores of a list of tracks in turn, if one
fails. -/
def refusal? (m : StoreMaker σ α φ) : List (String × TrackConfig) → σ → Option TrackError
  | [], _ => none
  | (name, c) :: rest, s =>
    match (m name c s).1 with
    | .error e => some e
    | .ok _ => refusal? m rest (m name c s).2

def Unfailing (m : StoreMaker σ α φ) : Prop := ∀ name c s, ∃ store, (m name c s).1 = .ok store

theorem Unfailing.refusal?_eq_none {m : StoreMaker σ α φ} (h : m.Unfailing)
    (entries : List (String × TrackConfig)) (s : σ) : m.refusal? entries s = none := by
  induction entries generalizing s with
  | nil => rfl
  | cons entry entries ih =>
    obtain ⟨store, hstore⟩ := h entry.1 entry.2 s
    simp only [refusal?, hstore]
    exact ih _

end StoreMaker

/-! ## Building in turn -/

abbrev BuiltFor (entries : List (String × TrackConfig)) (tracks : List (String × Track α φ)) :
    Prop :=
  List.Forall₂ (fun entry built => built.1 = entry.1 ∧ built.2.Configured entry.1 entry.2)
    entries tracks

/-- Over usable settings only a store that is not made is in the way. -/
theorem buildEach_usable (m : StoreMaker σ α φ) {entries : List (String × TrackConfig)}
    (h : ∀ t ∈ entries, t.2.Usable) (s : σ) :
    match m.refusal? entries s with
    | some e => (buildEach m entries s).value = .error e
    | none => ∃ tracks, (buildEach m entries s).value = .ok tracks ∧ BuiltFor entries tracks := by
  induction entries generalizing s with
  | nil => exact ⟨[], rfl, .nil⟩
  | cons entry entries ih =>
    obtain ⟨name, c⟩ := entry
    obtain ⟨husable, hrest⟩ := List.forall_mem_cons.mp h
    simp only [StoreMaker.refusal?, buildEach]
    cases hmade : (m name c s).1 with
    | error e => rfl
    | ok store =>
      obtain ⟨t, ht, hconfigured⟩ := husable.build name store
      have ih := ih hrest (m name c s).2
      simp only [ht]
      cases hrefusal : m.refusal? entries (m name c s).2 with
      | some e =>
        rw [hrefusal] at ih
        simp only at ih ⊢
        rw [ih]
        rfl
      | none =>
        rw [hrefusal] at ih
        obtain ⟨tracks, hvalue, hbuilt⟩ := ih
        simp only
        rw [hvalue]
        exact ⟨(name, t) :: tracks, rfl, .cons ⟨rfl, hconfigured⟩ hbuilt⟩

/-- Recording changes nothing else, and where all tracks are built every store was asked for once. -/
theorem buildEach_recorded (m : StoreMaker σ α φ) (entries : List (String × TrackConfig)) (s : σ)
    (asked : List (String × TrackConfig)) :
    (buildEach m.recorded entries (s, asked)).value = (buildEach m entries s).value ∧
      (buildEach m.recorded entries (s, asked)).state.1 = (buildEach m entries s).state ∧
      ∀ tracks, (buildEach m entries s).value = .ok tracks →
        (buildEach m.recorded entries (s, asked)).state.2 = asked ++ entries := by
  induction entries generalizing s asked with
  | nil => exact ⟨rfl, rfl, fun _ _ => (List.append_nil _).symm⟩
  | cons entry entries ih =>
    obtain ⟨name, c⟩ := entry
    obtain ⟨hvalue, hstate, hasked⟩ := ih (m name c s).2 (asked ++ [(name, c)])
    simp only [buildEach, StoreMaker.recorded] at hvalue hstate hasked ⊢
    cases hmade : (m name c s).1 with
    | error e => exact ⟨rfl, rfl, fun _ htracks => by cases htracks⟩
    | ok store =>
      simp only
      cases (c.build name store).value with
      | error e => exact ⟨rfl, rfl, fun _ htracks => by cases htracks⟩
      | ok t =>
        simp only
        refine ⟨by rw [hvalue], hstate, ?_⟩
        intro tracks htracks
        cases hothers : (buildEach m entries (m name c s).2).value with
        | error e => simp [hothers, Except.map] at htracks
        | ok others =>
          rw [hasked others hothers, List.append_assoc, List.singleton_append]

theorem BuiltFor.names {entries : List (String × TrackConfig)} {tracks : List (String × Track α φ)}
    (h : BuiltFor entries tracks) : tracks.map (·.1) = entries.map (·.1) := by
  induction h with
  | nil => rfl
  | cons hhead _ ih => rw [List.map_cons, List.map_cons, hhead.1, ih]

/-- Where no name stands twice, a track is found under its own. -/
theorem BuiltFor.lookup {entries : List (String × TrackConfig)}
    {tracks : List (String × Track α φ)} (h : BuiltFor entries tracks)
    (hnames : (entries.map (·.1)).Nodup) {name : String} {c : TrackConfig}
    (hmem : (name, c) ∈ entries) : ∃ t, tracks.lookup name = some t ∧ t.Configured name c := by
  induction h with
  | nil => cases hmem
  | @cons entry built entries tracks hhead _ ih =>
    obtain ⟨hname, hconfigured⟩ := hhead
    obtain ⟨other, t⟩ := built
    obtain ⟨hnew, hnames⟩ := List.nodup_cons.mp hnames
    rcases List.mem_cons.mp hmem with rfl | hmem
    · cases hname
      exact ⟨t, by rw [List.lookup_cons_self], hconfigured⟩
    · have hne : name ≠ other := by
        rintro rfl
        exact hnew (List.mem_map.mpr ⟨_, hmem, hname⟩)
      obtain ⟨t', hlookup, hconfigured'⟩ := ih hnames hmem
      refine ⟨t', ?_, hconfigured'⟩
      rw [List.lookup_cons, beq_false_of_ne hne]
      exact hlookup

namespace SchedulerConfig

/-! ## Building a scheduler -/

theorem build_of_valid {cfg : SchedulerConfig} (h : cfg.Valid) (m : StoreMaker σ α φ) (s : σ) :
    cfg.build m s = buildEach m cfg.tracks s := by
  simp only [SchedulerConfig.build, problem?_eq_none.mpr h]

/-- What comes of building the tracks of a configuration in some order. -/
structure Exact (cfg : SchedulerConfig) (order : List (String × TrackConfig))
    (m : StoreMaker σ α φ) (s : σ) : Prop where
  /-- They are built if the settings are usable and every store is made, -/
  ok_iff : (∃ tracks, (build ⟨order⟩ m s).value = .ok tracks) ↔
    cfg.Valid ∧ m.refusal? order s = none
  /-- and then each under its name, as it was set up. -/
  built : ∀ tracks, (build ⟨order⟩ m s).value = .ok tracks →
    (tracks.map (·.1)).Perm (cfg.tracks.map (·.1)) ∧ (tracks.map (·.1)).Nodup ∧
      ∀ name c, (name, c) ∈ cfg.tracks →
        ∃ t, tracks.lookup name = some t ∧ t.Configured name c
  /-- Recording what the maker is asked for changes nothing else. -/
  recorded : (build ⟨order⟩ m.recorded (s, [])).value = (build ⟨order⟩ m s).value
  asked : ∀ tracks, (build ⟨order⟩ m s).value = .ok tracks →
    (build ⟨order⟩ m.recorded (s, [])).state.2 = order
  /-- Over settings that are not usable no store is asked for, and the error tells what is wrong
  with one of them. -/
  invalid : ¬ cfg.Valid → ∃ p, build ⟨order⟩ m s = ⟨.error (.config p), s, []⟩ ∧
    (build ⟨order⟩ m.recorded (s, [])).state = (s, []) ∧
    (TrackError.config p).kind = .invalidConfig ∧
    (cfg.tracks = [] ∧ p = .noTracks ∨
      ∃ name c fault, (name, c) ∈ cfg.tracks ∧ ¬ c.Usable ∧ c.fault? = some fault ∧
        p = .track name fault)
  /-- If only a store is not made, that is the error. -/
  refused : cfg.Valid → ∀ e, m.refusal? order s = some e →
    (build ⟨order⟩ m s).value = .error e

theorem exact_of_valid {cfg : SchedulerConfig} (h : cfg.Valid)
    (hnames : (cfg.tracks.map (·.1)).Nodup) {order : List (String × TrackConfig)}
    (horder : order.Perm cfg.tracks) (m : StoreMaker σ α φ) (s : σ) : Exact cfg order m s := by
  have hvalid : Valid ⟨order⟩ := h.of_perm horder
  have hbuild : build ⟨order⟩ m s = buildEach m order s := build_of_valid hvalid m s
  have hrecorded : build ⟨order⟩ m.recorded (s, []) = buildEach m.recorded order (s, []) :=
    build_of_valid hvalid _ _
  have heach := buildEach_usable m hvalid.usable s
  obtain ⟨hvalue, _, hasked⟩ := buildEach_recorded m order s []
  have horder_names : (order.map (·.1)).Perm (cfg.tracks.map (·.1)) := horder.map _
  have hnodup : (order.map (·.1)).Nodup := horder_names.nodup_iff.mpr hnames
  refine ⟨?_, ?_, by rw [hrecorded, hvalue, hbuild], ?_, fun hnot => absurd h hnot, ?_⟩
  · rw [hbuild]
    split at heach
    · next e hrefusal => simp [heach, hrefusal]
    · next hrefusal =>
      obtain ⟨tracks, hbuilt, _⟩ := heach
      exact ⟨fun _ => ⟨h, hrefusal⟩, fun _ => ⟨tracks, hbuilt⟩⟩
  · intro tracks htracks
    rw [hbuild] at htracks
    split at heach
    · rw [heach] at htracks
      cases htracks
    · obtain ⟨tracks', hbuilt, hfor⟩ := heach
      rw [hbuilt] at htracks
      cases htracks
      rw [hfor.names]
      exact ⟨horder_names, hnodup,
        fun name c hmem => hfor.lookup hnodup (horder.mem_iff.mpr hmem)⟩
  · intro tracks htracks
    rw [hrecorded, hasked tracks (hbuild ▸ htracks), List.nil_append]
  · intro _ e hrefusal
    rw [hrefusal] at heach
    rw [hbuild]
    exact heach

theorem exact_of_not_valid {cfg : SchedulerConfig} (h : ¬ cfg.Valid)
    {order : List (String × TrackConfig)} (horder : order.Perm cfg.tracks)
    (m : StoreMaker σ α φ) (s : σ) : Exact cfg order m s := by
  cases hproblem : problem? ⟨order⟩ with
  | none => exact absurd ((problem?_eq_none.mp hproblem).of_perm horder.symm) h
  | some p =>
    have hbuild : ∀ {τ : Type} (m : StoreMaker τ α φ) (s : τ),
        build ⟨order⟩ m s = ⟨.error (.config p), s, []⟩ := by
      intro τ m s
      simp only [SchedulerConfig.build, hproblem]
    have hnone : ∀ tracks, (build ⟨order⟩ m s).value ≠ .ok tracks := by
      intro tracks htracks
      rw [hbuild] at htracks
      cases htracks
    refine ⟨⟨fun ⟨tracks, htracks⟩ => absurd htracks (hnone tracks), fun hyes => absurd hyes.1 h⟩,
      fun tracks htracks => absurd htracks (hnone tracks), by rw [hbuild, hbuild],
      fun tracks htracks => absurd htracks (hnone tracks), fun _ => ?_, fun hyes => absurd hyes h⟩
    refine ⟨p, hbuild m s, by rw [hbuild], rfl, ?_⟩
    rcases problem?_cases hproblem with ⟨hempty, rfl⟩ | ⟨name, c, fault, hmem, hfault, rfl⟩
    · refine Or.inl ⟨?_, rfl⟩
      rw [show order = [] from hempty] at horder
      exact horder.nil_eq.symm
    · refine Or.inr ⟨name, c, fault, horder.mem_iff.mp hmem, ?_, hfault, rfl⟩
      rw [← TrackConfig.fault?_eq_none, hfault]
      exact Option.some_ne_none _

/-- Building from a configuration is exact. Whatever the order in which the tracks of a
configuration are taken up, they are all built, each as it was set up, if the settings are usable
and every store is made; otherwise the error tells which of the two was missing, and no store was
asked for if it was the settings. A single track is built of the same settings, and what is read
from an accepted text can be built over any stores that are made. -/
theorem assembly {cfg : SchedulerConfig} (hnames : (cfg.tracks.map (·.1)).Nodup)
    {order : List (String × TrackConfig)} (horder : order.Perm cfg.tracks)
    (m : StoreMaker σ α φ) (s : σ) :
    Exact cfg order m s ∧
      (∀ name c (store : Store α φ),
        (∃ t, (TrackConfig.build name c store).value = .ok t) ↔ c.Usable) ∧
      ∀ text read, parse text = .ok read → ∀ order' : List (String × TrackConfig),
        order'.Perm read.tracks → Exact read order' m s ∧
          (m.Unfailing → ∃ tracks, (build ⟨order'⟩ m s).value = .ok tracks) := by
  have hexact : Exact cfg order m s := by
    by_cases h : cfg.Valid
    · exact exact_of_valid h hnames horder m s
    · exact exact_of_not_valid h horder m s
  refine ⟨hexact, TrackConfig.build_ok_iff, ?_⟩
  intro text read hread order' horder'
  have hvalid := (parse_ok.mp hread).2
  have hexact' := exact_of_valid hvalid (parse_names hread) horder' m s
  exact ⟨hexact', fun h => hexact'.ok_iff.mpr ⟨hvalid, h.refusal?_eq_none order' s⟩⟩

def pair : SchedulerConfig := ⟨[("a", {}), ("b", { frameWidth := 4, auditCapacity := some 16 })]⟩

def counting : StoreMaker Nat Nat (List PlannedFailure) := fun _ _ n => (.ok (.empty []), n + 1)

/-- The tracks of `pair`, taken up from the last, and the text it is read from. -/
theorem assembly_pair :
    let order := pair.tracks.reverse
    let text := "\x7b\"tracks\": \x7b\"a\": \x7b\x7d, \"b\": \x7b\"frame_width\": 4, " ++
      "\"audit_capacity\": 16\x7d\x7d\x7d"
    parse text = .ok pair ∧ counting.refusal? order 0 = none ∧ (build ⟨order⟩ counting 0).state = 2 ∧
      Exact pair order counting 0 ∧
      (∀ name c (store : Store Nat (List PlannedFailure)),
        (∃ t, (TrackConfig.build name c store).value = .ok t) ↔ c.Usable) ∧
      ∀ text read, parse text = .ok read → ∀ order' : List (String × TrackConfig),
        order'.Perm read.tracks → Exact read order' counting 0 ∧
          (counting.Unfailing → ∃ tracks, (build ⟨order'⟩ counting 0).value = .ok tracks) := by
  intro order text
  exact ⟨by decide +kernel, rfl, rfl,
    assembly (by decide) (List.reverse_perm pair.tracks) counting 0⟩

end SchedulerConfig
end BucketClock
