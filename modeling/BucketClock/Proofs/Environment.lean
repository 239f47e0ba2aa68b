import BucketClock.Config.EnvironmentFile
import BucketClock.Proofs.Assembly

/-!
Settings from environment variables. A variable whose bytes are a text has to
denote a positive number of 64 bits, and its setting is then that number; each
other one leaves its setting at the default. An error names a variable that is
really at fault, with its text as it stands.

Main statement: `environment_exact`. A variable can be set and yet leave no
trace, if its bytes are no text: `unreadable_ignored`.
-/

namespace BucketClock

namespace Environment

/-! ## Numbers between blanks -/

/-- `raw` is written as a number: blanks, a plus sign or none, digits, blanks. -/
def Denotes (raw : String) (n : Nat) : Prop :=
  ∃ before sign digits after, raw.toList = before ++ (sign ++ digits) ++ after ∧
    (∀ c ∈ before, Text.isBlank c = true) ∧ (∀ c ∈ after, Text.isBlank c = true) ∧
    (sign = [] ∨ sign = ['+']) ∧ digits ≠ [] ∧ (∀ c ∈ digits, c.isDigit = true) ∧
    Nat.ofDigitChars 10 digits 0 = n

/-- A numeral without its plus sign. -/
def unsigned : List Char → List Char
  | '+' :: rest => rest
  | cs => cs

theorem number?_eq (raw : String) :
    number? raw = Text.numeralBelow? (2 ^ 64) (unsigned (Text.trim raw.toList)) := rfl

theorem exists_sign (cs : List Char) :
    ∃ sign, (sign = [] ∨ sign = ['+']) ∧ cs = sign ++ unsigned cs := by
  unfold unsigned
  split
  · exact ⟨['+'], .inr rfl, rfl⟩
  · exact ⟨[], .inl rfl, rfl⟩

theorem unsigned_append {sign digits : List Char} (hsign : sign = [] ∨ sign = ['+'])
    (hdigits : ∀ c ∈ digits, c.isDigit = true) : unsigned (sign ++ digits) = digits := by
  rcases hsign with rfl | rfl
  · rw [List.nil_append]
    unfold unsigned
    split
    · exact absurd (hdigits '+' List.mem_cons_self) (by decide)
    · rfl
  · rfl

theorem isBlank_of_isDigit {c : Char} (h : c.isDigit = true) : Text.isBlank c = false := by
  have hdigits : ∀ n < 58, 48 ≤ n → Text.blankPoints.contains n = false := by decide
  simp only [Char.isDigit, Bool.and_eq_true, decide_eq_true_eq, ge_iff_le,
    UInt32.le_iff_toNat_le] at h
  exact hdigits c.toNat (Nat.lt_succ_of_le h.2) h.1

theorem number?_eq_some_iff {raw : String} {n : Nat} :
    number? raw = some n ↔ Denotes raw n ∧ n < 2 ^ 64 := by
  rw [number?_eq]
  simp only [Text.numeralBelow?, Option.filter_eq_some_iff, Text.numeral?_eq_some_iff,
    decide_eq_true_eq]
  constructor
  · rintro ⟨⟨hne, hdigits, hvalue⟩, hlt⟩
    obtain ⟨before, after, hraw, hbefore, hafter⟩ := Text.exists_trim raw.toList
    obtain ⟨sign, hsign, htrim⟩ := exists_sign (Text.trim raw.toList)
    rw [htrim] at hraw
    exact ⟨⟨before, sign, _, after, hraw, hbefore, hafter, hsign, hne, hdigits, hvalue⟩, hlt⟩
  · rintro ⟨⟨before, sign, digits, after, hraw, hbefore, hafter, hsign, hne, hdigits, hvalue⟩, hlt⟩
    have hcore : ∀ c ∈ sign ++ digits, Text.isBlank c = false := by
      intro c hc
      rcases List.mem_append.mp hc with hc | hc
      · rcases hsign with rfl | rfl
        · cases hc
        · cases List.mem_singleton.mp hc
          rfl
      · exact isBlank_of_isDigit (hdigits c hc)
    rw [hraw, Text.trim_between hbefore hcore hafter, unsigned_append hsign hdigits]
    exact ⟨⟨hne, hdigits, hvalue⟩, hlt⟩

/-! ## What a variable sets -/

theorem text?_eq_some_iff {env : Environment} {name raw : String} :
    env.text? name = some raw ↔ env.bytes? name = some raw.toUTF8 := by
  have hread : ∀ bytes, String.fromUTF8? bytes = some raw ↔ bytes = raw.toUTF8 := by
    intro bytes
    simp only [String.fromUTF8?]
    constructor
    · intro h
      split at h
      · cases h
        rfl
      · cases h
    · rintro rfl
      exact dif_pos raw.isValidUTF8
  simp only [text?, Option.bind_eq_some_iff, hread]
  exact ⟨fun ⟨bytes, hbytes, hraw⟩ => hraw ▸ hbytes, fun h => ⟨_, h, rfl⟩⟩

/-- The number a variable sets, or nothing: it is not set, or its bytes are no text. -/
inductive Sets (env : Environment) (name : String) : Option Nat → Prop
  | unset (h : env.bytes? name = none) : Sets env name none
  | unreadable {bytes : ByteArray} (h : env.bytes? name = some bytes)
      (hbytes : ∀ raw : String, raw.toUTF8 ≠ bytes) : Sets env name none
  | number {raw : String} {n : Nat} (h : env.bytes? name = some raw.toUTF8) (hn : Denotes raw n)
      (hlt : n < 2 ^ 64) : Sets env name (some n)

theorem sets_none_iff {env : Environment} {name : String} :
    env.Sets name none ↔ env.text? name = none := by
  simp only [Option.eq_none_iff_forall_ne_some, ne_eq, text?_eq_some_iff]
  constructor
  · intro h raw hraw
    cases h with
    | unset hnone => cases hnone.symm.trans hraw
    | unreadable hsome hbytes => exact hbytes raw (Option.some.inj (hraw.symm.trans hsome))
  · intro h
    cases hbytes : env.bytes? name with
    | none => exact .unset hbytes
    | some bytes => exact .unreadable hbytes fun raw hraw => h raw (hraw ▸ hbytes)

theorem sets_some_iff {env : Environment} {name : String} {n : Nat} :
    env.Sets name (some n) ↔ ∃ raw, env.text? name = some raw ∧ number? raw = some n := by
  simp only [text?_eq_some_iff, number?_eq_some_iff]
  constructor
  · intro h
    cases h with
    | number h hn hlt => exact ⟨_, h, hn, hlt⟩
  · rintro ⟨raw, h, hn, hlt⟩
    exact .number h hn hlt

theorem setting_ok_iff {env : Environment} {name : String} {v : Option Nat} :
    env.setting name = .ok v ↔ env.Sets name v := by
  have hnone : env.Sets name none ↔ env.text? name = none := sets_none_iff
  have hsome : ∀ n, env.Sets name (some n) ↔
      ∃ raw, env.text? name = some raw ∧ number? raw = some n := fun _ => sets_some_iff
  simp only [setting]
  cases htext : env.text? name with
  | none => cases v <;> simp [hnone, hsome, htext]
  | some raw =>
    cases hnumber : number? raw with
    | none => cases v <;> simp [hnone, hsome, htext, hnumber]
    | some m => cases v <;> simp [hnone, hsome, htext, hnumber]

/-- A text that denotes no number in range is refused as it stands. -/
theorem setting_error {env : Environment} {name : String} {e : TrackError}
    (h : env.setting name = .error e) :
    ∃ raw, env.bytes? name = some raw.toUTF8 ∧ (∀ n, Denotes raw n → 2 ^ 64 ≤ n) ∧
      e = .config (.variable name raw) := by
  simp only [setting] at h
  split at h
  · cases h
  · next raw htext =>
    split at h
    · cases h
    · next hnumber =>
      cases h
      refine ⟨raw, text?_eq_some_iff.mp htext, fun n hn => ?_, rfl⟩
      by_contra hlt
      rw [number?_eq_some_iff.mpr ⟨hn, Nat.lt_of_not_le hlt⟩] at hnumber
      cases hnumber

/-- A variable sets something other than zero exactly if its bytes, where they are a text, denote
a positive number. -/
theorem exists_sets_iff {env : Environment} {name : String} :
    (∃ v, env.Sets name v ∧ v ≠ some 0) ↔
      ∀ raw : String, env.bytes? name = some raw.toUTF8 →
        ∃ n, Denotes raw n ∧ 0 < n ∧ n < 2 ^ 64 := by
  constructor
  · rintro ⟨v, hv, hne⟩ raw hraw
    cases v with
    | none =>
      rw [sets_none_iff, text?_eq_some_iff.mpr hraw] at hv
      cases hv
    | some n =>
      obtain ⟨raw', htext, hnumber⟩ := sets_some_iff.mp hv
      cases (text?_eq_some_iff.mpr hraw).symm.trans htext
      obtain ⟨hn, hlt⟩ := number?_eq_some_iff.mp hnumber
      exact ⟨n, hn, Nat.pos_of_ne_zero fun hzero => hne (congrArg some hzero), hlt⟩
  · intro h
    cases htext : env.text? name with
    | none => exact ⟨none, sets_none_iff.mpr htext, by simp⟩
    | some raw =>
      obtain ⟨n, hn, hpos, hlt⟩ := h raw (text?_eq_some_iff.mp htext)
      exact ⟨some n, .number (text?_eq_some_iff.mp htext) hn hlt, by simp [Nat.ne_of_gt hpos]⟩

end Environment

namespace TrackConfig

/-! ## All settings -/

def variableNames : List String :=
  [frameWidthVariable, incrementVariable, auditCapacityVariable]

/-- Settings with the given numbers, and the default where there is none. -/
def ofNumbers (frameWidth increment auditCapacity : Option Nat) : TrackConfig :=
  let defaults : TrackConfig := {}
  { defaults with
    frameWidth := frameWidth.getD defaults.frameWidth
    increment := increment.getD defaults.increment
    auditCapacity := auditCapacity.orElse fun _ => defaults.auditCapacity }

def checked (c : TrackConfig) : Except TrackError TrackConfig :=
  match c.fault? with
  | some fault => .error (.config (.setting fault))
  | none => .ok c

theorem ofEnvironment_eq (env : Environment) :
    ofEnvironment env =
      (env.setting frameWidthVariable).bind fun w =>
        (env.setting incrementVariable).bind fun i =>
          (env.setting auditCapacityVariable).bind fun a => (ofNumbers w i a).checked := rfl

/-- One of the variables is refused, or all are read and then checked together. -/
theorem ofEnvironment_cases (env : Environment) :
    (∃ name ∈ variableNames, ∃ e, env.setting name = .error e ∧ ofEnvironment env = .error e) ∨
      ∃ w i a, env.setting frameWidthVariable = .ok w ∧ env.setting incrementVariable = .ok i ∧
        env.setting auditCapacityVariable = .ok a ∧
        ofEnvironment env = (ofNumbers w i a).checked := by
  rw [ofEnvironment_eq]
  cases hwidth : env.setting frameWidthVariable with
  | error e => exact .inl ⟨frameWidthVariable, by simp [variableNames], e, hwidth, rfl⟩
  | ok w =>
    cases hincrement : env.setting incrementVariable with
    | error e => exact .inl ⟨incrementVariable, by simp [variableNames], e, hincrement, rfl⟩
    | ok i =>
      cases hcapacity : env.setting auditCapacityVariable with
      | error e => exact .inl ⟨auditCapacityVariable, by simp [variableNames], e, hcapacity, rfl⟩
      | ok a => exact .inr ⟨w, i, a, rfl, rfl, rfl, rfl⟩

theorem ofNumbers_usable {w i a : Option Nat} :
    (ofNumbers w i a).Usable ↔ w ≠ some 0 ∧ i ≠ some 0 ∧ a ≠ some 0 := by
  have hset : ∀ v : Option Nat, 0 < v.getD 1 ↔ v ≠ some 0 := by
    intro v
    cases v <;> simp [Nat.pos_iff_ne_zero]
  have hcapacity : (∀ n, (ofNumbers w i a).auditCapacity = some n → 0 < n) ↔ a ≠ some 0 := by
    cases a <;> simp [ofNumbers, Nat.pos_iff_ne_zero]
  constructor
  · rintro ⟨hwidth, hincrement, haudit⟩
    exact ⟨(hset w).mp hwidth, (hset i).mp hincrement, hcapacity.mp haudit⟩
  · rintro ⟨hw, hi, ha⟩
    exact ⟨(hset w).mpr hw, (hset i).mpr hi, hcapacity.mpr ha⟩

theorem ofEnvironment_ok_iff {env : Environment} {c : TrackConfig} :
    ofEnvironment env = .ok c ↔
      ∃ w i a, (env.Sets frameWidthVariable w ∧ w ≠ some 0) ∧
        (env.Sets incrementVariable i ∧ i ≠ some 0) ∧
        (env.Sets auditCapacityVariable a ∧ a ≠ some 0) ∧ c = ofNumbers w i a := by
  simp only [← Environment.setting_ok_iff]
  rcases ofEnvironment_cases env with
    ⟨name, hname, e, herror, hresult⟩ | ⟨w, i, a, hw, hi, ha, hresult⟩
  · rw [hresult]
    constructor
    · intro h
      cases h
    · rintro ⟨w, i, a, ⟨hw, _⟩, ⟨hi, _⟩, ⟨ha, _⟩, _⟩
      simp only [variableNames, List.mem_cons, List.not_mem_nil, or_false] at hname
      rcases hname with rfl | rfl | rfl
      · cases herror.symm.trans hw
      · cases herror.symm.trans hi
      · cases herror.symm.trans ha
  · rw [hresult, hw, hi, ha]
    have hchecked : (ofNumbers w i a).checked = .ok c ↔
        (ofNumbers w i a).Usable ∧ c = ofNumbers w i a := by
      rw [← fault?_eq_none, checked]
      cases (ofNumbers w i a).fault? with
      | none => simp [eq_comm]
      | some fault => simp
    rw [hchecked, ofNumbers_usable]
    simp only [Except.ok.injEq]
    constructor
    · rintro ⟨⟨hw, hi, ha⟩, hc⟩
      exact ⟨w, i, a, ⟨rfl, hw⟩, ⟨rfl, hi⟩, ⟨rfl, ha⟩, hc⟩
    · rintro ⟨_, _, _, ⟨rfl, hw⟩, ⟨rfl, hi⟩, ⟨rfl, ha⟩, hc⟩
      exact ⟨⟨hw, hi, ha⟩, hc⟩

end TrackConfig

/-! ## What is refused -/

def ConfigFault.variableName : ConfigFault → String
  | .zeroFrameWidth => TrackConfig.frameWidthVariable
  | .zeroIncrement => TrackConfig.incrementVariable
  | .zeroAuditCapacity => TrackConfig.auditCapacityVariable

/-- The problem lies in one of the variables: its text denotes no number in range, or zero. -/
inductive Environment.Blames (env : Environment) : ConfigProblem → Prop
  | unusable {name raw : String} (hname : name ∈ TrackConfig.variableNames)
      (h : env.bytes? name = some raw.toUTF8) (hn : ∀ n, Denotes raw n → 2 ^ 64 ≤ n) :
      Blames env (.variable name raw)
  | zero {fault : ConfigFault} {raw : String}
      (h : env.bytes? fault.variableName = some raw.toUTF8) (hn : Denotes raw 0) :
      Blames env (.setting fault)

namespace TrackConfig

theorem fault?_ofNumbers {w i a : Option Nat} {fault : ConfigFault}
    (h : (ofNumbers w i a).fault? = some fault) :
    (fault = .zeroFrameWidth ∧ w = some 0) ∨ (fault = .zeroIncrement ∧ i = some 0) ∨
      (fault = .zeroAuditCapacity ∧ a = some 0) := by
  have hzero : ∀ v : Option Nat, v.getD 1 = 0 → v = some 0 := by
    intro v hv
    cases v with
    | none => cases hv
    | some n => exact congrArg some hv
  simp only [fault?] at h
  split at h
  · next hwidth => exact .inl ⟨(Option.some.inj h).symm, hzero w hwidth⟩
  · split at h
    · next hincrement => exact .inr (.inl ⟨(Option.some.inj h).symm, hzero i hincrement⟩)
    · split at h
      · next hcapacity =>
        refine .inr (.inr ⟨(Option.some.inj h).symm, ?_⟩)
        cases a with
        | none => cases hcapacity
        | some n => exact hcapacity
      · cases h

theorem ofEnvironment_error {env : Environment} {e : TrackError}
    (h : ofEnvironment env = .error e) : ∃ p, e = .config p ∧ env.Blames p := by
  have hzero : ∀ {name}, env.setting name = .ok (some 0) →
      ∃ raw : String, env.bytes? name = some raw.toUTF8 ∧ Environment.Denotes raw 0 := by
    intro name hset
    obtain ⟨⟩ | ⟨⟩ | ⟨hbytes, hn, _⟩ := Environment.setting_ok_iff.mp hset
    exact ⟨_, hbytes, hn⟩
  rcases ofEnvironment_cases env with
    ⟨name, hname, e', herror, hresult⟩ | ⟨w, i, a, hw, hi, ha, hresult⟩
  · cases hresult.symm.trans h
    obtain ⟨raw, hbytes, hn, rfl⟩ := Environment.setting_error herror
    exact ⟨_, rfl, .unusable hname hbytes hn⟩
  · rw [hresult, checked] at h
    split at h
    · next fault hfault =>
      cases h
      refine ⟨_, rfl, ?_⟩
      rcases fault?_ofNumbers hfault with ⟨rfl, rfl⟩ | ⟨rfl, rfl⟩ | ⟨rfl, rfl⟩
      · obtain ⟨raw, hbytes, hn⟩ := hzero hw
        exact .zero hbytes hn
      · obtain ⟨raw, hbytes, hn⟩ := hzero hi
        exact .zero hbytes hn
      · obtain ⟨raw, hbytes, hn⟩ := hzero ha
        exact .zero hbytes hn
    · cases h

/-- Settings from an environment, with no file beside it, are exact where the variables hold
texts. They are read if and only if each of the three variables that holds a text denotes a
positive number of 64 bits; each setting is then its variable's number, and the default where the
variable is not set or its bytes are no text. Everything else is refused as a configuration that
is not valid, and the error blames a variable that is at fault. -/
theorem environment_exact (env : Environment) :
    ((∃ c, load none env = .ok c) ↔
      ∀ name ∈ variableNames, ∀ raw : String, env.bytes? name = some raw.toUTF8 →
        ∃ n, Environment.Denotes raw n ∧ 0 < n ∧ n < 2 ^ 64) ∧
    (∀ c, load none env = .ok c ↔
      ∃ w i a, (env.Sets frameWidthVariable w ∧ w ≠ some 0) ∧
        (env.Sets incrementVariable i ∧ i ≠ some 0) ∧
        (env.Sets auditCapacityVariable a ∧ a ≠ some 0) ∧ c = ofNumbers w i a) ∧
    ∀ e, load none env = .error e →
      e.kind = .invalidConfig ∧ ∃ p, e = .config p ∧ env.Blames p := by
  refine ⟨?_, fun c => ofEnvironment_ok_iff, fun e he => ?_⟩
  · simp only [← Environment.exists_sets_iff, variableNames, List.forall_mem_cons,
      List.not_mem_nil, false_implies, implies_true, and_true]
    constructor
    · rintro ⟨c, hc⟩
      obtain ⟨w, i, a, hw, hi, ha, _⟩ := ofEnvironment_ok_iff.mp hc
      exact ⟨⟨w, hw⟩, ⟨i, hi⟩, ⟨a, ha⟩⟩
    · rintro ⟨⟨w, hw⟩, ⟨i, hi⟩, ⟨a, ha⟩⟩
      exact ⟨_, ofEnvironment_ok_iff.mpr ⟨w, i, a, hw, hi, ha, rfl⟩⟩
  · obtain ⟨p, rfl, hp⟩ := ofEnvironment_error he
    exact ⟨rfl, p, rfl, hp⟩

/-- A width between blanks of several kinds, with a sign and leading zeros, an increment whose
bytes are no text, and no audit capacity. -/
def crowded : Environment :=
  ⟨[(incrementVariable, ⟨#[0x37, 0xFF]⟩), (frameWidthVariable, "\u2028 +0004\u3000".toUTF8)]⟩

def excessive : Environment := ⟨[(auditCapacityVariable, "18446744073709551616".toUTF8)]⟩

/-- Of the one environment the width is read and the increment is not, and the other is refused. -/
theorem environment_exact_crowded :
    load none crowded = .ok { frameWidth := 4 } ∧
      (∀ name ∈ variableNames, ∀ raw : String, crowded.bytes? name = some raw.toUTF8 →
        ∃ n, Environment.Denotes raw n ∧ 0 < n ∧ n < 2 ^ 64) ∧
      (∃ w i a, (crowded.Sets frameWidthVariable w ∧ w ≠ some 0) ∧
        (crowded.Sets incrementVariable i ∧ i ≠ some 0) ∧
        (crowded.Sets auditCapacityVariable a ∧ a ≠ some 0) ∧
        ofNumbers w i a = { frameWidth := 4 }) ∧
      ∃ p, load none excessive = .error (.config p) ∧ excessive.Blames p := by
  have hload : load none crowded = .ok { frameWidth := 4 } := by decide +kernel
  have hrefused : load none excessive =
      .error (.config (.variable auditCapacityVariable "18446744073709551616")) := by decide +kernel
  obtain ⟨hreadable, hexact, _⟩ := environment_exact crowded
  obtain ⟨_, _, herror⟩ := environment_exact excessive
  obtain ⟨w, i, a, hw, hi, ha, hc⟩ := (hexact _).mp hload
  obtain ⟨_, p, hp, hblames⟩ := herror _ hrefused
  exact ⟨hload, hreadable.mp ⟨_, hload⟩, ⟨w, i, a, hw, hi, ha, hc.symm⟩, p, hp ▸ hrefused, hblames⟩

/-- A width whose only byte is no text. -/
def unreadable : Environment := ⟨[(frameWidthVariable, ⟨#[0xFF]⟩)]⟩

/-- The width is set, to bytes that denote no number, and yet the settings are read without an
error, as if it were not. -/
theorem unreadable_ignored :
    unreadable.bytes? frameWidthVariable = some ⟨#[0xFF]⟩ ∧
      (¬ ∃ raw : String, raw.toUTF8 = ⟨#[0xFF]⟩ ∧ ∃ n, Environment.Denotes raw n) ∧
      load none unreadable = .ok {} := by
  have hbytes : unreadable.bytes? frameWidthVariable = some ⟨#[0xFF]⟩ := by decide +kernel
  have htext : unreadable.text? frameWidthVariable = none := by decide +kernel
  refine ⟨hbytes, ?_, by decide +kernel⟩
  rintro ⟨raw, hraw, _⟩
  rw [Environment.text?_eq_some_iff.mpr (hraw ▸ hbytes)] at htext
  cases htext

end TrackConfig
end BucketClock
