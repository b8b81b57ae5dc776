import OpmuxGateway.Construction.Core.Limits
import OpmuxGateway.Library.Outcomes

/-
This file proves that the loaded limits are the chosen values of their settings.
-/

namespace Opmux

open Except (bind_eq_ok)

/-- The documentation lists thirteen settings. -/
inductive Setting where
  | protectedRequestDeadline
  | maxAttemptTimeout
  | retriesPerTarget
  | maxTotalAttempts
  | maxFallbackTargets
  | backoffCap
  | circuitFailureThreshold
  | circuitCooldown
  | maxConcurrentGenerations
  | maxRequestBodyBytes
  | maxMetadataBytes
  | maxPromptChars
  | maxUpstreamResponseBytes
  deriving DecidableEq, Repr

namespace Setting

/-- The documented name, default, minimum, and maximum of a setting. -/
def documented : Setting → LimitBound
  | .protectedRequestDeadline => ⟨"protected_request_deadline_ms", 30000, 1, 300000⟩
  | .maxAttemptTimeout => ⟨"max_attempt_timeout_ms", 10000, 1, 120000⟩
  | .retriesPerTarget => ⟨"retries_per_target", 1, 0, 8⟩
  | .maxTotalAttempts => ⟨"max_total_attempts", 3, 1, 16⟩
  | .maxFallbackTargets => ⟨"max_fallback_targets", 2, 0, 8⟩
  | .backoffCap => ⟨"backoff_cap_ms", 2000, 1, 60000⟩
  | .circuitFailureThreshold => ⟨"circuit_failure_threshold", 3, 1, 100⟩
  | .circuitCooldown => ⟨"circuit_cooldown_ms", 30000, 1, 600000⟩
  | .maxConcurrentGenerations => ⟨"max_concurrent_generations", 32, 1, 1024⟩
  | .maxRequestBodyBytes => ⟨"max_request_body_bytes", 1048576, 1, 16777216⟩
  | .maxMetadataBytes => ⟨"max_metadata_bytes", 1000, 1, 1048576⟩
  | .maxPromptChars => ⟨"max_prompt_chars", 4000, 1, 1000000⟩
  | .maxUpstreamResponseBytes => ⟨"max_upstream_response_bytes", 1048576, 1, 16777216⟩

/-- Two settings have older names in the environment. -/
def compatible : Setting → List String
  | .maxAttemptTimeout => ["OPENAI_TIMEOUT_MS", "EXECUTOR_TIMEOUT_MS"]
  | .retriesPerTarget => ["EXECUTOR_MAX_RETRIES"]
  | _ => []

/-- The canonical name wins over the plain name and over the older names. -/
def aliases (setting : Setting) : List String :=
  ("OPMUX_" ++ String.ofList (setting.documented.name.toList.map Char.toUpper)) ::
    setting.documented.name :: setting.compatible

/-- The value of a setting in the limits object of the catalog. -/
def catalog : Setting → RawLimits → Option Nat
  | .protectedRequestDeadline => RawLimits.protectedRequestDeadlineMs
  | .maxAttemptTimeout => RawLimits.maxAttemptTimeoutMs
  | .retriesPerTarget => RawLimits.retriesPerTarget
  | .maxTotalAttempts => RawLimits.maxTotalAttempts
  | .maxFallbackTargets => RawLimits.maxFallbackTargets
  | .backoffCap => RawLimits.backoffCapMs
  | .circuitFailureThreshold => RawLimits.circuitFailureThreshold
  | .circuitCooldown => RawLimits.circuitCooldownMs
  | .maxConcurrentGenerations => RawLimits.maxConcurrentGenerations
  | .maxRequestBodyBytes => RawLimits.maxRequestBodyBytes
  | .maxMetadataBytes => RawLimits.maxMetadataBytes
  | .maxPromptChars => RawLimits.maxPromptChars
  | .maxUpstreamResponseBytes => RawLimits.maxUpstreamResponseBytes

/-- Loaded limits show a value of a setting in its unit. -/
def Shows (limits : PolicyLimits) (value : Nat) : Setting → Prop
  | .protectedRequestDeadline => limits.protectedRequestDeadline = Duration.fromMillis value
  | .maxAttemptTimeout => limits.maxAttemptTimeout = Duration.fromMillis value
  | .retriesPerTarget => limits.retriesPerTarget.toNat = value
  | .maxTotalAttempts => limits.maxTotalAttempts.toNat = value
  | .maxFallbackTargets => limits.maxFallbackTargets.toNat = value
  | .backoffCap => limits.backoffCap = Duration.fromMillis value
  | .circuitFailureThreshold => limits.circuitFailureThreshold.toNat = value
  | .circuitCooldown => limits.circuitCooldown = Duration.fromMillis value
  | .maxConcurrentGenerations => limits.maxConcurrentGenerations.toNat = value
  | .maxRequestBodyBytes => limits.maxRequestBodyBytes = value
  | .maxMetadataBytes => limits.maxMetadataBytes = value
  | .maxPromptChars => limits.maxPromptChars = value
  | .maxUpstreamResponseBytes => limits.maxUpstreamResponseBytes = value

/-- A value lies in the inclusive range of its setting. -/
def InRange (setting : Setting) (value : Nat) : Prop :=
  setting.documented.min ≤ value ∧ value ≤ setting.documented.max

end Setting

/-- A text is a value when its trimmed characters are the digits of that value. -/
def ParsesLimit (text : String) (value : Nat) : Prop :=
  trim text ≠ "" ∧ (∀ digit ∈ (trim text).toList, digit.isDigit) ∧
    digitsValue (trim text).toList = value ∧ value ≤ u64Max

/-- The first present alias decides a value, and the given value or the default is used else. -/
def ChoosesValue (env : EnvSource) (names : List String) (given : Option Nat)
    (default value : Nat) : Prop :=
  match names.findSome? env with
  | some text => ParsesLimit text value
  | none => value = given.getD default

/-- A setting loads when its catalog value and its chosen value lie in its range. -/
def Setting.Loads (setting : Setting) (raw : Option RawLimits) (env : EnvSource)
    (limits : PolicyLimits) : Prop :=
  (∀ given, raw.bind setting.catalog = some given → setting.InRange given) ∧
    ∃ value, ChoosesValue env setting.aliases (raw.bind setting.catalog)
      setting.documented.default value ∧ setting.InRange value ∧ setting.Shows limits value

section Parsing

theorem parseLimit_eq_ok {name text : String} {value : Nat} :
    parseLimit name text = .ok value ↔ ParsesLimit text value := by
  unfold parseLimit ParsesLimit
  generalize trim text = trimmed
  by_cases digits : trimmed ≠ "" ∧ ∀ digit ∈ trimmed.toList, digit.isDigit
  · obtain ⟨nonempty, digits⟩ := digits
    have checked : (trimmed.isEmpty || !trimmed.toList.all Char.isDigit) = false := by
      simpa [nonempty] using digits
    simp only [checked, parseU64, nonempty, ne_eq, not_false_eq_true, true_and]
    by_cases fits : digitsValue trimmed.toList ≤ u64Max
    · simp only [if_pos fits]
      constructor
      · rintro ⟨⟩
        exact ⟨fun _ member => digits _ member, rfl, fits⟩
      · rintro ⟨_, rfl, _⟩
        rfl
    · simp only [if_neg fits]
      constructor
      · rintro ⟨⟩
      · rintro ⟨_, rfl, small⟩
        exact absurd small fits
  · have checked : (trimmed.isEmpty || !trimmed.toList.all Char.isDigit) = true := by
      by_contra unchecked
      apply digits
      simpa using unchecked
    rw [if_pos checked]
    constructor
    · rintro ⟨⟩
    · rintro ⟨nonempty, all, _⟩
      exact absurd ⟨nonempty, all⟩ digits

/-- The first present name decides whether the environment has a value. -/
theorem envU64_eq_ok {env : EnvSource} {names : List String} {found : Option Nat} :
    envU64 env names = .ok found ↔
      match names.findSome? env with
      | some text => ∃ value, found = some value ∧ ParsesLimit text value
      | none => found = none := by
  induction names with
  | nil => simp [envU64, eq_comm]
  | cons name names ih =>
      rw [envU64, List.findSome?_cons]
      cases present : env name with
      | none => exact ih
      | some text =>
          simp only [bind_eq_ok, parseLimit_eq_ok]
          constructor
          · rintro ⟨value, parsed, ⟨⟩⟩
            exact ⟨value, rfl, parsed⟩
          · rintro ⟨value, rfl, parsed⟩
            exact ⟨value, parsed, rfl⟩

end Parsing

/-- A limit accepts exactly the values of its range, and its result shows the value. -/
structure Accepts {Value : Type} (limit : LimitBound → Nat → Except ConfigError Value)
    (bound : LimitBound) (Shown : Value → Nat → Prop) : Prop where
  accepts : ∀ value result, limit bound value = .ok result ↔
    (bound.min ≤ value ∧ value ≤ bound.max) ∧ Shown result value
  shown : ∀ value, value ≤ bound.max → ∃ result, Shown result value

section Limits

variable {bound : LimitBound}

theorem checkBound_eq_ok {value result : Nat} :
    checkBound bound value = .ok result ↔
      (bound.min ≤ value ∧ value ≤ bound.max) ∧ result = value := by
  unfold checkBound
  by_cases inside : bound.min ≤ value ∧ value ≤ bound.max
  · rw [if_neg (by omega)]
    simp [inside, eq_comm]
  · rw [if_pos (by omega)]
    simp [inside]

theorem checkBound_accepts : Accepts checkBound bound (fun result value => result = value) :=
  ⟨fun _ _ => checkBound_eq_ok, fun value _ => ⟨value, rfl⟩⟩

theorem durationLimit_accepts : Accepts PolicyLimits.durationLimit bound
    (fun result value => result = Duration.fromMillis value) := by
  refine ⟨fun value result => ?_, fun value _ => ⟨Duration.fromMillis value, rfl⟩⟩
  unfold PolicyLimits.durationLimit
  simp only [bind_eq_ok, checkBound_eq_ok]
  constructor
  · rintro ⟨_, ⟨inside, rfl⟩, ⟨⟩⟩
    exact ⟨inside, rfl⟩
  · rintro ⟨inside, rfl⟩
    exact ⟨value, ⟨inside, rfl⟩, rfl⟩

/-- A count below the machine limit is narrowed without a change. -/
theorem countLimit_accepts (small : bound.max ≤ u32Max) : Accepts PolicyLimits.countLimit bound
    (fun result value => result.toNat = value) := by
  have narrow : ∀ value, value ≤ bound.max → (UInt32.ofNat value).toNat = value := by
    intro value inside
    have limit : u32Max = 2 ^ 32 - 1 := rfl
    rw [UInt32.toNat_ofNat']
    omega
  refine ⟨fun value result => ?_, fun value inside => ⟨UInt32.ofNat value, narrow value inside⟩⟩
  unfold PolicyLimits.countLimit toU32
  simp only [bind_eq_ok, checkBound_eq_ok]
  constructor
  · rintro ⟨_, ⟨inside, rfl⟩, converted⟩
    rw [if_pos (inside.2.trans small)] at converted
    cases converted
    exact ⟨inside, narrow _ inside.2⟩
  · rintro ⟨inside, rfl⟩
    refine ⟨result.toNat, ⟨inside, rfl⟩, ?_⟩
    rw [if_pos (inside.2.trans small), UInt32.ofNat_toNat]

/-- A loaded setting is the chosen value of its checked catalog value and its environment. -/
theorem loads_iff {Value : Type} {limit : LimitBound → Nat → Except ConfigError Value}
    {Shown : Value → Nat → Prop} (accepts : Accepts limit bound Shown)
    (least : bound.min ≤ bound.default) (most : bound.default ≤ bound.max)
    {env : EnvSource} {names : List String} {given : Option Nat} {result : Value} :
    (∃ current, PolicyLimits.rawLimit limit bound given = .ok current ∧
      PolicyLimits.envLimit env names limit bound current = .ok result) ↔
    (∀ value, given = some value → bound.min ≤ value ∧ value ≤ bound.max) ∧
      ∃ value, ChoosesValue env names given bound.default value ∧
        (bound.min ≤ value ∧ value ≤ bound.max) ∧ Shown result value := by
  have inside : (∀ value, given = some value → bound.min ≤ value ∧ value ≤ bound.max) ↔
      bound.min ≤ given.getD bound.default ∧ given.getD bound.default ≤ bound.max := by
    cases given with
    | none => simp [least, most]
    | some value => simp
  unfold PolicyLimits.rawLimit PolicyLimits.envLimit ChoosesValue
  rw [inside]
  simp only [bind_eq_ok, envU64_eq_ok, accepts.accepts]
  cases names.findSome? env with
  | none =>
      constructor
      · rintro ⟨current, ⟨checked, shown⟩, _, rfl, ⟨⟩⟩
        exact ⟨checked, _, rfl, checked, shown⟩
      · rintro ⟨checked, _, rfl, _, shown⟩
        exact ⟨result, ⟨checked, shown⟩, none, rfl, rfl⟩
  | some text =>
      constructor
      · rintro ⟨current, ⟨checked, _⟩, _, ⟨value, rfl, parsed⟩, replaced⟩
        obtain ⟨allowed, shown⟩ := (accepts.accepts value result).mp replaced
        exact ⟨checked, value, parsed, allowed, shown⟩
      · rintro ⟨checked, value, parsed, allowed, shown⟩
        obtain ⟨current, started⟩ := accepts.shown _ checked.2
        exact ⟨current, ⟨checked, started⟩, some value, ⟨value, rfl, parsed⟩,
          (accepts.accepts value result).mpr ⟨allowed, shown⟩⟩

end Limits

namespace Setting

/-- Every documented default lies in its own documented range. -/
theorem documented_default (setting : Setting) : setting.InRange setting.documented.default := by
  unfold InRange
  cases setting <;> decide

/-- Every documented maximum fits the machine types of the limits. -/
theorem documented_max (setting : Setting) : setting.documented.max ≤ u32Max := by
  cases setting <;> decide

variable {raw : Option RawLimits} {env : EnvSource} {limits : PolicyLimits}

/-- The two blocks of a setting read its catalog value first and its environment then. -/
def Read {Value : Type} (setting : Setting) (raw : Option RawLimits) (env : EnvSource)
    (limit : LimitBound → Nat → Except ConfigError Value) (result : Value) : Prop :=
  ∃ current,
    PolicyLimits.rawLimit limit setting.documented (setting.catalog (raw.getD .empty)) =
      .ok current ∧
    PolicyLimits.envLimit env setting.aliases limit setting.documented current = .ok result

/-- Each setting is read into its field by the limit of its type. -/
def Blocks (setting : Setting) (raw : Option RawLimits) (env : EnvSource)
    (limits : PolicyLimits) : Prop :=
  match setting with
  | .protectedRequestDeadline =>
      setting.Read raw env PolicyLimits.durationLimit limits.protectedRequestDeadline
  | .maxAttemptTimeout => setting.Read raw env PolicyLimits.durationLimit limits.maxAttemptTimeout
  | .retriesPerTarget => setting.Read raw env PolicyLimits.countLimit limits.retriesPerTarget
  | .maxTotalAttempts => setting.Read raw env PolicyLimits.countLimit limits.maxTotalAttempts
  | .maxFallbackTargets => setting.Read raw env PolicyLimits.countLimit limits.maxFallbackTargets
  | .backoffCap => setting.Read raw env PolicyLimits.durationLimit limits.backoffCap
  | .circuitFailureThreshold =>
      setting.Read raw env PolicyLimits.countLimit limits.circuitFailureThreshold
  | .circuitCooldown => setting.Read raw env PolicyLimits.durationLimit limits.circuitCooldown
  | .maxConcurrentGenerations =>
      setting.Read raw env PolicyLimits.countLimit limits.maxConcurrentGenerations
  | .maxRequestBodyBytes => setting.Read raw env checkBound limits.maxRequestBodyBytes
  | .maxMetadataBytes => setting.Read raw env checkBound limits.maxMetadataBytes
  | .maxPromptChars => setting.Read raw env checkBound limits.maxPromptChars
  | .maxUpstreamResponseBytes => setting.Read raw env checkBound limits.maxUpstreamResponseBytes

/-- A catalog value is absent from an absent limits object. -/
theorem catalog_getD (setting : Setting) :
    setting.catalog (raw.getD .empty) = raw.bind setting.catalog := by
  cases raw with
  | none => cases setting <;> rfl
  | some limits => rfl

/-- A setting that is read shows its chosen value. -/
theorem read_iff {Value : Type} {limit : LimitBound → Nat → Except ConfigError Value}
    {Shown : Value → Nat → Prop} {result : Value} (setting : Setting)
    (accepts : Accepts limit setting.documented Shown)
    (shows : ∀ value, Shown result value ↔ setting.Shows limits value) :
    setting.Read raw env limit result ↔ setting.Loads raw env limits := by
  obtain ⟨least, most⟩ := setting.documented_default
  rw [Read, loads_iff accepts least most, catalog_getD]
  simp only [shows]
  rfl

theorem blocks_iff (setting : Setting) :
    setting.Blocks raw env limits ↔ setting.Loads raw env limits := by
  cases setting with
  | protectedRequestDeadline | maxAttemptTimeout | backoffCap | circuitCooldown =>
      exact read_iff _ durationLimit_accepts fun _ => Iff.rfl
  | maxRequestBodyBytes | maxMetadataBytes | maxPromptChars | maxUpstreamResponseBytes =>
      exact read_iff _ checkBound_accepts fun _ => Iff.rfl
  | retriesPerTarget | maxTotalAttempts | maxFallbackTargets | circuitFailureThreshold |
      maxConcurrentGenerations =>
      exact read_iff _ (countLimit_accepts (documented_max _)) fun _ => Iff.rfl

end Setting

/-- The blocks of the source read each setting once. -/
theorem load_blocks {raw : Option RawLimits} {env : EnvSource} {limits : PolicyLimits} :
    PolicyLimits.load raw env = .ok limits ↔
      ∀ setting : Setting, setting.Blocks raw env limits := by
  unfold PolicyLimits.load PolicyLimits.fromRaw PolicyLimits.applyEnvOverrides
  simp only [bind_eq_ok]
  constructor
  · rintro ⟨_, ⟨_, deadline, _, attempt, _, retries, _, total, _, fallbacks, _, backoff, _,
      threshold, _, cooldown, _, concurrent, _, body, _, metadata, _, prompt, _, response, ⟨⟩⟩,
      _, deadline', _, attempt', _, retries', _, total', _, fallbacks', _, backoff', _,
      threshold', _, cooldown', _, concurrent', _, body', _, metadata', _, prompt', _, response',
      ⟨⟩⟩ setting
    cases setting with
    | protectedRequestDeadline => exact ⟨_, deadline, deadline'⟩
    | maxAttemptTimeout => exact ⟨_, attempt, attempt'⟩
    | retriesPerTarget => exact ⟨_, retries, retries'⟩
    | maxTotalAttempts => exact ⟨_, total, total'⟩
    | maxFallbackTargets => exact ⟨_, fallbacks, fallbacks'⟩
    | backoffCap => exact ⟨_, backoff, backoff'⟩
    | circuitFailureThreshold => exact ⟨_, threshold, threshold'⟩
    | circuitCooldown => exact ⟨_, cooldown, cooldown'⟩
    | maxConcurrentGenerations => exact ⟨_, concurrent, concurrent'⟩
    | maxRequestBodyBytes => exact ⟨_, body, body'⟩
    | maxMetadataBytes => exact ⟨_, metadata, metadata'⟩
    | maxPromptChars => exact ⟨_, prompt, prompt'⟩
    | maxUpstreamResponseBytes => exact ⟨_, response, response'⟩
  · intro blocks
    obtain ⟨_, deadline, deadline'⟩ := blocks .protectedRequestDeadline
    obtain ⟨_, attempt, attempt'⟩ := blocks .maxAttemptTimeout
    obtain ⟨_, retries, retries'⟩ := blocks .retriesPerTarget
    obtain ⟨_, total, total'⟩ := blocks .maxTotalAttempts
    obtain ⟨_, fallbacks, fallbacks'⟩ := blocks .maxFallbackTargets
    obtain ⟨_, backoff, backoff'⟩ := blocks .backoffCap
    obtain ⟨_, threshold, threshold'⟩ := blocks .circuitFailureThreshold
    obtain ⟨_, cooldown, cooldown'⟩ := blocks .circuitCooldown
    obtain ⟨_, concurrent, concurrent'⟩ := blocks .maxConcurrentGenerations
    obtain ⟨_, body, body'⟩ := blocks .maxRequestBodyBytes
    obtain ⟨_, metadata, metadata'⟩ := blocks .maxMetadataBytes
    obtain ⟨_, prompt, prompt'⟩ := blocks .maxPromptChars
    obtain ⟨_, response, response'⟩ := blocks .maxUpstreamResponseBytes
    exact ⟨_, ⟨_, deadline, _, attempt, _, retries, _, total, _, fallbacks, _, backoff, _,
      threshold, _, cooldown, _, concurrent, _, body, _, metadata, _, prompt, _, response, rfl⟩,
      _, deadline', _, attempt', _, retries', _, total', _, fallbacks', _, backoff', _,
      threshold', _, cooldown', _, concurrent', _, body', _, metadata', _, prompt', _, response',
      rfl⟩

/-- The limits load exactly when each of the thirteen settings loads. -/
theorem load_eq_ok {raw : Option RawLimits} {env : EnvSource} {limits : PolicyLimits} :
    PolicyLimits.load raw env = .ok limits ↔
      ∀ setting : Setting, setting.Loads raw env limits := by
  simp only [load_blocks, Setting.blocks_iff]

end Opmux
