import OpmuxGateway.Construction.Core.Catalog
import OpmuxGateway.Construction.Core.ConfigError

/-
This file gives the bounds of the policy limits and their loading from the catalog and the
environment.
-/

namespace Opmux

/-- A limit bound has the name, the default, and the inclusive range of one setting. -/
structure LimitBound where
  name : String
  default : Nat
  min : Nat
  max : Nat
  deriving DecidableEq, Repr

namespace LimitBound

def protectedRequestDeadlineMs : LimitBound :=
  ⟨"protected_request_deadline_ms", 30000, 1, 300000⟩

def maxAttemptTimeoutMs : LimitBound :=
  ⟨"max_attempt_timeout_ms", 10000, 1, 120000⟩

def retriesPerTarget : LimitBound :=
  ⟨"retries_per_target", 1, 0, 8⟩

def maxTotalAttempts : LimitBound :=
  ⟨"max_total_attempts", 3, 1, 16⟩

def maxFallbackTargets : LimitBound :=
  ⟨"max_fallback_targets", 2, 0, 8⟩

def backoffCapMs : LimitBound :=
  ⟨"backoff_cap_ms", 2000, 1, 60000⟩

def circuitFailureThreshold : LimitBound :=
  ⟨"circuit_failure_threshold", 3, 1, 100⟩

def circuitCooldownMs : LimitBound :=
  ⟨"circuit_cooldown_ms", 30000, 1, 600000⟩

def maxConcurrentGenerations : LimitBound :=
  ⟨"max_concurrent_generations", 32, 1, 1024⟩

def maxRequestBodyBytes : LimitBound :=
  ⟨"max_request_body_bytes", 1048576, 1, 16777216⟩

def maxMetadataBytes : LimitBound :=
  ⟨"max_metadata_bytes", 1000, 1, 1048576⟩

def maxPromptChars : LimitBound :=
  ⟨"max_prompt_chars", 4000, 1, 1000000⟩

def maxUpstreamResponseBytes : LimitBound :=
  ⟨"max_upstream_response_bytes", 1048576, 1, 16777216⟩

end LimitBound

/-- The limits object of the catalog may omit each setting. -/
structure RawLimits where
  protectedRequestDeadlineMs : Option Nat
  maxAttemptTimeoutMs : Option Nat
  retriesPerTarget : Option Nat
  maxTotalAttempts : Option Nat
  maxFallbackTargets : Option Nat
  backoffCapMs : Option Nat
  circuitFailureThreshold : Option Nat
  circuitCooldownMs : Option Nat
  maxConcurrentGenerations : Option Nat
  maxRequestBodyBytes : Option Nat
  maxMetadataBytes : Option Nat
  maxPromptChars : Option Nat
  maxUpstreamResponseBytes : Option Nat
  deriving DecidableEq, Repr

def RawLimits.empty : RawLimits :=
  ⟨none, none, none, none, none, none, none, none, none, none, none, none, none⟩

def checkBound (bound : LimitBound) (value : Nat) : Except ConfigError Nat :=
  if value < bound.min ∨ bound.max < value then .error (.invalidLimit bound.name) else .ok value

def toU32 (value : Nat) : Except ConfigError UInt32 :=
  if value ≤ u32Max then .ok (UInt32.ofNat value) else .error (.invalidLimit "numeric_limit")

/-- A value is a trimmed and nonempty string of digits that fits its type. -/
def parseLimit (name raw : String) : Except ConfigError Nat :=
  let trimmed := trim raw
  if trimmed.isEmpty || !trimmed.toList.all Char.isDigit then .error (.invalidLimit name)
  else
    match parseU64 trimmed with
    | some value => .ok value
    | none => .error (.invalidLimit name)

/-- The first present name decides the value. -/
def envU64 (env : EnvSource) : List String → Except ConfigError (Option Nat)
  | [] => .ok none
  | name :: names =>
      match env name with
      | some raw => do return some (← parseLimit name raw)
      | none => envU64 env names

namespace PolicyLimits

def durationLimit (bound : LimitBound) (value : Nat) : Except ConfigError Duration := do
  return Duration.fromMillis (← checkBound bound value)

def countLimit (bound : LimitBound) (value : Nat) : Except ConfigError UInt32 := do
  toU32 (← checkBound bound value)

/-- The catalog value of a setting is checked, or its default is. -/
def rawLimit {Value : Type} (limit : LimitBound → Nat → Except ConfigError Value)
    (bound : LimitBound) (given : Option Nat) : Except ConfigError Value :=
  limit bound (given.getD bound.default)

/-- A present environment value replaces the current value of its setting. -/
def envLimit {Value : Type} (env : EnvSource) (names : List String)
    (limit : LimitBound → Nat → Except ConfigError Value) (bound : LimitBound) (current : Value) :
    Except ConfigError Value := do
  match ← envU64 env names with
  | some value => limit bound value
  | none => .ok current

def fromRaw (raw : Option RawLimits) : Except ConfigError PolicyLimits := do
  let raw := raw.getD .empty
  let protectedRequestDeadline ←
    rawLimit durationLimit .protectedRequestDeadlineMs raw.protectedRequestDeadlineMs
  let maxAttemptTimeout ← rawLimit durationLimit .maxAttemptTimeoutMs raw.maxAttemptTimeoutMs
  let retriesPerTarget ← rawLimit countLimit .retriesPerTarget raw.retriesPerTarget
  let maxTotalAttempts ← rawLimit countLimit .maxTotalAttempts raw.maxTotalAttempts
  let maxFallbackTargets ← rawLimit countLimit .maxFallbackTargets raw.maxFallbackTargets
  let backoffCap ← rawLimit durationLimit .backoffCapMs raw.backoffCapMs
  let circuitFailureThreshold ←
    rawLimit countLimit .circuitFailureThreshold raw.circuitFailureThreshold
  let circuitCooldown ← rawLimit durationLimit .circuitCooldownMs raw.circuitCooldownMs
  let maxConcurrentGenerations ←
    rawLimit countLimit .maxConcurrentGenerations raw.maxConcurrentGenerations
  let maxRequestBodyBytes ← rawLimit checkBound .maxRequestBodyBytes raw.maxRequestBodyBytes
  let maxMetadataBytes ← rawLimit checkBound .maxMetadataBytes raw.maxMetadataBytes
  let maxPromptChars ← rawLimit checkBound .maxPromptChars raw.maxPromptChars
  let maxUpstreamResponseBytes ←
    rawLimit checkBound .maxUpstreamResponseBytes raw.maxUpstreamResponseBytes
  return {
    protectedRequestDeadline, maxAttemptTimeout, retriesPerTarget, maxTotalAttempts,
    maxFallbackTargets, backoffCap, circuitFailureThreshold, circuitCooldown,
    maxConcurrentGenerations, maxRequestBodyBytes, maxMetadataBytes, maxPromptChars,
    maxUpstreamResponseBytes }

/-- The names of a setting are read in the order of these lists. -/
def applyEnvOverrides (limits : PolicyLimits) (env : EnvSource) :
    Except ConfigError PolicyLimits := do
  let protectedRequestDeadline ← envLimit env
    ["OPMUX_PROTECTED_REQUEST_DEADLINE_MS", LimitBound.protectedRequestDeadlineMs.name]
    durationLimit .protectedRequestDeadlineMs limits.protectedRequestDeadline
  let maxAttemptTimeout ← envLimit env
    ["OPMUX_MAX_ATTEMPT_TIMEOUT_MS", LimitBound.maxAttemptTimeoutMs.name, "OPENAI_TIMEOUT_MS",
      "EXECUTOR_TIMEOUT_MS"]
    durationLimit .maxAttemptTimeoutMs limits.maxAttemptTimeout
  let retriesPerTarget ← envLimit env
    ["OPMUX_RETRIES_PER_TARGET", LimitBound.retriesPerTarget.name, "EXECUTOR_MAX_RETRIES"]
    countLimit .retriesPerTarget limits.retriesPerTarget
  let maxTotalAttempts ← envLimit env
    ["OPMUX_MAX_TOTAL_ATTEMPTS", LimitBound.maxTotalAttempts.name]
    countLimit .maxTotalAttempts limits.maxTotalAttempts
  let maxFallbackTargets ← envLimit env
    ["OPMUX_MAX_FALLBACK_TARGETS", LimitBound.maxFallbackTargets.name]
    countLimit .maxFallbackTargets limits.maxFallbackTargets
  let backoffCap ← envLimit env
    ["OPMUX_BACKOFF_CAP_MS", LimitBound.backoffCapMs.name]
    durationLimit .backoffCapMs limits.backoffCap
  let circuitFailureThreshold ← envLimit env
    ["OPMUX_CIRCUIT_FAILURE_THRESHOLD", LimitBound.circuitFailureThreshold.name]
    countLimit .circuitFailureThreshold limits.circuitFailureThreshold
  let circuitCooldown ← envLimit env
    ["OPMUX_CIRCUIT_COOLDOWN_MS", LimitBound.circuitCooldownMs.name]
    durationLimit .circuitCooldownMs limits.circuitCooldown
  let maxConcurrentGenerations ← envLimit env
    ["OPMUX_MAX_CONCURRENT_GENERATIONS", LimitBound.maxConcurrentGenerations.name]
    countLimit .maxConcurrentGenerations limits.maxConcurrentGenerations
  let maxRequestBodyBytes ← envLimit env
    ["OPMUX_MAX_REQUEST_BODY_BYTES", LimitBound.maxRequestBodyBytes.name]
    checkBound .maxRequestBodyBytes limits.maxRequestBodyBytes
  let maxMetadataBytes ← envLimit env
    ["OPMUX_MAX_METADATA_BYTES", LimitBound.maxMetadataBytes.name]
    checkBound .maxMetadataBytes limits.maxMetadataBytes
  let maxPromptChars ← envLimit env
    ["OPMUX_MAX_PROMPT_CHARS", LimitBound.maxPromptChars.name]
    checkBound .maxPromptChars limits.maxPromptChars
  let maxUpstreamResponseBytes ← envLimit env
    ["OPMUX_MAX_UPSTREAM_RESPONSE_BYTES", LimitBound.maxUpstreamResponseBytes.name]
    checkBound .maxUpstreamResponseBytes limits.maxUpstreamResponseBytes
  return {
    protectedRequestDeadline, maxAttemptTimeout, retriesPerTarget, maxTotalAttempts,
    maxFallbackTargets, backoffCap, circuitFailureThreshold, circuitCooldown,
    maxConcurrentGenerations, maxRequestBodyBytes, maxMetadataBytes, maxPromptChars,
    maxUpstreamResponseBytes }

/-- The catalog limits are checked before the environment overrides them. -/
def load (raw : Option RawLimits) (env : EnvSource) : Except ConfigError PolicyLimits := do
  (← fromRaw raw).applyEnvOverrides env

def protectedRequestDeadlineMs (limits : PolicyLimits) : Nat :=
  durationMs limits.protectedRequestDeadline

def circuitCooldownMs (limits : PolicyLimits) : Nat := durationMs limits.circuitCooldown

end PolicyLimits

end Opmux
