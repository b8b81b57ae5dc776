import OpmuxGateway.Construction.Executor.BoundedBody
import OpmuxGateway.Construction.Executor.Budget
import OpmuxGateway.Construction.Executor.Repository
import OpmuxGateway.Proof.Core.Limits

/-
This file proves that the executor converts loaded limits without a loss.
-/

namespace Opmux.Executor

/-- A duration of whole milliseconds below the machine limit survives its conversion. -/
theorem durationMs_fromMillis {ms : Nat} (small : ms ≤ u32Max) :
    PolicyLimits.durationMs (Duration.fromMillis ms) = ms := by
  have limit : u32Max = 2 ^ 32 - 1 := rfl
  unfold PolicyLimits.durationMs Duration.asMillis Duration.fromMillis
  rw [Nat.mul_div_cancel_left ms Duration.millisecond_pos, Nat.mod_eq_of_lt (by omega)]

/-- The executor converts each limit of its settings to an equal value. -/
structure Lossless (settings : Settings) : Prop where
  deadline : Duration.fromMillis settings.limits.protectedRequestDeadlineMs =
    settings.limits.protectedRequestDeadline
  attempt : Duration.fromMillis (ExecutorConfig.fromSettings settings).timeoutMs =
    settings.limits.maxAttemptTimeout
  elapsed : ∀ timeout, timeout ≤ settings.limits.maxAttemptTimeout →
    Duration.asMillis timeout % 2 ^ 64 = Duration.asMillis timeout
  backoff : Duration.fromMillis (ExecutorConfig.fromSettings settings).backoffCapMs =
    settings.limits.backoffCap
  cap : durationMs settings.limits.backoffCap =
    (ExecutorConfig.fromSettings settings).backoffCapMs
  window : ∀ retryIndex, 0 < retryIndex →
    retryIndex ≤ (ExecutorConfig.fromSettings settings).maxRetries.toNat →
    backoffWindowMs retryIndex (ExecutorConfig.fromSettings settings).backoffCapMs =
      min (1000 * 2 ^ (retryIndex - 1)) (ExecutorConfig.fromSettings settings).backoffCapMs
  jitter : (ExecutorConfig.fromSettings settings).backoffCapMs + 1 < u64Max
  attempts : (ExecutorConfig.fromSettings settings).maxRetries.toNat + 1 ≤ u32Max
  budget : (AttemptBudget.new (ExecutorConfig.fromSettings settings).maxTotalAttempts).maxTotal =
    settings.limits.maxTotalAttempts
  started : ∀ started < settings.limits.maxTotalAttempts,
    (saturatingAdd started 1).toNat = started.toNat + 1
  failures : ∀ failures < settings.limits.circuitFailureThreshold,
    (saturatingAdd failures 1).toNat = failures.toNat + 1
  threshold : (Circuit.TargetCircuitRegistry.fromConfig settings.limits.circuitFailureThreshold
    settings.limits.circuitCooldownMs).threshold = settings.limits.circuitFailureThreshold
  cooldown : (Circuit.TargetCircuitRegistry.fromConfig settings.limits.circuitFailureThreshold
    settings.limits.circuitCooldownMs).cooldown = settings.limits.circuitCooldown
  hint : (Circuit.TargetCircuitRegistry.fromConfig settings.limits.circuitFailureThreshold
    settings.limits.circuitCooldownMs).cooldownRetryAfterMs = settings.limits.circuitCooldownMs
  body : min settings.limits.maxUpstreamResponseBytes usizeMax =
    settings.limits.maxUpstreamResponseBytes

/-- A small power of two is not clipped by the machine limit. -/
theorem backoffWindowMs_small {retryIndex capMs : Nat} (few : retryIndex ≤ 8) :
    backoffWindowMs retryIndex capMs = min (1000 * 2 ^ (retryIndex - 1)) capMs := by
  have limit : u64Max = 2 ^ 64 - 1 := rfl
  have power : 2 ^ (retryIndex - 1) ≤ 2 ^ 7 := Nat.pow_le_pow_right (by omega) (by omega)
  have unclipped : min (1000 * 2 ^ (retryIndex - 1)) u64Max = 1000 * 2 ^ (retryIndex - 1) :=
    Nat.min_eq_left (by omega)
  unfold backoffWindowMs
  rw [Nat.min_eq_left (by omega : 2 ^ (retryIndex - 1) ≤ u64Max), unclipped]

theorem saturatingAdd_below {counter bound : UInt32} (below : counter < bound) :
    (saturatingAdd counter 1).toNat = counter.toNat + 1 :=
  saturatingAdd_one (UInt32.lt_iff_toNat_lt.mp below)

section Loaded

variable {raw : Option RawLimits} {env : EnvSource} {limits : PolicyLimits}

/-- A loaded setting shows a value of its documented range. -/
theorem loaded_value (loaded : PolicyLimits.load raw env = .ok limits) (setting : Setting) :
    ∃ value, setting.InRange value ∧ setting.Shows limits value := by
  obtain ⟨_, value, _, inside, shown⟩ := load_eq_ok.mp loaded setting
  exact ⟨value, inside, shown⟩

/-- A bound of at least one is its own maximum with one. -/
theorem max_one {count : UInt32} (positive : 1 ≤ count.toNat) : max count 1 = count := by
  apply UInt32.toNat_inj.mp
  rw [max_one_toNat]
  omega

/-- The settings with loaded limits are converted without a loss. -/
theorem loaded_lossless {settings : Settings}
    (loaded : PolicyLimits.load raw env = .ok settings.limits) : Lossless settings := by
  have limit : u32Max = 2 ^ 32 - 1 := rfl
  have large : u64Max = 2 ^ 64 - 1 := rfl
  obtain ⟨deadline, ⟨_, deadlineMax⟩, deadlineShown⟩ :=
    loaded_value loaded .protectedRequestDeadline
  obtain ⟨attempt, ⟨_, attemptMax⟩, attemptShown⟩ := loaded_value loaded .maxAttemptTimeout
  obtain ⟨retries, ⟨_, retriesMax⟩, retriesShown⟩ := loaded_value loaded .retriesPerTarget
  obtain ⟨total, ⟨totalMin, _⟩, totalShown⟩ := loaded_value loaded .maxTotalAttempts
  obtain ⟨backoff, ⟨_, backoffMax⟩, backoffShown⟩ := loaded_value loaded .backoffCap
  obtain ⟨threshold, ⟨thresholdMin, _⟩, thresholdShown⟩ :=
    loaded_value loaded .circuitFailureThreshold
  obtain ⟨cooldown, ⟨cooldownMin, cooldownMax⟩, cooldownShown⟩ :=
    loaded_value loaded .circuitCooldown
  obtain ⟨body, ⟨_, bodyMax⟩, bodyShown⟩ := loaded_value loaded .maxUpstreamResponseBytes
  simp only [Setting.documented, Setting.Shows] at *
  exact {
    deadline := by
      rw [PolicyLimits.protectedRequestDeadlineMs, deadlineShown, durationMs_fromMillis (by omega)]
    attempt := by
      rw [ExecutorConfig.fromSettings, PolicyLimits.maxAttemptTimeoutMs, attemptShown,
        durationMs_fromMillis (by omega)]
    elapsed := by
      intro timeout within
      have short : Duration.asMillis timeout ≤ 120000 := by
        rw [attemptShown] at within
        have order := (Nat.div_le_div_right within).trans_eq
          (Nat.mul_div_cancel_left attempt Duration.millisecond_pos)
        exact order.trans attemptMax
      exact Nat.mod_eq_of_lt (by omega)
    backoff := by
      rw [ExecutorConfig.fromSettings, PolicyLimits.backoffCapMs, backoffShown,
        durationMs_fromMillis (by omega)]
    cap := by
      rw [ExecutorConfig.fromSettings, PolicyLimits.backoffCapMs, backoffShown,
        durationMs_fromMillis (by omega), durationMs, Duration.asMillis, Duration.fromMillis,
        Nat.mul_div_cancel_left backoff Duration.millisecond_pos, clampU64, Nat.min_eq_left]
      omega
    window := by
      intro retryIndex _ within
      rw [ExecutorConfig.fromSettings] at within
      exact backoffWindowMs_small (within.trans (retriesShown.trans_le retriesMax))
    jitter := by
      rw [ExecutorConfig.fromSettings, PolicyLimits.backoffCapMs, backoffShown,
        durationMs_fromMillis (by omega)]
      change backoff + 1 < u64Max
      omega
    attempts := by
      rw [ExecutorConfig.fromSettings]
      change settings.limits.retriesPerTarget.toNat + 1 ≤ u32Max
      omega
    budget := max_one (totalMin.trans_eq totalShown.symm)
    started := fun _ below => saturatingAdd_below below
    failures := fun _ below => saturatingAdd_below below
    threshold := max_one (thresholdMin.trans_eq thresholdShown.symm)
    cooldown := by
      rw [Circuit.TargetCircuitRegistry.fromConfig, PolicyLimits.circuitCooldownMs, cooldownShown,
        durationMs_fromMillis (by omega)]
    hint := by
      have same : (Circuit.TargetCircuitRegistry.fromConfig settings.limits.circuitFailureThreshold
          settings.limits.circuitCooldownMs).cooldown = Duration.fromMillis cooldown := by
        rw [Circuit.TargetCircuitRegistry.fromConfig, PolicyLimits.circuitCooldownMs,
          cooldownShown, durationMs_fromMillis (by omega)]
      rw [Circuit.TargetCircuitRegistry.cooldownRetryAfterMs, same,
        PolicyLimits.circuitCooldownMs, cooldownShown, durationMs_fromMillis (by omega),
        Duration.asMillis, Duration.fromMillis,
        Nat.mul_div_cancel_left cooldown Duration.millisecond_pos, clampU64]
      omega
    body := by
      have words : usizeMax = 2 ^ 64 - 1 := rfl
      change min settings.limits.maxUpstreamResponseBytes usizeMax =
        settings.limits.maxUpstreamResponseBytes
      omega }

end Loaded

/-- Limits load exactly as their settings ask, and the executor converts them without a loss. -/
theorem policy_limits (raw : Option RawLimits) (env : EnvSource) :
    (∀ limits, PolicyLimits.load raw env = .ok limits ↔
      ∀ setting : Setting, setting.Loads raw env limits) ∧
    ∀ settings : Settings, PolicyLimits.load raw env = .ok settings.limits → Lossless settings :=
  ⟨fun _ => load_eq_ok, fun _ => loaded_lossless⟩

/-- The documented defaults load, and an older name of the environment overrides one of them. -/
example : PolicyLimits.load none
    (fun key => if key = "EXECUTOR_MAX_RETRIES" then some " 0 " else none) =
    .ok ⟨Duration.fromMillis 30000, Duration.fromMillis 10000, 0, 3, 2, Duration.fromMillis 2000, 3,
      Duration.fromMillis 30000, 32, 1048576, 1000, 4000, 1048576⟩ := rfl

end Opmux.Executor
