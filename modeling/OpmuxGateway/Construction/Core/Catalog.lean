import OpmuxGateway.Construction.Core.Contracts
import OpmuxGateway.Construction.Core.Json
import OpmuxGateway.Construction.Core.SocketAddr

/-
This file gives the operator catalog, the policy limits, and the settings that hold them.
-/

namespace Opmux

/-- A map has one value for each of its keys, and its entries stand in its iteration order. -/
abbrev HashMap (Value : Type) := AList fun _ : String => Value

inductive VendorKind where
  | openai
  deriving DecidableEq, Repr

def VendorKind.asStr : VendorKind → String
  | .openai => "openai"

/-- Prices are USD per million tokens. -/
structure TargetPricing where
  inputPerMillion : F64
  outputPerMillion : F64
  deriving DecidableEq, Repr

structure Target where
  vendor : VendorKind
  model : String
  maxOutputTokens : UInt32
  pricing : TargetPricing
  deriving DecidableEq, Repr

/-- A route is one primary target with its ordered fallback targets. -/
structure Route where
  primary : String
  fallbacks : List String
  deriving DecidableEq, Repr

structure Catalog where
  version : Nat
  defaultRoute : String
  targets : HashMap Target
  routes : HashMap Route

/-- The limits hold durations, counts, and byte sizes. -/
structure PolicyLimits where
  protectedRequestDeadline : Duration
  maxAttemptTimeout : Duration
  retriesPerTarget : UInt32
  maxTotalAttempts : UInt32
  maxFallbackTargets : UInt32
  backoffCap : Duration
  circuitFailureThreshold : UInt32
  circuitCooldown : Duration
  maxConcurrentGenerations : UInt32
  maxRequestBodyBytes : Nat
  maxMetadataBytes : Nat
  maxPromptChars : Nat
  maxUpstreamResponseBytes : Nat
  deriving DecidableEq, Repr

namespace PolicyLimits

/-- This conversion is `duration.as_millis() as u64`. -/
def durationMs (duration : Duration) : Nat := Duration.asMillis duration % 2 ^ 64

def maxAttemptTimeoutMs (limits : PolicyLimits) : Nat := durationMs limits.maxAttemptTimeout

def backoffCapMs (limits : PolicyLimits) : Nat := durationMs limits.backoffCap

end PolicyLimits

structure ServerConfig where
  bindAddress : SocketAddr
  shutdownTimeoutSecs : Nat
  deriving DecidableEq, Repr

def ServerConfig.default : ServerConfig := ⟨.v4 ⟨0, 0, 0, 0⟩ 3000, 30⟩

structure ProviderSettings where
  apiKey : String
  baseUrl : String
  deriving DecidableEq, Repr

def ProviderSettings.dummyLocal : ProviderSettings :=
  ⟨"test-dummy-openai-key", "http://127.0.0.1:9/v1"⟩

structure Settings where
  server : ServerConfig
  catalog : Catalog
  limits : PolicyLimits
  provider : ProviderSettings

end Opmux
