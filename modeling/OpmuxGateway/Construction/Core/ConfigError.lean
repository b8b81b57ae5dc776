import OpmuxGateway.Construction.Core.Text

/-
This file gives the failures of the configuration and its environment source.
-/

namespace Opmux

inductive ConfigCategory where
  | catalogUnreadable
  | catalogMalformedJson
  | catalogUnsupportedVersion
  | catalogUnknownField
  | catalogDuplicateTarget
  | catalogDuplicateRoute
  | catalogMissingDefaultRoute
  | catalogUnknownTargetReference
  | catalogEmptyIdentifier
  | catalogNestedChain
  | catalogDuplicateChainTarget
  | catalogFallbackLimit
  | catalogUnsupportedVendor
  | catalogIncompletePricing
  | catalogInvalidPrice
  | catalogInvalidType
  | invalidLimit
  | missingCredential
  | invalidProviderUrl
  | httpClientConstruction
  | invalidBindAddress
  deriving DecidableEq, Repr

/-- A configuration failure has a category and a message. -/
structure ConfigError where
  category : ConfigCategory
  message : String
  deriving DecidableEq, Repr

namespace ConfigError

def catalogUnreadable : ConfigError :=
  ⟨.catalogUnreadable, "operator catalog file cannot be read"⟩

def invalidLimit (name : String) : ConfigError :=
  ⟨.invalidLimit, "invalid numeric limit for " ++ name⟩

def missingCredential : ConfigError :=
  ⟨.missingCredential, "OPENAI_API_KEY is required and must be nonempty"⟩

def invalidProviderUrl : ConfigError :=
  ⟨.invalidProviderUrl,
    "OPENAI_BASE_URL must be an http or https URL without credentials, query, or fragment"⟩

def httpClientConstruction : ConfigError :=
  ⟨.httpClientConstruction, "failed to construct the bounded provider HTTP client"⟩

def invalidBindAddress : ConfigError :=
  ⟨.invalidBindAddress, "SERVER_HOST and SERVER_PORT do not form a valid bind address"⟩

end ConfigError

/-- An environment source gives the raw value of a present key. -/
abbrev EnvSource := String → Option String

end Opmux
