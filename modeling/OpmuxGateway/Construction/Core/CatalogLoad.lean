import OpmuxGateway.Construction.Core.Limits

/-
This file gives the loading of the operator catalog.
-/

namespace Opmux

/-- An error of the JSON library has a text and says whether the JSON itself is broken. -/
structure SerdeError where
  message : String
  isSyntax : Bool
  isEof : Bool
  deriving DecidableEq, Repr

def SerdeError.custom (message : String) : SerdeError := ⟨message, false, false⟩

structure RawPricing where
  inputPerMillion : F64
  outputPerMillion : F64
  deriving DecidableEq, Repr

structure RawTarget where
  vendor : Option String
  model : String
  maxOutputTokens : UInt32
  pricing : RawPricing
  deriving DecidableEq, Repr

structure RawRoute where
  primary : String
  fallbacks : List String
  deriving DecidableEq, Repr

structure RawCatalog where
  version : Nat
  defaultRoute : String
  targets : HashMap RawTarget
  routes : HashMap RawRoute
  limits : Option RawLimits

/-- A route of the text may omit its fallbacks, and their JSON is checked later. -/
structure RouteText where
  primary : String
  fallbacks : Option Json

/-- The JSON library delivers the entries of a map in the order of the text, and each delivery
may fail. -/
abbrev MapAccess (Value : Type) := List (Except SerdeError (String × Value))

structure CatalogText where
  version : Nat
  defaultRoute : String
  targets : MapAccess RawTarget
  routes : MapAccess RouteText
  limits : Option RawLimits

/-- This operation is `str::contains` with a string. -/
def containsText (text part : String) : Bool := decide (part.toList <:+: text.toList)

def fallbackFromValue : Json → Except SerdeError String
  | .string id => .ok id
  | .object _ | .array _ => .error (.custom "nested chain")
  | _ => .error (.custom "invalid type: fallback identifiers must be strings")

def deserializeFallbacks : Json → Except SerdeError (List String)
  | .array items => items.mapM fallbackFromValue
  | .object _ => .error (.custom "nested chain")
  | _ => .error (.custom "invalid type: fallbacks must be an array of target identifiers")

/-- The visitor rejects the second entry of a key. -/
def visitMap {Value : Type} (duplicateMessage : String) (map : HashMap Value) :
    MapAccess Value → Except SerdeError (HashMap Value)
  | [] => .ok map
  | entry :: rest => do
      let (key, value) ← entry
      if key ∈ map then .error (.custom duplicateMessage)
      else visitMap duplicateMessage (map.insert key value) rest

def deserializeUniqueTargets (access : MapAccess RawTarget) :
    Except SerdeError (HashMap RawTarget) :=
  visitMap "duplicate target identifier" ∅ access

def rawRoute (route : RouteText) : Except SerdeError RawRoute :=
  match route.fallbacks with
  | none => .ok ⟨route.primary, []⟩
  | some value => do return ⟨route.primary, ← deserializeFallbacks value⟩

/-- The fallbacks of a route are read when its entry is delivered. -/
def rawRouteEntry (entry : Except SerdeError (String × RouteText)) :
    Except SerdeError (String × RawRoute) := do
  let (key, route) ← entry
  return (key, ← rawRoute route)

def deserializeUniqueRoutes (access : MapAccess RouteText) :
    Except SerdeError (HashMap RawRoute) :=
  visitMap "duplicate route identifier" ∅ (access.map rawRouteEntry)

def RawCatalog.deserialize (text : CatalogText) : Except SerdeError RawCatalog := do
  let targets ← deserializeUniqueTargets text.targets
  let routes ← deserializeUniqueRoutes text.routes
  return ⟨text.version, text.defaultRoute, targets, routes, text.limits⟩

/-- The category of a JSON error follows from its text, and the first match decides. -/
def mapSerdeError (error : SerdeError) : ConfigError :=
  let mentions := containsText error.message
  if mentions "duplicate target identifier" then
    ⟨.catalogDuplicateTarget, "catalog defines duplicate target identifiers"⟩
  else if mentions "duplicate route identifier" then
    ⟨.catalogDuplicateRoute, "catalog defines duplicate route identifiers"⟩
  else if mentions "nested chain" then
    ⟨.catalogNestedChain, "route chains must be flat lists of target identifiers"⟩
  else if mentions "unknown field" then
    ⟨.catalogUnknownField, "catalog contains an unknown field"⟩
  else if mentions "missing field \x60version\x60" ||
      (mentions "invalid type" && mentions "version") then
    ⟨.catalogUnsupportedVersion, "catalog version must be 1"⟩
  else if mentions "missing field \x60pricing\x60" ||
      mentions "missing field \x60input_per_million\x60" ||
      mentions "missing field \x60output_per_million\x60" then
    ⟨.catalogIncompletePricing,
      "target pricing must include input_per_million and output_per_million"⟩
  else if mentions "number out of range" then
    ⟨.catalogInvalidPrice, "prices must be finite, nonnegative, and within the documented bound"⟩
  else if error.isSyntax || error.isEof then ⟨.catalogMalformedJson, "catalog JSON is malformed"⟩
  else if mentions "invalid type" || mentions "invalid value" || mentions "missing field" then
    ⟨.catalogInvalidType, "catalog field has the wrong type"⟩
  else ⟨.catalogMalformedJson, "catalog JSON is malformed"⟩

def requireIdentifier (kind value : String) : Except ConfigError String :=
  if value.isEmpty || trim value ≠ value then
    .error ⟨.catalogEmptyIdentifier, kind ++ " identifier cannot be empty"⟩
  else .ok value

/-- An omitted vendor is the only supported one. -/
def parseVendor : Option String → Except ConfigError VendorKind
  | none => .ok .openai
  | some "openai" => .ok .openai
  | some value =>
      if (trim value).isEmpty then
        .error ⟨.catalogUnsupportedVendor, "target vendor cannot be empty"⟩
      else .error ⟨.catalogUnsupportedVendor, "only the openai vendor is supported"⟩

def maxPricePerMillion : Nat := 1000000

def validatePrice (value : F64) : Except ConfigError F64 :=
  match value with
  | .finite price =>
      if 0 ≤ price ∧ price ≤ maxPricePerMillion then .ok value
      else .error ⟨.catalogInvalidPrice,
        "prices must be finite, nonnegative, and within the documented bound"⟩
  | .nan | .infinite _ => .error ⟨.catalogInvalidPrice,
      "prices must be finite, nonnegative, and within the documented bound"⟩

def validatePricing (raw : RawPricing) : Except ConfigError TargetPricing := do
  let inputPerMillion ← validatePrice raw.inputPerMillion
  let outputPerMillion ← validatePrice raw.outputPerMillion
  return ⟨inputPerMillion, outputPerMillion⟩

def LimitBound.maxOutputTokens : LimitBound := ⟨"max_output_tokens", 512, 1, 1000000⟩

def checkOutputTokens (value : UInt32) : Except ConfigError UInt32 :=
  match checkBound .maxOutputTokens value.toNat with
  | .error error => .error error
  | .ok checked =>
      if checked ≤ u32Max then .ok (UInt32.ofNat checked)
      else .error (.invalidLimit LimitBound.maxOutputTokens.name)

def parseTarget (raw : RawTarget) : Except ConfigError Target := do
  let vendor ← parseVendor raw.vendor
  let model ← requireIdentifier "model" raw.model
  let maxOutputTokens ← checkOutputTokens raw.maxOutputTokens
  let pricing ← validatePricing raw.pricing
  return ⟨vendor, model, maxOutputTokens, pricing⟩

/-- Each fallback is a configured target that the chain does not have yet. -/
def validateFallbacks (targets : HashMap Target) (seen : List String) :
    List String → Except ConfigError (List String)
  | [] => .ok []
  | fallback :: rest => do
      let fallback ← requireIdentifier "fallback" fallback
      if fallback ∉ targets then
        .error ⟨.catalogUnknownTargetReference,
          "route fallback must reference a configured target"⟩
      else if fallback ∈ seen then
        .error ⟨.catalogDuplicateChainTarget, "route chain cannot repeat a target"⟩
      else return fallback :: (← validateFallbacks targets (seen ++ [fallback]) rest)

def validateRoute (targets : HashMap Target) (route : RawRoute) : Except ConfigError Route := do
  let primary ← requireIdentifier "primary" route.primary
  if primary ∉ targets then
    .error ⟨.catalogUnknownTargetReference, "route primary must reference a configured target"⟩
  else return ⟨primary, ← validateFallbacks targets [primary] route.fallbacks⟩

/-- The entries of a map are checked and collected one after the other. -/
def collect {Raw Value : Type} (kind : String) (parse : Raw → Except ConfigError Value)
    (map : HashMap Value) (entry : Sigma fun _ : String => Raw) :
    Except ConfigError (HashMap Value) := do
  let id ← requireIdentifier kind entry.1
  return map.insert id (← parse entry.2)

structure ParsedCatalog where
  catalog : Catalog
  rawLimits : Option RawLimits

/-- A catalog has targets, routes over them, and one of these routes as its default. -/
def validateCatalog (raw : RawCatalog) : Except ConfigError ParsedCatalog :=
  if raw.version ≠ 1 then .error ⟨.catalogUnsupportedVersion, "catalog version must be 1"⟩
  else do
    let targets ← raw.targets.entries.foldlM (collect "target" parseTarget) ∅
    if targets.keys.isEmpty then
      .error ⟨.catalogEmptyIdentifier, "catalog must define at least one target"⟩
    else do
      let routes ← raw.routes.entries.foldlM (collect "route" (validateRoute targets)) ∅
      if routes.keys.isEmpty then
        .error ⟨.catalogMissingDefaultRoute, "catalog must define at least one route"⟩
      else do
        let defaultRoute ← requireIdentifier "default_route" raw.defaultRoute
        if defaultRoute ∉ routes then
          .error ⟨.catalogMissingDefaultRoute, "default_route must reference a configured route"⟩
        else return ⟨⟨raw.version, defaultRoute, targets, routes⟩, raw.limits⟩

/-- The JSON library reads the text up to the maps of the catalog. -/
def parseCatalog (text : Except SerdeError CatalogText) : Except ConfigError ParsedCatalog :=
  match text >>= RawCatalog.deserialize with
  | .error error => .error (mapSerdeError error)
  | .ok raw => validateCatalog raw

/-- The loaded limit also bounds the routes that the catalog already has. -/
def applyLimitToRoutes (catalog : Catalog) (maxFallbackTargets : UInt32) :
    Except ConfigError Catalog :=
  match catalog.routes.entries.find? fun entry =>
      decide (maxFallbackTargets.toNat < entry.2.fallbacks.length) with
  | some entry => .error ⟨.catalogFallbackLimit,
      "route " ++ entry.1 ++ " fallback list exceeds max_fallback_targets"⟩
  | none => .ok catalog

/-- The catalog file gives the catalog and its limits. -/
def loadCatalog (fromStr : String → Except SerdeError CatalogText) (contents : Option String)
    (env : EnvSource) : Except ConfigError (Catalog × PolicyLimits) :=
  match contents with
  | none => .error .catalogUnreadable
  | some json => do
      let parsed ← parseCatalog (fromStr json)
      let limits ← PolicyLimits.load parsed.rawLimits env
      return (← applyLimitToRoutes parsed.catalog limits.maxFallbackTargets, limits)

end Opmux
