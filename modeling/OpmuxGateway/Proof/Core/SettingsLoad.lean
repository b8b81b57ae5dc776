import OpmuxGateway.Construction.Core.SettingsLoad
import OpmuxGateway.Proof.Core.CatalogLoad

/-
This file proves which settings load from a catalog file and an environment.
-/

namespace Opmux

open Except (bind_eq_ok)

/-- A provider URL is an HTTP URL with a host and without credentials, query, and fragment. -/
structure ProviderUrl (http : HttpLibrary) (raw : String) (url : Url) : Prop where
  nonblank : trim raw ≠ ""
  parsed : http.parseUrl (trim raw) = some url
  scheme : url.scheme = "http" ∨ url.scheme = "https"
  username : url.username = ""
  password : url.password = none
  host : url.hostStr ≠ none
  query : url.query = none
  fragment : url.fragment = none

/-- The environment gives a nonblank key and a provider URL, or the default URL is used. -/
structure ProviderOf (http : HttpLibrary) (env : EnvSource) (provider : ProviderSettings) :
    Prop where
  key : env "OPENAI_API_KEY" = some provider.apiKey
  nonblank : trim provider.apiKey ≠ ""
  baseUrl : ∃ url, ProviderUrl http ((env "OPENAI_BASE_URL").getD "https://api.openai.com/v1") url ∧
    provider.baseUrl = trimEndMatches url.asStr '/'

/-- The host and the port of the environment or their defaults form the bind address. -/
structure ServerOf (env : EnvSource) (server : ServerConfig) : Prop where
  host : trim ((env "SERVER_HOST").getD "0.0.0.0") ≠ ""
  bindAddress : ∃ port, ParsesLimit ((env "SERVER_PORT").getD "3000") port ∧ port ≤ 65535 ∧
    SocketAddr.fromStr ((env "SERVER_HOST").getD "0.0.0.0" ++ ":" ++ toString port) =
      some server.bindAddress
  shutdownTimeout : ChoosesValue env ["SERVER_SHUTDOWN_TIMEOUT"] none 30 server.shutdownTimeoutSecs
  inRange : 1 ≤ server.shutdownTimeoutSecs ∧ server.shutdownTimeoutSecs ≤ 600

/-- The bounded client of the provider can be built. -/
def ClientBuilds (http : HttpLibrary) (limits : PolicyLimits) (provider : ProviderSettings) :
    Prop :=
  http.builds limits.maxAttemptTimeout (baseUrlIsLoopback http provider.baseUrl) = true

section Steps

variable {http : HttpLibrary} {env : EnvSource}

/-- A check is passed exactly when its condition for the error fails. -/
theorem check_eq_ok {Value : Type} {failed : Prop} [Decidable failed] {error : ConfigError}
    {next : Except ConfigError Value} {value : Value} :
    (if failed then .error error else next) = .ok value ↔ ¬failed ∧ next = .ok value := by
  split <;> simp [*]

theorem validateProviderUrl_eq_ok {raw : String} {url : Url} :
    validateProviderUrl http raw = .ok url ↔ ProviderUrl http raw url := by
  have parts : ∀ parsed : Url, ¬(parsed.scheme ≠ "http" ∧ parsed.scheme ≠ "https") ↔
      parsed.scheme = "http" ∨ parsed.scheme = "https" := fun parsed => by tauto
  simp only [validateProviderUrl, check_eq_ok, String.isEmpty_iff]
  cases found : http.parseUrl (trim raw) with
  | none =>
      constructor
      · rintro ⟨_, ⟨⟩⟩
      · intro usable
        cases found.symm.trans usable.parsed
  | some parsed =>
      simp only [check_eq_ok, parts, not_or, not_not, Bool.not_eq_true,
        Option.isSome_eq_false_iff, Option.isNone_iff_eq_none,
        Except.ok.injEq]
      constructor
      · rintro ⟨nonblank, scheme, ⟨username, password⟩, host, ⟨query, fragment⟩, rfl⟩
        exact ⟨nonblank, found, scheme, username, password, host,
          query, fragment⟩
      · intro usable
        cases found.symm.trans usable.parsed
        exact ⟨usable.nonblank, usable.scheme, ⟨usable.username, usable.password⟩,
          usable.host, ⟨usable.query, usable.fragment⟩, rfl⟩

theorem fromEnv_eq_ok {provider : ProviderSettings} :
    ProviderSettings.fromEnv http env = .ok provider ↔ ProviderOf http env provider := by
  unfold ProviderSettings.fromEnv
  constructor
  · intro accepted
    split at accepted
    · cases accepted
    · rename_i apiKey given
      obtain ⟨nonblank, accepted⟩ := check_eq_ok.mp accepted
      obtain ⟨url, validated, ⟨⟩⟩ := bind_eq_ok.mp accepted
      exact ⟨given, by simpa using nonblank, url, validateProviderUrl_eq_ok.mp validated, rfl⟩
  · rintro ⟨given, nonblank, url, usable, trimmed⟩
    rw [given]
    refine check_eq_ok.mpr ⟨by simpa using nonblank, ?_⟩
    refine bind_eq_ok.mpr ⟨url, validateProviderUrl_eq_ok.mpr usable, ?_⟩
    rw [← trimmed]
    rfl

/-- The shutdown timeout is the value of its name within its range, or its default. -/
theorem shutdownTimeout_eq_ok {value : Nat} : ServerConfig.shutdownTimeout env = .ok value ↔
    ChoosesValue env ["SERVER_SHUTDOWN_TIMEOUT"] none 30 value ∧ 1 ≤ value ∧ value ≤ 600 := by
  unfold ServerConfig.shutdownTimeout ChoosesValue
  simp only [List.findSome?_cons, List.findSome?_nil]
  cases env "SERVER_SHUTDOWN_TIMEOUT" with
  | none =>
      simp only [LimitBound.shutdownTimeoutSecs, Except.ok.injEq, Option.getD_none]
      omega
  | some raw =>
      simp only [bind_eq_ok, parseLimit_eq_ok, checkBound_eq_ok, LimitBound.shutdownTimeoutSecs]
      constructor
      · rintro ⟨_, parsed, inside, rfl⟩
        exact ⟨parsed, inside⟩
      · rintro ⟨parsed, inside⟩
        exact ⟨value, parsed, inside, rfl⟩

theorem tryFromSource_eq_ok {server : ServerConfig} :
    ServerConfig.tryFromSource env = .ok server ↔ ServerOf env server := by
  simp only [ServerConfig.tryFromSource, check_eq_ok, String.isEmpty_iff, bind_eq_ok,
    parseLimit_eq_ok, not_lt]
  constructor
  · rintro ⟨nonblank, port, parsed, small, accepted⟩
    split at accepted
    · cases accepted
    · rename_i bindAddress formed
      obtain ⟨seconds, chosen, ⟨⟩⟩ := bind_eq_ok.mp accepted
      obtain ⟨chosen, inside⟩ := shutdownTimeout_eq_ok.mp chosen
      exact ⟨nonblank, ⟨port, parsed, small, formed⟩, chosen, inside⟩
  · rintro ⟨nonblank, ⟨port, parsed, small, formed⟩, chosen, inside⟩
    refine ⟨nonblank, port, parsed, small, ?_⟩
    rw [formed]
    exact bind_eq_ok.mpr ⟨server.shutdownTimeoutSecs, shutdownTimeout_eq_ok.mpr ⟨chosen, inside⟩,
      rfl⟩

/-- A loaded timeout is never zero, so the construction of the client alone decides. -/
theorem buildProviderHttpClient_eq_ok {raw : Option RawLimits} {settings : Settings}
    (limited : PolicyLimits.load raw env = .ok settings.limits) :
    settings.buildProviderHttpClient http = .ok () ↔
      ClientBuilds http settings.limits settings.provider := by
  obtain ⟨_, value, _, inside, shows⟩ := load_eq_ok.mp limited .maxAttemptTimeout
  have positive : settings.limits.maxAttemptTimeout ≠ 0 := by
    have least : 1 ≤ value := inside.1
    rw [show settings.limits.maxAttemptTimeout = Duration.fromMillis value from shows]
    exact Nat.mul_ne_zero (by decide) (by omega)
  unfold Settings.buildProviderHttpClient buildClient ClientBuilds
  rw [if_neg positive]
  split
  · rename_i builds
    simp [builds]
  · rename_i fails
    simp [fails]

end Steps

/-- The settings load exactly when each part of them does. -/
theorem fromCatalogPath_eq_ok {http : HttpLibrary} {env : EnvSource}
    {fromStr : String → Except SerdeError CatalogText} {contents : Option String}
    {settings : Settings} :
    Settings.fromCatalogPath http fromStr contents env = .ok settings ↔
      loadCatalog fromStr contents env = .ok (settings.catalog, settings.limits) ∧
      ProviderOf http env settings.provider ∧ ServerOf env settings.server ∧
      settings.buildProviderHttpClient http = .ok () := by
  unfold Settings.fromCatalogPath
  constructor
  · intro loaded
    obtain ⟨⟨catalog, limits⟩, catalogued, loaded⟩ := bind_eq_ok.mp loaded
    obtain ⟨provider, provided, loaded⟩ := bind_eq_ok.mp loaded
    obtain ⟨server, served, loaded⟩ := bind_eq_ok.mp loaded
    obtain ⟨_, built, ⟨⟩⟩ := bind_eq_ok.mp loaded
    exact ⟨catalogued, fromEnv_eq_ok.mp provided, tryFromSource_eq_ok.mp served, built⟩
  · rintro ⟨catalogued, provided, served, built⟩
    refine bind_eq_ok.mpr ⟨_, catalogued, bind_eq_ok.mpr ⟨_, fromEnv_eq_ok.mpr provided,
      bind_eq_ok.mpr ⟨_, tryFromSource_eq_ok.mpr served, bind_eq_ok.mpr ⟨(), built, rfl⟩⟩⟩⟩

/-- The settings load exactly when the file can be read, its text is well formed, and the
environment gives a provider, a server, and a client; the catalog then holds the text. -/
theorem catalog_load (http : HttpLibrary) (fromStr : String → Except SerdeError CatalogText)
    (contents : Option String) (env : EnvSource) :
    (∀ settings, Settings.fromCatalogPath http fromStr contents env = .ok settings →
      ∃ json text targets routes, contents = some json ∧ fromStr json = .ok text ∧
        PolicyLimits.load text.limits env = .ok settings.limits ∧
        Loadable text settings.limits.maxFallbackTargets.toNat targets routes ∧
        Holds settings.catalog text targets routes ∧
        ProviderOf http env settings.provider ∧ ServerOf env settings.server ∧
        ClientBuilds http settings.limits settings.provider) ∧
    ∀ json text limits targets routes provider server, contents = some json →
      fromStr json = .ok text → PolicyLimits.load text.limits env = .ok limits →
      Loadable text limits.maxFallbackTargets.toNat targets routes →
      ProviderOf http env provider → ServerOf env server → ClientBuilds http limits provider →
      ∃ settings, Settings.fromCatalogPath http fromStr contents env = .ok settings ∧
        settings.limits = limits ∧ settings.provider = provider ∧ settings.server = server := by
  constructor
  · intro settings loaded
    obtain ⟨catalogued, provided, served, built⟩ := fromCatalogPath_eq_ok.mp loaded
    cases contents with
    | none => cases catalogued
    | some json =>
        obtain ⟨text, targets, routes, given, limited, loadable, holds⟩ := load_holds catalogued
        exact ⟨json, text, targets, routes, rfl, given, limited, loadable, holds, provided, served,
          (buildProviderHttpClient_eq_ok limited).mp built⟩
  · rintro json text limits targets routes provider server rfl given limited loadable provided
      served builds
    obtain ⟨catalog, catalogued⟩ := load_succeeds given limited loadable
    exact ⟨⟨server, catalog, limits, provider⟩, fromCatalogPath_eq_ok.mpr ⟨catalogued, provided,
      served, (buildProviderHttpClient_eq_ok limited).mpr builds⟩, rfl, rfl, rfl⟩

/-- A catalog with two targets and one route. -/
def sampleJson : String :=
  "\x7b\"version\": 1, \"default_route\": \"default\", \"targets\": \x7b" ++
  "\"primary\": \x7b\"model\": \"model-a\", \"max_output_tokens\": 512, " ++
  "\"pricing\": \x7b\"input_per_million\": 1.0, \"output_per_million\": 2.0\x7d\x7d, " ++
  "\"secondary\": \x7b\"vendor\": \"openai\", \"model\": \"model-b\", " ++
  "\"max_output_tokens\": 256, " ++
  "\"pricing\": \x7b\"input_per_million\": 0.0, \"output_per_million\": 1.0\x7d\x7d\x7d, " ++
  "\"routes\": \x7b\"default\": \x7b\"primary\": \"primary\", " ++
  "\"fallbacks\": [\"secondary\"]\x7d\x7d\x7d"

def sampleText : CatalogText where
  version := 1
  defaultRoute := "default"
  targets := [.ok ("primary", ⟨none, "model-a", 512, ⟨.finite 1, .finite 2⟩⟩),
    .ok ("secondary", ⟨some "openai", "model-b", 256, ⟨.finite 0, .finite 1⟩⟩)]
  routes := [.ok ("default", ⟨"primary", some (.array [.string "secondary"])⟩)]
  limits := none

/-- The parser of the sample reads its text and no other one. -/
def sampleFromStr (json : String) : Except SerdeError CatalogText :=
  if json = sampleJson then .ok sampleText else .error ⟨"expected value", true, false⟩

/-- The HTTP library of the sample reads a loopback URL with and without its last slash. -/
def sampleHttp : HttpLibrary where
  parseUrl text :=
    if text = "http://127.0.0.1:9/v1/" ∨ text = "http://127.0.0.1:9/v1" then
      some ⟨text, "http", "", none, some "127.0.0.1", none, none⟩
    else none
  builds _ _ := true

def sampleEnv : EnvSource := fun key =>
  [("OPENAI_API_KEY", "test-dummy-openai-key"), ("OPENAI_BASE_URL", " http://127.0.0.1:9/v1/ "),
    ("SERVER_HOST", "127.0.0.1"), ("SERVER_PORT", "8080"), ("SERVER_SHUTDOWN_TIMEOUT", " 45 "),
    ("OPMUX_MAX_PROMPT_CHARS", "2000")].lookup key

def sampleSettings : Settings where
  server := ⟨.v4 ⟨127, 0, 0, 1⟩ 8080, 45⟩
  catalog := ⟨1, "default",
    AList.insert "primary" ⟨.openai, "model-a", 512, ⟨.finite 1, .finite 2⟩⟩
      (AList.insert "secondary" ⟨.openai, "model-b", 256, ⟨.finite 0, .finite 1⟩⟩ ∅),
    AList.insert "default" ⟨"primary", ["secondary"]⟩ ∅⟩
  limits := ⟨Duration.fromMillis 30000, Duration.fromMillis 10000, 1, 3, 2,
    Duration.fromMillis 2000, 3, Duration.fromMillis 30000, 32, 1048576, 1000, 2000, 1048576⟩
  provider := .dummyLocal

theorem sampleFromStr_reads : sampleFromStr sampleJson = .ok sampleText := if_pos rfl

theorem sampleJson_loadCatalog : loadCatalog sampleFromStr (some sampleJson) sampleEnv =
    .ok (sampleSettings.catalog, sampleSettings.limits) := by
  simp only [loadCatalog, sampleFromStr_reads]
  rfl

theorem sampleEnv_provider :
    ProviderSettings.fromEnv sampleHttp sampleEnv = .ok sampleSettings.provider := by
  decide +kernel

theorem sampleEnv_server : ServerConfig.tryFromSource sampleEnv = .ok sampleSettings.server := by
  decide +kernel

/-- The settings of the sample load from its file and its environment. -/
theorem sampleJson_loads : Settings.fromCatalogPath sampleHttp sampleFromStr (some sampleJson)
    sampleEnv = .ok sampleSettings :=
  fromCatalogPath_eq_ok.mpr ⟨sampleJson_loadCatalog, fromEnv_eq_ok.mp sampleEnv_provider,
    tryFromSource_eq_ok.mp sampleEnv_server, rfl⟩

/-- The sample file is well formed in its environment, and so its settings load. -/
theorem catalog_load_example :
    (∃ targets routes, Loadable sampleText 2 targets routes ∧
      Holds sampleSettings.catalog sampleText targets routes) ∧
    ∃ settings, Settings.fromCatalogPath sampleHttp sampleFromStr (some sampleJson) sampleEnv =
        .ok settings ∧ settings.limits = sampleSettings.limits ∧
      settings.provider = sampleSettings.provider ∧ settings.server = sampleSettings.server := by
  have loading := catalog_load sampleHttp sampleFromStr (some sampleJson) sampleEnv
  obtain ⟨json, text, targets, routes, same, given, limited, loadable, holds, provided, served,
    builds⟩ := loading.1 _ sampleJson_loads
  obtain rfl := Option.some.inj same
  obtain rfl := Except.ok.inj (sampleFromStr_reads.symm.trans given)
  exact ⟨⟨targets, routes, loadable, holds⟩, loading.2 sampleJson sampleText _ targets routes _ _
    rfl sampleFromStr_reads limited loadable provided served builds⟩

end Opmux
