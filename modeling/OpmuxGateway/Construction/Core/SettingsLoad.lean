import OpmuxGateway.Construction.Core.CatalogLoad

/-
This file gives the loading of the settings from the catalog file and the environment.
-/

namespace Opmux

/-- The parts of a parsed URL. -/
structure Url where
  asStr : String
  scheme : String
  username : String
  password : Option String
  hostStr : Option String
  query : Option String
  fragment : Option String
  deriving DecidableEq, Repr

/-- The HTTP library parses URLs, and it says whether a client with a timeout can be built. -/
structure HttpLibrary where
  parseUrl : String → Option Url
  builds : (timeout : Duration) → (disableProxy : Bool) → Bool

/-- This operation is `str::trim_end_matches` with a character. -/
def trimEndMatches (value : String) (c : Char) : String :=
  String.ofList ((value.toList.reverse.dropWhile (· = c)).reverse)

def LimitBound.shutdownTimeoutSecs : LimitBound := ⟨"SERVER_SHUTDOWN_TIMEOUT", 30, 1, 600⟩

def validateProviderUrl (http : HttpLibrary) (raw : String) : Except ConfigError Url :=
  let trimmed := trim raw
  if trimmed.isEmpty then .error .invalidProviderUrl
  else
    match http.parseUrl trimmed with
    | none => .error .invalidProviderUrl
    | some url =>
        if url.scheme ≠ "http" ∧ url.scheme ≠ "https" then .error .invalidProviderUrl
        else if ¬url.username.isEmpty ∨ url.password.isSome then .error .invalidProviderUrl
        else if url.hostStr.isNone then .error .invalidProviderUrl
        -- An empty query or fragment is one, too.
        else if url.query.isSome ∨ url.fragment.isSome then .error .invalidProviderUrl
        else .ok url

def ProviderSettings.fromEnv (http : HttpLibrary) (env : EnvSource) :
    Except ConfigError ProviderSettings :=
  match env "OPENAI_API_KEY" with
  | none => .error .missingCredential
  | some apiKey =>
      if (trim apiKey).isEmpty then .error .missingCredential
      else do
        let baseUrl := (env "OPENAI_BASE_URL").getD "https://api.openai.com/v1"
        let parsed ← validateProviderUrl http baseUrl
        return ⟨apiKey, trimEndMatches parsed.asStr '/'⟩

namespace ServerConfig

def shutdownTimeout (env : EnvSource) : Except ConfigError Nat :=
  match env "SERVER_SHUTDOWN_TIMEOUT" with
  | some raw => do checkBound .shutdownTimeoutSecs (← parseLimit "SERVER_SHUTDOWN_TIMEOUT" raw)
  | none => .ok LimitBound.shutdownTimeoutSecs.default

/-- The port is checked before the address and the shutdown timeout after it. -/
def tryFromSource (env : EnvSource) : Except ConfigError ServerConfig :=
  let host := (env "SERVER_HOST").getD "0.0.0.0"
  if (trim host).isEmpty then .error .invalidBindAddress
  else do
    let port ← parseLimit "SERVER_PORT" ((env "SERVER_PORT").getD "3000")
    if 65535 < port then .error .invalidBindAddress
    else
      match SocketAddr.fromStr (host ++ ":" ++ toString port) with
      | none => .error .invalidBindAddress
      | some bindAddress => return ⟨bindAddress, ← shutdownTimeout env⟩

end ServerConfig

def baseUrlIsLoopback (http : HttpLibrary) (baseUrl : String) : Bool :=
  match http.parseUrl baseUrl with
  | none => false
  | some url =>
      match url.hostStr with
      | none => false
      | some host =>
          if host = "localhost" ∨ host = "127.0.0.1" ∨ host = "::1" then true
          else (IpAddr.fromStr host).any IpAddr.isLoopback

/-- Only the success of the construction matters to the loader. -/
def buildClient (http : HttpLibrary) (timeout : Duration) (disableProxy : Bool) :
    Except ConfigError Unit :=
  if timeout = 0 then .error (.invalidLimit "max_attempt_timeout_ms")
  else if http.builds timeout disableProxy then .ok ()
  else .error .httpClientConstruction

namespace Settings

/-- The bounded client bypasses the proxies of a loopback provider. -/
def buildProviderHttpClient (http : HttpLibrary) (settings : Settings) : Except ConfigError Unit :=
  buildClient http settings.limits.maxAttemptTimeout
    (baseUrlIsLoopback http settings.provider.baseUrl)

/-- The settings are loaded when each of their parts is, and the provider client can be built. -/
def fromCatalogPath (http : HttpLibrary) (fromStr : String → Except SerdeError CatalogText)
    (contents : Option String) (env : EnvSource) : Except ConfigError Settings := do
  let (catalog, limits) ← loadCatalog fromStr contents env
  let provider ← ProviderSettings.fromEnv http env
  let server ← ServerConfig.tryFromSource env
  let settings : Settings := ⟨server, catalog, limits, provider⟩
  settings.buildProviderHttpClient http
  return settings

end Settings

end Opmux
