import Rstream.IoRstrm.Types

/-!
# Where a token comes from

`get_rstream_token` looks for a token in the configuration of the caller, in the
process environment and in the configuration file, in this order. The file names
contexts and environments; a context is selected by name and an environment by the
API URL, each with the token it stores.

A configuration file is its parsed contents. `Surroundings` gives what the lookup
reads: the process environment, and for a path either no file, a file that is not
valid YAML, or the contents.
-/

namespace Rstream.IoRstrm

/-! ## Configuration files -/

structure ConfigToken where
  present : Bool := false
  kind : String := ""
  value : String := ""
  deriving DecidableEq, Repr

structure ConfigMtlsStorage where
  present : Bool := false
  kind : String := ""
  provider : String := ""
  moduleName : String := ""
  opensslProvider : String := ""
  tokenLabel : String := ""
  tokenSerial : String := ""
  slot : Option Int := none
  keyLabel : String := ""
  keyIdHex : String := ""
  certificate : String := ""
  certificateFile : String := ""
  certificateLabel : String := ""
  certificateIdHex : String := ""
  certificateSha256 : String := ""
  pinEnv : String := ""
  maxSessions : Int := 0
  deriving DecidableEq, Repr

structure ConfigMtls where
  present : Bool := false
  certificate : String := ""
  certificateFile : String := ""
  key : String := ""
  keyFile : String := ""
  storage : ConfigMtlsStorage := {}
  deriving DecidableEq, Repr

structure ConfigAuth where
  token : ConfigToken := {}
  mtls : ConfigMtls := {}
  deriving DecidableEq, Repr

structure ConfigTls where
  present : Bool := false
  insecureSkipVerifySet : Bool := false
  insecureSkipVerify : Bool := false
  caFile : String := ""
  serverName : String := ""
  deriving DecidableEq, Repr

/-- `config_proxy`; of its TLS options only whether there are any. -/
structure ConfigProxy where
  fromEnvironment : Bool := false
  http : String := ""
  socks5 : String := ""
  username : String := ""
  password : String := ""
  headers : List (String × String) := []
  tlsPresent : Bool := false
  deriving DecidableEq, Repr

structure ConfigTransport where
  modePresent : Bool := false
  mode : String := ""
  useQuicPresent : Bool := false
  useQuicValid : Bool := true
  useQuic : Bool := false
  proxy : ConfigProxy := {}
  tls : ConfigTls := {}
  deriving DecidableEq, Repr

structure ConfigEnvironment where
  apiUrl : String := ""
  auth : ConfigAuth := {}
  transport : ConfigTransport := {}
  deriving DecidableEq, Repr

structure ConfigContext where
  name : String := ""
  apiUrl : String := ""
  engine : String := ""
  auth : ConfigAuth := {}
  transport : ConfigTransport := {}
  deriving DecidableEq, Repr

structure ConfigFile where
  defaultContext : String := ""
  environments : List ConfigEnvironment := []
  contexts : List ConfigContext := []
  deriving DecidableEq, Repr

/-- What the lookup reads from the process and its file system. -/
structure Surroundings where
  getenv : String → Option String := fun _ => none
  /-- `none`: the file cannot be opened; `some none`: it is not valid YAML. -/
  file : String → Option (Option ConfigFile) := fun _ => none

/-! ## Reading the surroundings -/

/-- `std::isspace` in the classic locale. -/
def isSpace (c : Char) : Bool := c == ' ' || (9 ≤ c.toNat && c.toNat ≤ 13)

def trim (text : String) : String :=
  String.ofList ((text.toList.dropWhile isSpace).reverse.dropWhile isSpace).reverse

def Surroundings.getenvTrim (surroundings : Surroundings) (key : String) : String :=
  (surroundings.getenv key).elim "" trim

/-- `boost::filesystem::path::operator/`. -/
def joinPath (base name : String) : String :=
  if base = "" ∨ base.endsWith "/" then base ++ name else base ++ "/" ++ name

def Surroundings.getHomePath (surroundings : Surroundings) : Except ErrorCode String :=
  match (surroundings.getenv "HOME").or (surroundings.getenv "USERPROFILE") with
  | some home => .ok home
  | none => .error ⟨2, .other "generic"⟩

def Surroundings.getRstreamConfigFilePath (surroundings : Surroundings)
    (configPath : Option String) : Except ErrorCode String :=
  match configPath.filter (· ≠ "") with
  | some path => .ok path
  | none =>
    match (surroundings.getenv "RSTREAM_CONFIG").filter (· ≠ "") with
    | some path => .ok path
    | none => surroundings.getHomePath.map fun home =>
      joinPath (joinPath home ".rstream") "config.yaml"

/-- `load_rstream_config`. A file that is not there is an empty one. -/
def Surroundings.loadRstreamConfig (surroundings : Surroundings) (configPath : Option String) :
    Except ErrorCode ConfigFile :=
  match surroundings.getRstreamConfigFilePath configPath with
  | .error errorCode => .error errorCode
  | .ok path =>
    match surroundings.file path with
    | none => .ok {}
    | some none => .error ⟨5, .other "generic"⟩
    | some (some file) => .ok file

/-! ## Selecting a context -/

def transportProxyRequested (proxy : ConfigProxy) : Bool :=
  proxy.http != "" || proxy.socks5 != "" || proxy.username != "" || proxy.password != ""
    || proxy.fromEnvironment || !proxy.headers.isEmpty || proxy.tlsPresent

def transportModeFromConfig (transport : ConfigTransport) : Except ErrorCode String :=
  if transport.modePresent then
    if transport.mode = "" then .error Error.Code.invalidConfiguration else .ok transport.mode
  else if transport.useQuicPresent then
    if ¬transport.useQuicValid then .error Error.Code.invalidConfiguration
    else .ok (if transport.useQuic then "quic" else "tls")
  else .ok ""

/-- A mode that is not known yet is taken from an entry of the file. -/
def modeOr (mode : String) (transport : Option ConfigTransport) : Except ErrorCode String :=
  match transport with
  | some transport => if mode = "" then transportModeFromConfig transport else .ok mode
  | none => .ok mode

def Surroundings.resolveTunnelTransportMode (surroundings : Surroundings)
    (environment : Option ConfigEnvironment) (context : Option ConfigContext) :
    Except ErrorCode String := do
  let requested := surroundings.getenvTrim "RSTREAM_TUNNEL_TRANSPORT"
  let legacy := surroundings.getenvTrim "RSTREAM_QUIC_TRANSPORT"
  let mode := if requested = "" ∧ legacy ≠ "" then (if legacy = "1" then "quic" else "tls")
    else requested
  let mode ← modeOr mode (context.map (·.transport))
  let mode ← modeOr mode (environment.map (·.transport))
  let mode := (if mode = "" then "auto" else mode).map Char.toLower
  if mode ≠ "auto" ∧ mode ≠ "tls" ∧ mode ≠ "quic" then .error Error.Code.invalidConfiguration
  else if mode = "quic" then .error Error.Code.invalidConfiguration
  else .ok "tls"

structure ResolvedConfig where
  apiUrl : String
  environment : Option ConfigEnvironment
  context : Option ConfigContext
  deriving DecidableEq, Repr

/-- The only entry of a list. -/
def onlyEntry {α : Type} : List α → Except ErrorCode α
  | [entry] => .ok entry
  | _ => .error Error.Code.invalidConfiguration

/-- The context of a name, and of an API URL when one is given. -/
def selectContext (file : ConfigFile) (apiUrlExplicit contextName : String) :
    Except ErrorCode ConfigContext :=
  let candidates := file.contexts.filter (·.name == contextName)
  if apiUrlExplicit = "" then onlyEntry candidates
  else
    let exact := candidates.filter (·.apiUrl == apiUrlExplicit)
    if exact.isEmpty then onlyEntry (candidates.filter (·.apiUrl == "")) else onlyEntry exact

def Surroundings.resolveConfigSelection (surroundings : Surroundings) (file : ConfigFile)
    (apiUrlExplicit contextName : String) : Except ErrorCode ResolvedConfig := do
  let context ← if contextName = "" then pure none
    else some <$> selectContext file apiUrlExplicit contextName
  if apiUrlExplicit ≠ "" ∧ context.any fun entry =>
      entry.apiUrl != "" && entry.apiUrl != apiUrlExplicit then
    .error Error.Code.invalidConfiguration
  let linked := context.elim "" (·.apiUrl)
  let apiUrl := if apiUrlExplicit = "" then linked else apiUrlExplicit
  let apiUrl := if apiUrl = "" then "https://rstream.io" else apiUrl
  let environment := if context.any (·.apiUrl == "") then none
    else file.environments.find? (·.apiUrl == apiUrl)
  let _ ← surroundings.resolveTunnelTransportMode environment context
  if context.any (fun entry => transportProxyRequested entry.transport.proxy)
      ∨ environment.any (fun entry => transportProxyRequested entry.transport.proxy) then
    .error Error.Code.invalidConfiguration
  else .ok { apiUrl, environment, context }

/-! ## Tokens -/

def resolveTokenFromAuth (auth : ConfigAuth) : Except ErrorCode (Option String) :=
  if ¬auth.token.present then .ok none
  else if auth.token.kind ≠ "" ∧ auth.token.kind ≠ "inline" then
    .error Error.Code.invalidConfiguration
  else if auth.token.value = "" then .ok none
  else .ok (some auth.token.value)

/-- `resolve_token_from_config`: the token of the context, or that of the
environment. -/
def Surroundings.resolveTokenFromConfig (surroundings : Surroundings) (file : ConfigFile)
    (apiUrlExplicit contextName : String) : Except ErrorCode (Option String) := do
  let resolved ← surroundings.resolveConfigSelection file apiUrlExplicit contextName
  let token ← resolved.context.elim (pure none) fun context => resolveTokenFromAuth context.auth
  match token with
  | some token => pure (some token)
  | none => resolved.environment.elim (pure none) fun environment =>
    resolveTokenFromAuth environment.auth

/-- The part of `get_rstream_token` that reads the configuration file. -/
def Surroundings.getConfigToken (surroundings : Surroundings) (configPath : Option String) :
    Except ErrorCode (Option String) := do
  let file ← surroundings.loadRstreamConfig configPath
  let apiUrl := surroundings.getenvTrim "RSTREAM_API_URL"
  let contextName := surroundings.getenvTrim "RSTREAM_CONTEXT"
  let contextName := if contextName = "" then file.defaultContext else contextName
  surroundings.resolveTokenFromConfig file apiUrl contextName

def Surroundings.getRstreamToken (surroundings : Surroundings) (config : Config)
    (serverAddress : Address) : Except ErrorCode (Option String) :=
  let usesMtlsAuth := hasClientCertificateConfig serverAddress
  if config.noToken then .ok none
  else
    match config.token with
    | some token =>
      if usesMtlsAuth then .error Error.Code.authenticationConflict else .ok (some token)
    | none =>
      let envToken := surroundings.getenvTrim "RSTREAM_AUTHENTICATION_TOKEN"
      if envToken ≠ "" then
        if usesMtlsAuth then .error Error.Code.authenticationConflict else .ok (some envToken)
      else if usesMtlsAuth then .ok none
      else surroundings.getConfigToken config.configPath

/-- `get_client_details(config, server_address)`, on top of the details without a
token. -/
def Surroundings.getClientDetails (surroundings : Surroundings) (identity : ClientDetails)
    (config : Config) (serverAddress : Address) : Except ErrorCode ClientDetails :=
  match surroundings.getRstreamToken config serverAddress with
  | .error errorCode => .error errorCode
  | .ok token =>
    if token.isSome ∧ hasClientCertificateConfig serverAddress then
      .error Error.Code.authenticationConflict
    else .ok { identity with token := token }

end Rstream.IoRstrm
