import Rstream.Library.SortedMaps
import Rstream.Webtty.Cli.CommandLine
import Rstream.Webtty.Server.Accounts

/-!
# The settings of the server tool

The server tool merges its command line, a runtime configuration file, the environment and an
enrollment into the settings of the server. Whether clients have to prove who they are follows from
what was configured: a client key, an identity, `--e2e`, or an enrollment whose policy asks for it.
A file of authorised clients is accepted as well, but it does not count, so a server with nothing
else admits every client (`keepsAuthorisation_iff`).
-/

namespace Rstream.Webtty.Cli

open Library
open Server (Settings ProtocolType ExecutionMode Identifier EndpointIdentity Accounts)

/-! ## What is configured -/

/-- What the option parser yields for the command line. -/
structure ServerArgs where
  uri : Bytes := bytesFromString "127.0.0.1:6002"
  rstream : Bool := false
  publish : Bool := false
  noPublish : Bool := false
  webttyConfig : Option Bytes := none
  serverId : Option Bytes := none
  serverEnrollment : Option Bytes := none
  transport : Bytes := bytesFromString "websocket"
  executionMode : Bytes := bytesFromString "spawn"
  loginUser : Option Bytes := none
  allowClientUser : Bool := false
  authTokenFile : Option Bytes := none
  allowUnauthenticated : Bool := false
  e2e : Bool := false
  identity : Option Bytes := none
  identityFile : Option Bytes := none
  authorizedClientKeys : List Bytes := []
  authorizedClientsFile : Option Bytes := none
  labels : List Bytes := []

structure ServerRuntimeConfig where
  uri : Option Bytes := none
  web : Option Bool := none
  serverId : Option Bytes := none
  serverEnrollment : Option Bytes := none
  transport : Option Bytes := none
  executionMode : Option Bytes := none
  loginUser : Option Bytes := none
  allowClientUser : Option Bool := none
  authTokenFile : Option Bytes := none
  allowUnauthenticated : Option Bool := none
  e2e : Option Bool := none
  identity : Option Bytes := none
  identityFile : Option Bytes := none
  authorizedClientsFile : Option Bytes := none

/-- The machine that the server tool runs on. -/
structure ServerSurroundings extends Surroundings where
  /-- `load_server_runtime_config`. -/
  runtimeConfig : Bytes → Except String ServerRuntimeConfig
  /-- The document in an enrollment file. -/
  enrollmentDocument : Bytes → Except String EnrollmentDocument
  /-- `load_identity_json`. -/
  identityJson : Bytes → Except String EndpointIdentity
  /-- `load_identity_file`. -/
  identityFile : Bytes → Except String EndpointIdentity
  /-- `load_identity_file_or_create`. -/
  identityFileOrCreate : Bytes → Except String EndpointIdentity
  accounts : Accounts
  /-- The constructor of `io::address` takes the URI. -/
  takesAddress : Bytes → Bool

/-- The options after the runtime configuration file has been read. -/
structure ServerOptions where
  uri : Bytes
  useWeb : Bool
  serverId : Bytes
  serverEnrollmentPath : Bytes
  transport : Bytes
  executionMode : Bytes
  executionModeExplicit : Bool
  loginUser : Bytes
  allowClientUser : Bool
  authTokenFile : Bytes
  allowUnauthenticated : Bool
  e2eRequested : Bool
  identityName : Bytes
  identityFile : Bytes
  identityFileConfigured : Bool
  authorizedClientKeys : List Bytes
  authorizedClientsFile : Bytes

section Source

variable (prims : Primitives) (parsesPublicKey : Bytes → Bool)
  (surroundings : ServerSurroundings) (args : ServerArgs) (argv : List Bytes)

/-- The runtime configuration, empty without a file. -/
def serverRuntimeConfig : Except String ServerRuntimeConfig := do
  let value := trimCopy (args.webttyConfig.getD [])
  let fromEnvironment := surroundings.getenvTrimmed "RSTREAM_WEBTTY_CONFIG"
  if value ≠ [] then do
    let path ← surroundings.expandPath value
    if path = [] then .ok {} else surroundings.runtimeConfig path
  else if fromEnvironment ≠ [] then do
    let path ← surroundings.expandPath fromEnvironment
    if path = [] then .ok {} else surroundings.runtimeConfig path
  else .ok {}

/-- The value of the file, unless the option stands on the command line. -/
def overridden {α : Type} (option : String) (fromFile : Option α) (value : α) : α :=
  if argvHas argv option then value else fromFile.getD value

/-- `authorized_client_keys`: those of the command line and of the environment. -/
def serverClientKeys : List Bytes :=
  args.authorizedClientKeys ++
    splitCommaSeparatedValues
      (surroundings.getenvTrimmed "RSTREAM_WEBTTY_AUTHORIZED_CLIENT_KEYS")

/-- `authorized_clients_file`. -/
def serverClientsFile (config : ServerRuntimeConfig) : Bytes :=
  let file := overridden argv "--authorized-clients-file" config.authorizedClientsFile
    (args.authorizedClientsFile.getD [])
  if file = [] then surroundings.getenvTrimmed "RSTREAM_WEBTTY_AUTHORIZED_CLIENTS_FILE" else file

/-- The identity file of the configuration counts if no identity is on the command line. -/
def fileIdentity (config : ServerRuntimeConfig) : Option Bytes :=
  if argvHas argv "--identity-file" || argvHas argv "--identity" then none
  else config.identityFile

def mergeServerOptions (config : ServerRuntimeConfig) : ServerOptions where
  uri := overridden argv "--uri" config.uri args.uri
  useWeb := overridden argv "--rstream" config.web args.rstream
  serverId := overridden argv "--server-id" config.serverId (args.serverId.getD [])
  serverEnrollmentPath :=
    overridden argv "--server-enrollment" config.serverEnrollment (args.serverEnrollment.getD [])
  transport := overridden argv "--transport" config.transport args.transport
  executionMode := overridden argv "--execution-mode" config.executionMode args.executionMode
  executionModeExplicit := argvHas argv "--execution-mode" || config.executionMode.isSome
  loginUser := overridden argv "--login-user" config.loginUser (args.loginUser.getD [])
  allowClientUser := overridden argv "--allow-client-user" config.allowClientUser args.allowClientUser
  authTokenFile :=
    overridden argv "--auth-token-file" config.authTokenFile (args.authTokenFile.getD [])
  allowUnauthenticated :=
    overridden argv "--allow-unauthenticated" config.allowUnauthenticated args.allowUnauthenticated
  e2eRequested := overridden argv "--e2e" config.e2e args.e2e
  identityName := trimCopy (overridden argv "--identity" config.identity (args.identity.getD []))
  identityFile := (fileIdentity argv config).getD (args.identityFile.getD [])
  identityFileConfigured :=
    !(args.identityFile.getD []).isEmpty || (fileIdentity argv config).isSome
  authorizedClientKeys := serverClientKeys surroundings args
  authorizedClientsFile := serverClientsFile surroundings args argv config

/-- A label of the command line is a key and a value. -/
def checkLabels : Except String PUnit :=
  args.labels.forM fun label => do
    let value := trimCopy label
    require ((cut 61 value).2.isSome = true ∧ (cut 61 value).1 ≠ []) "--label must be key=value"

def parseType (src : Bytes) : Except String ProtocolType :=
  if src = bytesFromString "websocket" then .ok .websocket
  else if src = bytesFromString "plain" then .ok .plain
  else if src = bytesFromString "webtransport" then
    .error "WebTransport is not implemented by the C++ WebTTY runtime; use the Go runtime"
  else .error "invalid --transport (valid: plain, websocket)"

/-- The checks of who may connect to a local server. -/
def checkLocalAccess (options : ServerOptions) (useWeb : Bool) (protocolType : ProtocolType)
    (authToken : Option Bytes) : Except String PUnit := do
  require (¬(useWeb = true ∧ authToken.isSome = true))
    ("--auth-token-file and RSTREAM_WEBTTY_AUTH_TOKEN are only used by local WebTTY " ++
      "WebSocket servers")
  require (¬(protocolType = .plain ∧ authToken.isSome = true))
    "plain WebTTY transport does not support HTTP bearer tokens"
  require (¬(useWeb = false ∧ protocolType = .plain ∧ options.allowUnauthenticated = false))
    ("local plain WebTTY transport has no HTTP auth layer; use --allow-unauthenticated only " ++
      "for isolated development")
  require (¬(useWeb = false ∧ protocolType = .websocket ∧ authToken.isSome = false ∧
      options.allowUnauthenticated = false))
    ("local WebTTY server requires --auth-token-file or RSTREAM_WEBTTY_AUTH_TOKEN; use " ++
      "--allow-unauthenticated only for isolated development")

/-- The identity that the options name. -/
structure IdentitySource where
  inline : Option EndpointIdentity
  file : Bytes
  fileConfigured : Bool

/-- The identity in the environment. -/
def inlineIdentity : Except String (Option EndpointIdentity) :=
  let envIdentity := surroundings.getenvTrimmed "RSTREAM_WEBTTY_IDENTITY"
  if envIdentity ≠ [] then (surroundings.identityJson envIdentity).map some else .ok none

def namedIdentityFile (options : ServerOptions) : Except String Bytes :=
  if options.identityName ≠ [] then surroundings.defaultIdentityPath options.identityName
  else .ok options.identityFile

/-- The part of `run` that settles where the identity comes from. -/
def serverIdentitySource (options : ServerOptions) : Except String IdentitySource := do
  require (¬(options.identityName ≠ [] ∧ options.identityFileConfigured = true))
    "--identity cannot be combined with --identity-file"
  let envIdentity := surroundings.getenvTrimmed "RSTREAM_WEBTTY_IDENTITY"
  require (¬(envIdentity ≠ [] ∧
      (options.identityName ≠ [] ∨ options.identityFileConfigured = true)))
    "RSTREAM_WEBTTY_IDENTITY cannot be combined with --identity or --identity-file"
  let inline ← inlineIdentity surroundings
  let file ← namedIdentityFile surroundings options
  let fileConfigured := options.identityFileConfigured || !options.identityName.isEmpty
  let envFile := surroundings.getenvTrimmed "RSTREAM_WEBTTY_IDENTITY_FILE"
  if file = [] ∧ envFile ≠ [] then .ok ⟨inline, envFile, true⟩
  else .ok ⟨inline, file, fileConfigured⟩

/-- The check of the server id of the options. -/
def checkServerId (options : ServerOptions) : Except String PUnit :=
  if options.serverId ≠ [] then validateLocalName options.serverId "--server-id" else .ok ⟨⟩

def serverEnrollmentFile (options : ServerOptions) : Except String Bytes :=
  if options.serverEnrollmentPath = [] then
    surroundings.defaultServerEnrollmentPath options.serverId
  else .ok options.serverEnrollmentPath

/-- The enrollment, if the server is registered. -/
def serverEnrollment (options : ServerOptions) : Except String (Option ServerEnrollment) :=
  if options.serverId ≠ [] ∨ options.serverEnrollmentPath ≠ [] then do
    checkServerId options
    let path ← serverEnrollmentFile surroundings options
    let document ← surroundings.enrollmentDocument path
    let enrollment ← loadServerEnrollment prims parsesPublicKey document
    require (¬(options.serverId ≠ [] ∧ enrollment.serverId ≠ options.serverId))
      "WebTTY server enrollment belongs to another server ID"
    .ok (some enrollment)
  else .ok none

def parseExecutionMode (src : Bytes) : Except String ExecutionMode :=
  if src = bytesFromString "spawn" ∨ src = [] then .ok .spawn
  else if src = bytesFromString "login" then .ok .login
  else .error "invalid execution mode"

def parseUsername (src : Bytes) : Except String (Option Identifier) :=
  if src = [] then .ok none
  else if src.all fun byte => 48 ≤ byte && byte ≤ 57 then
    let value := src.foldl (fun value byte => 10 * value + (byte - 48).toNat) 0
    if value < 2 ^ 32 then .ok (some (.id (UInt32.ofNat value)))
    else .error "numeric user identifier is out of range"
  else .ok (some (.name src))

/-- The execution mode and the user of the sessions. -/
def serverExecution (options : ServerOptions) (enrollment : Option ServerEnrollment) :
    Except String (ExecutionMode × Option Identifier) := do
  let executionMode ← parseExecutionMode
    (if enrollment.isSome = true ∧ options.executionModeExplicit = false then
      bytesFromString "login" else options.executionMode)
  let loginUser := trimCopy options.loginUser
  require (¬(executionMode ≠ .login ∧ (loginUser ≠ [] ∨ options.allowClientUser = true)))
    "--login-user and --allow-client-user require --execution-mode=login"
  require (¬(executionMode = .login ∧ loginUser = [] ∧ options.allowClientUser = false))
    ("login execution mode requires --login-user <local-username> for an existing account on " ++
      "this machine, or --allow-client-user")
  let defaultUsername ← parseUsername loginUser
  require (¬(executionMode = .login ∧ defaultUsername.isSome = true ∧
      (surroundings.accounts.getUserInfo defaultUsername).2.failed = true))
    "login user is not a usable local OS account"
  .ok (executionMode, defaultUsername)

/-- An identity that is there, or else one that is loaded. -/
def identityOr (identity : Option EndpointIdentity) (load : Except String EndpointIdentity) :
    Except String EndpointIdentity :=
  match identity with
  | some identity => .ok identity
  | none => load

def serverRegisteredIdentity (source : IdentitySource) (file : Bytes) :
    Option ServerEnrollment → Except String (Option EndpointIdentity)
  | none => .ok none
  | some enrollment => do
      let identity ← identityOr source.inline (surroundings.identityFile file)
      validateIdentityMatchesEnrollment prims identity enrollment
      .ok (some identity)

def e2eActive (options : ServerOptions) (source : IdentitySource)
    (enrollment : Option ServerEnrollment) : Bool :=
  options.e2eRequested || source.inline.isSome || source.fileConfigured ||
    !options.authorizedClientKeys.isEmpty || enrollment.any enrollmentRequiresE2e

/-- The keys of the authorised clients; two keys with one id must not differ. -/
def authorizedKeys (keys : List Bytes) : Except String (SortedMap Bytes Bytes) :=
  keys.foldlM (fun known value => do
    let parsed ← parseAuthorizedClientKey prims parsesPublicKey value
    require (known.find? parsed.1 = none ∨ known.find? parsed.1 = some parsed.2)
      "conflicting authorized WebTTY client signing key"
    .ok (known.insert parsed.1 parsed.2)) SortedMap.empty

/-- The name of an identity file without its suffix: `.identity.json`, or its last extension. -/
def identityStoreName (file : Bytes) : Bytes :=
  let base := (file.splitOn 47).getLastD []
  let ending := bytesFromString ".identity.json"
  if ending.length < base.length ∧ ending.isSuffixOf base then
    base.take (base.length - ending.length)
  else
    let stem := ((base.reverse.dropWhile (· ≠ 46)).drop 1).reverse
    if stem = [] then base else stem

/-- The name of the store of authorised clients. -/
def clientsStoreName (options : ServerOptions) (serverId file : Bytes) : Bytes :=
  if options.identityName ≠ [] then options.identityName
  else if serverId ≠ [] then serverId
  else if file ≠ [] ∧ identityStoreName file ≠ [] then identityStoreName file
  else bytesFromString "default"

/-- The identity file of a server with a protected terminal. -/
def protectedIdentityFile (source : IdentitySource) (file : Bytes) : Except String Bytes :=
  if file = [] ∧ source.inline = none then
    surroundings.defaultIdentityPath (bytesFromString "default")
  else .ok file

/-- The settings with a protected terminal. -/
def protectedSettings (options : ServerOptions) (source : IdentitySource)
    (enrollment : Option ServerEnrollment) (registered : Option EndpointIdentity)
    (serverId : Bytes) (file : Bytes) (settings : Settings) : Except String Settings := do
  let file ← protectedIdentityFile surroundings source file
  let identity ← identityOr (registered.or source.inline) (surroundings.identityFileOrCreate file)
  let settings := { settings with
    payloadCryptoResolver := true
    endpointIdentity := some identity
    requireClientProof := true
    workspaceId := enrollment.elim [] fun enrollment => enrollment.workspaceId
    projectId := enrollment.elim [] fun enrollment => enrollment.projectId
    serverId }
  if enrollment.any (·.encryptionPolicy = workspaceManaged) then do
    require (¬(options.authorizedClientKeys ≠ [] ∨ options.authorizedClientsFile ≠ []))
      ("workspace-managed WebTTY servers use trusted workspace devices for client " ++
        "authorization; remove --authorized-client-key, --authorized-clients-file, and " ++
        "RSTREAM_WEBTTY_AUTHORIZED_CLIENT_KEYS")
    .ok { settings with clientProofCredentialVerifier := true }
  else do
    let keys ← authorizedKeys prims parsesPublicKey options.authorizedClientKeys
    if options.authorizedClientsFile = [] then do
      let _ ← surroundings.defaultAuthorizedClientsPath (clientsStoreName options serverId file)
      .ok { settings with
            authorizedClientSigningKeys := keys.entries
            authorizedClientSigningKeyResolver := true }
    else .ok { settings with
               authorizedClientSigningKeys := keys.entries
               authorizedClientSigningKeyResolver := true }

/-- What `run` has settled on when it makes the server. -/
structure ServerStart where
  config : ServerRuntimeConfig
  enrollment : Option ServerEnrollment
  settings : Settings

/-- `run`, up to the settings that are handed to the server. -/
def runServer : Except String ServerStart := do
  require (¬(args.publish = true ∧ args.noPublish = true))
    "--publish and --no-publish cannot be combined"
  let config ← serverRuntimeConfig surroundings args
  let options := mergeServerOptions surroundings args argv config
  checkLabels args
  let useWeb := options.useWeb || !options.serverId.isEmpty || !options.serverEnrollmentPath.isEmpty
  require (useWeb = true ∨ ¬(argvHas argv "--publish" = true ∨ argvHas argv "--no-publish" = true))
    "--publish and --no-publish require --rstream, --server-id, or --server-enrollment"
  let protocolType ← parseType options.transport
  let authToken ← surroundings.readAuthToken options.authTokenFile
  checkLocalAccess options useWeb protocolType authToken
  let source ← serverIdentitySource surroundings options
  let enrollment ← serverEnrollment prims parsesPublicKey surroundings options
  let serverId := enrollment.elim options.serverId (·.serverId)
  let file := if source.file = [] then enrollment.elim [] (·.identityFile) else source.file
  let execution ← serverExecution surroundings options enrollment
  let registered ← serverRegisteredIdentity prims surroundings source file enrollment
  require (surroundings.takesAddress options.uri = true) "invalid URI"
  let settings : Settings := {
    timeoutStart := 5000
    timeoutOpen := 5000
    timeoutClose := 5000
    timeoutHeartbeat := 5000
    executionMode := execution.1
    defaultUsername := execution.2
    allowClientUser := options.allowClientUser
    authToken
    protocolType }
  if e2eActive options source enrollment then do
    let settings ← protectedSettings prims parsesPublicKey surroundings options source enrollment
      registered serverId file settings
    .ok ⟨config, enrollment, settings⟩
  else .ok ⟨config, enrollment, settings⟩

end Source

/-! ## What the settings are to be -/

section Policy

variable (surroundings : ServerSurroundings) (args : ServerArgs) (argv : List Bytes)
  (start : ServerStart)

/-- An identity option or variable is set. A blank name does not count. -/
inductive IdentityConfigured : Prop
  | name (set : trimCopy (args.identity.getD []) ≠ [])
  | nameInConfig (set : trimCopy (start.config.identity.getD []) ≠ [])
  | file (set : args.identityFile.getD [] ≠ [])
  | fileInConfig (set : start.config.identityFile.isSome = true)
  | inline (set : surroundings.getenvTrimmed "RSTREAM_WEBTTY_IDENTITY" ≠ [])
  | environment (set : surroundings.getenvTrimmed "RSTREAM_WEBTTY_IDENTITY_FILE" ≠ [])

/-- A file of authorised clients is named. -/
inductive ClientsFileConfigured : Prop
  | option (set : args.authorizedClientsFile.getD [] ≠ [])
  | config (set : start.config.authorizedClientsFile.getD [] ≠ [])
  | environment (set : surroundings.getenvTrimmed "RSTREAM_WEBTTY_AUTHORIZED_CLIENTS_FILE" ≠ [])

/-- Client authorisation is configured. -/
inductive AuthorisationConfigured : Prop
  | clientKey (set : serverClientKeys surroundings args ≠ [])
  | clientsFile (set : ClientsFileConfigured surroundings args start)
  | e2e (set : args.e2e = true ∨ start.config.e2e = some true)
  | identity (set : IdentityConfigured surroundings args start)
  | enrollment (enrollment : ServerEnrollment) (registered : start.enrollment = some enrollment)
      (requires : enrollmentRequiresE2e enrollment = true)

/-- Clients prove who they are, and the terminal is encrypted. -/
structure Enforced (settings : Settings) : Prop where
  proof : settings.requireClientProof = true
  identity : settings.endpointIdentity.isSome = true
  crypto : settings.payloadCryptoResolver = true

/-- The credential verifier is the only source of authorised keys. -/
structure VerifierOnly (settings : Settings) : Prop where
  keys : settings.authorizedClientSigningKeys = []
  resolver : settings.authorizedClientSigningKeyResolver = false
  verifier : settings.clientProofCredentialVerifier = true

/-- A configured authorisation is enforced, and a workspace-managed server leaves it to its
workspace. -/
structure KeepsAuthorisation : Prop where
  enforced : AuthorisationConfigured surroundings args start → Enforced start.settings
  managed : ∀ enrollment, start.enrollment = some enrollment →
    enrollment.encryptionPolicy = workspaceManaged → VerifierOnly start.settings

/-- The merge discards an option: the command line and the file disagree, and the one that it takes
asks for nothing. -/
inductive OptionDiscarded : Prop
  | e2e (asked : args.e2e = true ∨ start.config.e2e = some true)
      (off : overridden argv "--e2e" start.config.e2e args.e2e = false)
  | identity
      (named : trimCopy (args.identity.getD []) ≠ [] ∨ trimCopy (start.config.identity.getD []) ≠ [])
      (blank : trimCopy (overridden argv "--identity" start.config.identity
        (args.identity.getD [])) = [])
  | identityFile (named : start.config.identityFile.isSome = true)
      (replaced : argvHas argv "--identity-file" = true ∨ argvHas argv "--identity" = true)

/-- The identity that the merged options have. -/
inductive IdentityActivated : Prop
  | name (set : trimCopy (overridden argv "--identity" start.config.identity
      (args.identity.getD [])) ≠ [])
  | file (set : args.identityFile.getD [] ≠ [])
  | fromConfig (set : (fileIdentity argv start.config).isSome = true)
  | inline (set : surroundings.getenvTrimmed "RSTREAM_WEBTTY_IDENTITY" ≠ [])
  | environment (set : surroundings.getenvTrimmed "RSTREAM_WEBTTY_IDENTITY_FILE" ≠ [])

/-- What makes the server ask for proofs. -/
inductive AuthorisationActivated : Prop
  | clientKey (set : serverClientKeys surroundings args ≠ [])
  | e2e (set : overridden argv "--e2e" start.config.e2e args.e2e = true)
  | identity (set : IdentityActivated surroundings args argv start)
  | enrollment (enrollment : ServerEnrollment) (registered : start.enrollment = some enrollment)
      (requires : enrollmentRequiresE2e enrollment = true)

end Policy

/-! ## Where the settings come from -/

section Settings

variable {prims : Primitives} {parsesPublicKey : Bytes → Bool}
  {surroundings : ServerSurroundings} {args : ServerArgs} {argv : List Bytes}

theorem isSome_inlineIdentity {inline : Option EndpointIdentity}
    (reads : inlineIdentity surroundings = .ok inline) :
    inline.isSome = true ↔ surroundings.getenvTrimmed "RSTREAM_WEBTTY_IDENTITY" ≠ [] := by
  simp only [inlineIdentity] at reads
  split at reads
  · rename_i set
    cases parsed : surroundings.identityJson
        (surroundings.getenvTrimmed "RSTREAM_WEBTTY_IDENTITY") with
    | error failure =>
      rw [parsed] at reads
      cases reads
    | ok identity =>
      rw [parsed] at reads
      cases reads
      exact iff_of_true rfl set
  · rename_i unset
    cases reads
    exact iff_of_false Bool.false_ne_true unset

variable {config : ServerRuntimeConfig} {options : ServerOptions}
  {registered : Option EndpointIdentity} {serverId file : Bytes} {settings result : Settings}

theorem identityFileConfigured_of_file
    (set : (mergeServerOptions surroundings args argv config).identityFile ≠ []) :
    (mergeServerOptions surroundings args argv config).identityFileConfigured = true := by
  simp only [mergeServerOptions] at set ⊢
  cases fromFile : fileIdentity argv config with
  | none =>
    rw [fromFile, Option.getD_none] at set
    simp [set]
  | some file => simp

theorem identityFileConfigured_iff :
    (mergeServerOptions surroundings args argv config).identityFileConfigured = true ↔
      args.identityFile.getD [] ≠ [] ∨ (fileIdentity argv config).isSome = true := by
  simp [mergeServerOptions]

variable {source : IdentitySource}

/-- **The source of the identity** says whether the merged options have one. -/
theorem identityActivated_iff {start : ServerStart} (resolved : serverIdentitySource surroundings
      (mergeServerOptions surroundings args argv start.config) = .ok source) :
    source.inline.isSome = true ∨ source.fileConfigured = true ↔
      IdentityActivated surroundings args argv start := by
  simp only [serverIdentitySource, bind_eq_ok] at resolved
  obtain ⟨_, -, _, -, inline, reads, file, names, last⟩ := resolved
  have inlined := isSome_inlineIdentity reads
  have configured := @identityFileConfigured_iff surroundings args argv start.config
  have nonempty := @identityFileConfigured_of_file surroundings args argv start.config
  have named : (mergeServerOptions surroundings args argv start.config).identityName =
      trimCopy (overridden argv "--identity" start.config.identity (args.identity.getD [])) := rfl
  generalize mergeServerOptions surroundings args argv start.config = options at *
  have fromName : (options.identityFileConfigured || !options.identityName.isEmpty) = true ↔
      options.identityFileConfigured = true ∨ options.identityName ≠ [] := by simp
  split at last
  · rename_i environment
    cases last
    exact iff_of_true (.inr rfl) (.environment environment.2)
  · rename_i noEnvironment
    cases last
    show inline.isSome = true ∨ (options.identityFileConfigured || !options.identityName.isEmpty) =
      true ↔ _
    rw [inlined, fromName]
    constructor
    · rintro (set | set | set)
      · exact .inline set
      · exact (configured.mp set).elim .file .fromConfig
      · exact .name (named ▸ set)
    · rintro (set | set | set | set | set)
      · exact .inr (.inr (named ▸ set))
      · exact .inr (.inl (configured.mpr (.inl set)))
      · exact .inr (.inl (configured.mpr (.inr set)))
      · exact .inl set
      · have kept : file ≠ [] := fun empty => noEnvironment ⟨empty, set⟩
        unfold namedIdentityFile at names
        split at names
        · rename_i byName
          exact .inr (.inr byName)
        · cases names
          exact .inr (.inl (nonempty kept))

/-- The parts of a start that succeeds. -/
structure StartsAs (prims : Primitives) (parsesPublicKey : Bytes → Bool)
    (surroundings : ServerSurroundings) (args : ServerArgs) (argv : List Bytes)
    (start : ServerStart) (source : IdentitySource) : Prop where
  resolved : serverIdentitySource surroundings
    (mergeServerOptions surroundings args argv start.config) = .ok source
  active : e2eActive (mergeServerOptions surroundings args argv start.config) source
    start.enrollment = true → ∃ registered serverId file settings,
      protectedSettings prims parsesPublicKey surroundings
        (mergeServerOptions surroundings args argv start.config) source start.enrollment registered
        serverId file settings = .ok start.settings ∧
      settings.authorizedClientSigningKeys = [] ∧
      settings.authorizedClientSigningKeyResolver = false
  inactive : e2eActive (mergeServerOptions surroundings args argv start.config) source
    start.enrollment = false → start.settings.requireClientProof = false

theorem startsAs_of_runServer {start : ServerStart}
    (accepted : runServer prims parsesPublicKey surroundings args argv = .ok start) :
    ∃ source, StartsAs prims parsesPublicKey surroundings args argv start source := by
  simp only [runServer, bind_eq_ok] at accepted
  obtain ⟨_, -, config, -, _, -, _, -, protocolType, -, authToken, -, _, -, source, resolved,
    enrollment, -, execution, -, registered, -, _, -, last⟩ := accepted
  refine ⟨source, ?_⟩
  split at last
  · rename_i active
    obtain ⟨settings, protects, same⟩ := bind_eq_ok.mp last
    cases same
    exact ⟨resolved, fun _ => ⟨registered, _, _, _, protects, rfl, rfl⟩,
      fun inactive => absurd active (Bool.eq_false_iff.mp inactive)⟩
  · rename_i inactive
    cases last
    exact ⟨resolved, fun active => absurd active inactive, fun _ => rfl⟩

/-- **Protected settings** enforce what was configured. -/
theorem enforced_of_protectedSettings {enrollment : Option ServerEnrollment}
    (protects : protectedSettings prims parsesPublicKey surroundings options source enrollment
      registered serverId file settings = .ok result) : Enforced result := by
  simp only [protectedSettings, bind_eq_ok] at protects
  obtain ⟨_, -, identity, -, last⟩ := protects
  split at last
  · obtain ⟨_, -, same⟩ := bind_eq_ok.mp last
    cases same
    exact ⟨rfl, rfl, rfl⟩
  · obtain ⟨keys, -, last⟩ := bind_eq_ok.mp last
    split at last
    · obtain ⟨_, -, same⟩ := bind_eq_ok.mp last
      cases same
      exact ⟨rfl, rfl, rfl⟩
    · cases last
      exact ⟨rfl, rfl, rfl⟩

theorem verifierOnly_of_protectedSettings {enrollment : ServerEnrollment}
    (managed : enrollment.encryptionPolicy = workspaceManaged)
    (noKeys : settings.authorizedClientSigningKeys = [])
    (noResolver : settings.authorizedClientSigningKeyResolver = false)
    (protects : protectedSettings prims parsesPublicKey surroundings options source
      (some enrollment) registered serverId file settings = .ok result) : VerifierOnly result := by
  simp only [protectedSettings, bind_eq_ok] at protects
  obtain ⟨_, -, identity, -, last⟩ := protects
  rw [Option.any_some, if_pos (decide_eq_true managed)] at last
  obtain ⟨_, -, same⟩ := bind_eq_ok.mp last
  cases same
  exact ⟨noKeys, noResolver, rfl⟩

/-- What makes the server ask for proofs is just what it looks at. -/
theorem e2eActive_iff {start : ServerStart} (resolved : serverIdentitySource surroundings
      (mergeServerOptions surroundings args argv start.config) = .ok source) :
    e2eActive (mergeServerOptions surroundings args argv start.config) source start.enrollment =
        true ↔ AuthorisationActivated surroundings args argv start := by
  have identity := identityActivated_iff resolved
  have active : e2eActive (mergeServerOptions surroundings args argv start.config) source
      start.enrollment = true ↔
        overridden argv "--e2e" start.config.e2e args.e2e = true ∨
          (source.inline.isSome = true ∨ source.fileConfigured = true) ∨
            serverClientKeys surroundings args ≠ [] ∨
              start.enrollment.any enrollmentRequiresE2e = true := by
    simp [e2eActive, mergeServerOptions, or_assoc]
  rw [active, identity, Option.any_eq_true]
  constructor
  · rintro (set | set | set | ⟨enrollment, registered, requires⟩)
    · exact .e2e set
    · exact .identity set
    · exact .clientKey set
    · exact .enrollment enrollment registered requires
  · rintro (set | set | set | ⟨enrollment, registered, requires⟩)
    · exact .inr (.inr (.inl set))
    · exact .inl set
    · exact .inr (.inl set)
    · exact .inr (.inr (.inr ⟨enrollment, registered, requires⟩))

/-- A switch is effective, or the merge discards it. -/
theorem e2e_asked_iff {start : ServerStart} :
    args.e2e = true ∨ start.config.e2e = some true ↔
      overridden argv "--e2e" start.config.e2e args.e2e = true ∨
        ((args.e2e = true ∨ start.config.e2e = some true) ∧
          overridden argv "--e2e" start.config.e2e args.e2e = false) := by
  unfold overridden
  cases argvHas argv "--e2e" <;> cases args.e2e <;> cases start.config.e2e with
  | none => simp
  | some enabled => cases enabled <;> simp

/-- A name that is effective stands on the command line or in the file. -/
theorem identity_named {start : ServerStart}
    (set : trimCopy (overridden argv "--identity" start.config.identity
      (args.identity.getD [])) ≠ []) :
    trimCopy (args.identity.getD []) ≠ [] ∨ trimCopy (start.config.identity.getD []) ≠ [] := by
  unfold overridden at set
  split at set
  · exact .inl set
  · cases config : start.config.identity with
    | none =>
      rw [config] at set
      exact .inl set
    | some name =>
      rw [config] at set
      exact .inr set

theorem identity_kept {start : ServerStart} (set : IdentityConfigured surroundings args start) :
    IdentityActivated surroundings args argv start ∨ OptionDiscarded args argv start := by
  have byName (named : trimCopy (args.identity.getD []) ≠ [] ∨
      trimCopy (start.config.identity.getD []) ≠ []) :
      IdentityActivated surroundings args argv start ∨ OptionDiscarded args argv start := by
    by_cases blank : trimCopy (overridden argv "--identity" start.config.identity
        (args.identity.getD [])) = []
    · exact .inr (.identity named blank)
    · exact .inl (.name blank)
  cases set with
  | name set => exact byName (.inl set)
  | nameInConfig set => exact byName (.inr set)
  | file set => exact .inl (.file set)
  | fileInConfig set =>
    by_cases replaced : (argvHas argv "--identity-file" || argvHas argv "--identity") = true
    · exact .inr (.identityFile set (Bool.or_eq_true_iff.mp replaced))
    · exact .inl (.fromConfig (by rwa [fileIdentity, if_neg replaced]))
  | inline set => exact .inl (.inline set)
  | environment set => exact .inl (.environment set)

theorem identity_configured {start : ServerStart}
    (active : IdentityActivated surroundings args argv start) :
    IdentityConfigured surroundings args start := by
  cases active with
  | name set => exact (identity_named set).elim .name .nameInConfig
  | file set => exact .file set
  | fromConfig set =>
    unfold fileIdentity at set
    split at set
    · cases set
    · exact .fileInConfig set
  | inline set => exact .inline set
  | environment set => exact .environment set

theorem configured_of_optionDiscarded {start : ServerStart}
    (discarded : OptionDiscarded args argv start) :
    AuthorisationConfigured surroundings args start := by
  cases discarded with
  | e2e asked => exact .e2e asked
  | identity named => exact .identity (named.elim .name .nameInConfig)
  | identityFile named => exact .identity (.fileInConfig named)

theorem authorisationConfigured_iff {start : ServerStart} :
    AuthorisationConfigured surroundings args start ↔
      AuthorisationActivated surroundings args argv start ∨
        ClientsFileConfigured surroundings args start ∨ OptionDiscarded args argv start := by
  constructor
  · rintro (set | set | set | set | ⟨enrollment, registered, requires⟩)
    · exact .inl (.clientKey set)
    · exact .inr (.inl set)
    · exact (e2e_asked_iff.mp set).imp .e2e fun off => .inr (.e2e off.1 off.2)
    · exact (identity_kept set).imp .identity .inr
    · exact .inl (.enrollment enrollment registered requires)
  · rintro ((set | set | set | ⟨enrollment, registered, requires⟩) | set | discarded)
    · exact .clientKey set
    · exact .e2e (e2e_asked_iff.mpr (.inl set))
    · exact .identity (identity_configured set)
    · exact .enrollment enrollment registered requires
    · exact .clientsFile set
    · exact configured_of_optionDiscarded discarded

/-- **A start keeps the configured authorisation** exactly if an authorised clients file, or an
option that the merge discards, is not all that is configured. -/
theorem keepsAuthorisation_iff {start : ServerStart}
    (accepted : runServer prims parsesPublicKey surroundings args argv = .ok start) :
    KeepsAuthorisation surroundings args start ↔
      (ClientsFileConfigured surroundings args start ∨ OptionDiscarded args argv start →
        AuthorisationActivated surroundings args argv start) := by
  obtain ⟨source, starts⟩ := startsAs_of_runServer accepted
  have active := e2eActive_iff starts.resolved
  constructor
  · rintro ⟨enforced, -⟩ exposed
    rw [← active]
    by_contra inactive
    have proof := (enforced (authorisationConfigured_iff.mpr (.inr exposed))).proof
    rw [starts.inactive (Bool.eq_false_iff.mpr inactive)] at proof
    cases proof
  · intro safe
    refine ⟨fun configured => ?_, fun enrollment registered managed => ?_⟩
    · have activated := (authorisationConfigured_iff.mp configured).elim id safe
      obtain ⟨_, _, _, _, protects, -⟩ := starts.active (active.mpr activated)
      exact enforced_of_protectedSettings protects
    · have requires : enrollmentRequiresE2e enrollment = true := decide_eq_true (.inr managed)
      obtain ⟨_, _, _, settings, protects, noKeys, noResolver⟩ :=
        starts.active (active.mpr (.enrollment enrollment registered requires))
      rw [registered] at protects
      exact verifierOnly_of_protectedSettings managed noKeys noResolver protects

end Settings

/-! ## A server with a file of authorised clients -/

/-- A machine with a bearer token in the environment. -/
def sampleMachine : ServerSurroundings where
  getenv name :=
    if name = "HOME" then some (bytesFromString "/home/op")
    else if name = "RSTREAM_WEBTTY_AUTH_TOKEN" then some (bytesFromString "token")
    else none
  lexicallyNormal path := path
  readFile _ := none
  runtimeConfig _ := .error "failed to read WebTTY server runtime config"
  enrollmentDocument _ := .error "failed to read WebTTY server enrollment"
  identityJson _ := .ok Server.sampleIdentity
  identityFile _ := .ok Server.sampleIdentity
  identityFileOrCreate _ := .ok Server.sampleIdentity
  accounts := ⟨fun _ => .ok {}, fun _ => .ok {}, 1000⟩
  takesAddress _ := true

/-- `--authorized-clients-file=/clients.json`. -/
def clientsFileArgs : ServerArgs where
  authorizedClientsFile := some (bytesFromString "/clients.json")

/-- The same with `--e2e`. -/
def protectedArgs : ServerArgs := { clientsFileArgs with e2e := true }

/-- The words of `clientsFileArgs`. -/
def clientsFileArgv : List Bytes :=
  [bytesFromString "server", bytesFromString "--authorized-clients-file=/clients.json"]

/-- The words of `protectedArgs`. -/
def protectedArgv : List Bytes := clientsFileArgv ++ [bytesFromString "--e2e"]

theorem sampleMachine_keepsAuthorisation :
    ∃ start, runServer smallPrims (fun _ => true) sampleMachine protectedArgs protectedArgv =
        .ok start ∧
      KeepsAuthorisation sampleMachine protectedArgs start := by
  have accepted : ∃ start, runServer smallPrims (fun _ => true) sampleMachine protectedArgs
      protectedArgv = .ok start := ⟨_, rfl⟩
  obtain ⟨start, accepted⟩ := accepted
  have switched : argvHas protectedArgv "--e2e" = true := by decide
  exact ⟨start, accepted, (keepsAuthorisation_iff accepted).mpr fun _ => .e2e (if_pos switched)⟩

/-- With nothing but the file the server starts, and asks no client for a proof. -/
theorem clientsFile_ignored :
    ∃ start, runServer smallPrims (fun _ => true) sampleMachine clientsFileArgs
        clientsFileArgv = .ok start ∧
      ¬ KeepsAuthorisation sampleMachine clientsFileArgs start := by
  refine ⟨_, rfl, fun keeps => ?_⟩
  have proof := (keeps.enforced (.clientsFile (.option (by decide)))).proof
  cases proof

end Rstream.Webtty.Cli
