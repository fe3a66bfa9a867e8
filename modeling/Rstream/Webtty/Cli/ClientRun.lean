import Rstream.Webtty.Cli.Discovery
import Rstream.Webtty.Cli.KnownServers
import Rstream.Webtty.Cli.ServerRun

/-!
# The settings of the client tool

The client tool resolves the known servers of its command line, its environment and its files, and
makes the settings of the client. The terminal is encrypted when a source of known servers is
looked at; the default file is looked at only with `--e2e` or `--known-server`, so its mere presence
leaves the terminal in the clear (`clientRun_failsClosed_iff`).
-/

namespace Rstream.Webtty.Cli

open Library
open Server (EndpointIdentity EndpointIdentityPublic Identifier ProtocolConfig ProtocolType)

/-! ## The source -/

/-- What the option parser yields for the command line. -/
structure ClientArgs where
  uri : Bytes := bytesFromString "127.0.0.1:6002"
  interactive : Bool := false
  noInteractive : Bool := false
  tty : Bool := false
  noTty : Bool := false
  env : List Bytes := []
  workdir : Option Bytes := none
  user : Option Bytes := none
  transport : Option Bytes := none
  noDiscovery : Bool := false
  authTokenFile : Option Bytes := none
  e2e : Bool := false
  identity : Option Bytes := none
  identityFile : Option Bytes := none
  clientCredentialFile : Option Bytes := none
  knownServer : Option Bytes := none
  knownServerKeys : List Bytes := []
  knownServersFile : Option Bytes := none
  cmd : List Bytes := []

/-- The machine that the client tool runs on. -/
structure ClientSurroundings extends Surroundings where
  /-- `get_environment_variable` of a name on the command line. -/
  variableOf : Bytes → Option Bytes
  /-- `std::filesystem::exists`. -/
  fileExists : Bytes → Except String Bool
  /-- The document in a file of known servers. -/
  knownServersDocument : Bytes → Except String Json
  /-- `load_identity_json`. -/
  identityJson : Bytes → Except String EndpointIdentity
  /-- `load_identity_file`. -/
  identityFile : Bytes → Except String EndpointIdentity
  /-- The scheme of a URI that the constructor of `io::address` takes. -/
  addressScheme : Bytes → Except String Bytes
  /-- `discover_webtty_server`, with the URI and the transport that is asked for. -/
  discover : Bytes → Bytes → Except String DiscoveredServer

section Source

variable (prims : Primitives) (parsesPublicKey : Bytes → Bool) (draws : ClientDraws)
  (surroundings : ClientSurroundings) (args : ClientArgs)

/-- `--known-server`, trimmed. -/
def knownServerName : Bytes := trimCopy (args.knownServer.getD [])

/-- The explicit keys, those of the command line first. -/
def explicitKeys : List Bytes :=
  let key := surroundings.getenvTrimmed "RSTREAM_WEBTTY_KNOWN_SERVER_KEY"
  args.knownServerKeys ++ (if key = [] then [] else [key])

/-- The check of a name that is given. -/
def checkKnownServerName : Except String PUnit :=
  if knownServerName args ≠ [] then validateLocalName (knownServerName args) "--known-server"
  else .ok ⟨⟩

/-- The explicit keys of a resolution. -/
def explicitResolution : Except String KnownServerResolution := do
  checkKnownServerName args
  let explicit ← (explicitKeys surroundings args).foldlM
    (KnownServerResolution.addKey prims parsesPublicKey) {}
  require (¬(knownServerName args ≠ [] ∧ explicit.recipients ≠ []))
    ("--known-server cannot be combined with --known-server-key or " ++
      "RSTREAM_WEBTTY_KNOWN_SERVER_KEY")
  .ok explicit

/-- The file of known servers that an option or a variable names. -/
def configuredKnownServersFile : Bytes :=
  let file := trimCopy (args.knownServersFile.getD [])
  if file = [] then surroundings.getenvTrimmed "RSTREAM_WEBTTY_KNOWN_SERVERS_FILE" else file

/-- `known_server_uses_default_file`. -/
def usesDefaultFile : Bool :=
  !(knownServerName args).isEmpty && (configuredKnownServersFile surroundings args).isEmpty

/-- The file before `--e2e` is looked at. -/
def namedKnownServersFile : Except String Bytes :=
  if usesDefaultFile surroundings args then surroundings.defaultKnownServersPath
  else .ok (configuredKnownServersFile surroundings args)

/-- The default file, if it is there. -/
def existingDefaultFile : Except String Bytes := do
  let file ← surroundings.defaultKnownServersPath
  let path ← surroundings.expandPath file
  let found ← surroundings.fileExists path
  .ok (if found then file else [])

/-- With `--e2e` the default file is a last resort. -/
def lastResortFile (explicit : KnownServerResolution) (named : Bytes) : Except String Bytes :=
  if args.e2e = true ∧ explicit.recipients = [] ∧ named = [] then existingDefaultFile surroundings
  else .ok named

/-- A name needs the default file to be there. -/
def checkDefaultFile (file : Bytes) : Except String PUnit :=
  if file ≠ [] ∧ usesDefaultFile surroundings args = true then do
    let path ← surroundings.expandPath file
    let found ← surroundings.fileExists path
    require (found = true) "known WebTTY server was not found"
  else .ok ⟨⟩

/-- The file of known servers that is read, if any. -/
def knownServersFile (explicit : KnownServerResolution) (named : Bytes) : Except String Bytes := do
  let file ← lastResortFile surroundings args explicit named
  require (¬(explicit.recipients ≠ [] ∧ configuredKnownServersFile surroundings args ≠ []))
    "--known-server-key cannot be combined with --known-servers-file"
  checkDefaultFile surroundings args file
  .ok file

def loadKnownServerEntriesFile (rawPath : Bytes) : Except String (List KnownServerEntry) := do
  let path ← surroundings.expandPath rawPath
  surroundings.knownServersDocument path >>= readKnownServerEntries prims parsesPublicKey

/-- The entries of the file join the explicit keys. -/
def resolveFile (explicit : KnownServerResolution) (file : Bytes) :
    Except String KnownServerResolution :=
  if file = [] then .ok explicit
  else do
    let entries ← loadKnownServerEntriesFile prims parsesPublicKey surroundings file
    resolveEntries explicit args.uri (args.knownServer.getD []) entries

def readKnownServerResolution : Except String KnownServerResolution := do
  let explicit ← explicitResolution prims parsesPublicKey surroundings args
  let named ← namedKnownServersFile surroundings args
  let file ← knownServersFile surroundings args explicit named
  let resolution ← resolveFile prims parsesPublicKey surroundings args explicit file
  require (¬((args.e2e = true ∨ explicit.recipients ≠ [] ∨ named ≠ [] ∨
      knownServerName args ≠ []) ∧ resolution.recipients = []))
    ("E2E client mode requires --known-server-key, --known-servers-file, " ++
      "RSTREAM_WEBTTY_KNOWN_SERVER_KEY, RSTREAM_WEBTTY_KNOWN_SERVERS_FILE, or " ++
      "~/.rstream/webtty/known_servers.json")
  .ok resolution

def parseEnvironment (variableOf : Bytes → Option Bytes) (src : List Bytes) :
    List (Bytes × Bytes) :=
  src.filterMap fun text =>
    if text = [] then none
    else match cut 61 text with
      | (key, some value) => some (key, value)
      | (key, none) => (variableOf key).map fun value => (key, value)

/-- A pair of switches; without either, a shell has what a command has not. -/
def switched (on off : Bool) : Bool := on || (!off && args.cmd.isEmpty)

/-- The command of the client. -/
def clientProtocolConfig (username : Option Identifier) : ProtocolConfig where
  options := {
    interactive := switched args args.interactive args.noInteractive
    allocateTty := switched args args.tty args.noTty
    sendHeartbeat := true }
  cmdArgs := args.cmd
  envVars := parseEnvironment surroundings.variableOf args.env
  workdir := args.workdir
  username

/-- The server in the inventory of the engine, for a tunnel. -/
def discoverServer (requested : Bytes) : Except String (Option DiscoveredServer) := do
  let scheme ← surroundings.addressScheme args.uri
  if scheme = bytesFromString "rstrm" ∧ args.noDiscovery = false then
    (surroundings.discover args.uri requested).map some
  else .ok none

/-- What `run` settles before it looks at the known servers. -/
structure ClientTransport where
  protocolType : ProtocolType
  discovered : Option DiscoveredServer
  username : Option Identifier

/-- The part of `run` before the known servers. -/
def clientTransport : Except String ClientTransport := do
  let requested := args.transport.getD []
  require (¬(args.noDiscovery = true ∧ requested = []))
    "--no-discovery requires --transport (plain, websocket)"
  let requestedType ←
    parseType (if requested = [] then bytesFromString "websocket" else requested)
  let discovered ← discoverServer surroundings args requested
  let protocolType ← discovered.elim (.ok requestedType) fun server => parseType server.transport
  let authToken ← surroundings.readAuthToken (args.authTokenFile.getD [])
  require (¬(protocolType = .plain ∧ authToken.isSome = true))
    "plain WebTTY transport does not support HTTP bearer tokens"
  let username ← parseUsername (args.user.getD [])
  .ok { protocolType, discovered, username }

/-- The payload crypto of a client that has recipients. -/
def clientPayloadCrypto (recipients : List E2eRecipient) : Except String (Option PayloadCrypto) :=
  if recipients = [] then .ok none
  else
    let made := makeE2eClientPayloadCrypto prims { recipients } draws
    if made.2.failed ∨ made.1 = none then .error "failed to configure WebTTY E2E payload crypto"
    else .ok made.1

def checkIdentityOptions : Except String PUnit := do
  let name := trimCopy (args.identity.getD [])
  let file := trimCopy (args.identityFile.getD [])
  require (¬(name ≠ [] ∧ file ≠ [])) "--identity cannot be combined with --identity-file"
  require (¬(surroundings.getenvTrimmed "RSTREAM_WEBTTY_IDENTITY" ≠ [] ∧ (name ≠ [] ∨ file ≠ [])))
    "RSTREAM_WEBTTY_IDENTITY cannot be combined with --identity or --identity-file"

/-- The identity file that an option names. -/
def optionIdentityFile : Except String Bytes :=
  let name := trimCopy (args.identity.getD [])
  if name ≠ [] then surroundings.defaultIdentityPath name
  else .ok (trimCopy (args.identityFile.getD []))

/-- The identity file of the client: an option, a variable, or what the known server names. -/
def clientIdentityFile (clientIdentity : Bytes) : Except String Bytes := do
  let file ← optionIdentityFile surroundings args
  let environment := surroundings.getenvTrimmed "RSTREAM_WEBTTY_IDENTITY_FILE"
  if file ≠ [] then .ok file
  else if environment ≠ [] then .ok environment
  else if clientIdentity ≠ [] then surroundings.defaultIdentityPath clientIdentity
  else .ok []

def clientOwnIdentity (clientIdentity : Bytes) : Except String (Option EndpointIdentity) := do
  checkIdentityOptions surroundings args
  let file ← clientIdentityFile surroundings args clientIdentity
  let environment := surroundings.getenvTrimmed "RSTREAM_WEBTTY_IDENTITY"
  if environment ≠ [] then (surroundings.identityJson environment).map some
  else if file ≠ [] then (surroundings.identityFile file).map some
  else .ok none

def readClientCredential : Except String Bytes :=
  let option := trimCopy (args.clientCredentialFile.getD [])
  let path := if option = [] then
    surroundings.getenvTrimmed "RSTREAM_WEBTTY_CLIENT_CREDENTIAL_FILE" else option
  if path = [] then .ok []
  else surroundings.readTrimmedFile path "WebTTY client credential file"

/-- What `run` hands to the client: the recipients of the session key, and the settings. -/
structure ClientStart where
  recipients : List E2eRecipient
  settings : Client.Settings

/-- The part of `run` after the known servers. -/
def clientStart (transport : ClientTransport) (resolution : KnownServerResolution) :
    Except String ClientStart := do
  require (¬(transport.discovered.any (·.requiresKnownServer) = true ∧
      (resolution.recipients = [] ∨ resolution.endpointIdentities = [])))
    "WebTTY server requires authenticated E2E; configure its known endpoint identity locally"
  let payloadCrypto ← clientPayloadCrypto prims draws resolution.recipients
  let endpointIdentity ← clientOwnIdentity surroundings args resolution.clientIdentity
  let clientCredential ← readClientCredential surroundings args
  require (¬(clientCredential ≠ [] ∧ endpointIdentity = none))
    ("WebTTY client credential requires --identity, --identity-file, RSTREAM_WEBTTY_IDENTITY, or " ++
      "RSTREAM_WEBTTY_IDENTITY_FILE")
  require (¬1 < resolution.endpointIdentities.length)
    ("C++ WebTTY client requires exactly one endpoint identity for authenticated E2E; use " ++
      "--known-server-key for the target server")
  let expectedServerIdentity := resolution.endpointIdentities.head?
  require (¬(expectedServerIdentity.isSome = true ∧ endpointIdentity = none))
    ("WebTTY server requires authenticated E2E; pass --identity, --identity-file, " ++
      "RSTREAM_WEBTTY_IDENTITY, RSTREAM_WEBTTY_IDENTITY_FILE, or set client_identity in the known " ++
      "server entry")
  .ok {
    recipients := resolution.recipients
    settings := {
      timeoutOpen := 5000
      timeoutClose := 5000
      timeoutHeartbeat := 5000
      payloadCrypto
      endpointIdentity
      expectedServerIdentity
      clientCredential
      protocolType := transport.protocolType
      protocolConfig := clientProtocolConfig surroundings args transport.username } }

/-- `run`, up to the settings that are handed to the client. -/
def runClient : Except String ClientStart := do
  let transport ← clientTransport surroundings args
  let resolution ← readKnownServerResolution prims parsesPublicKey surroundings args
  clientStart prims draws surroundings args transport resolution

end Source

/-- The machine with other files of known servers. -/
def ClientSurroundings.withDocuments (surroundings : ClientSurroundings)
    (documents : Bytes → Except String Json) : ClientSurroundings :=
  { surroundings with knownServersDocument := documents }

/-! ## What is promised -/

section Policy

variable (prims : Primitives) (parsesPublicKey : Bytes → Bool) (draws : ClientDraws)
  (surroundings : ClientSurroundings) (args : ClientArgs)

/-- A source of known servers is there, whatever it says. -/
inductive SourcePresent : Prop
  | name (given : args.knownServer.isSome = true)
  | key (given : args.knownServerKeys ≠ [])
  | file (given : args.knownServersFile.isSome = true)
  | environmentKey (set : (surroundings.getenv "RSTREAM_WEBTTY_KNOWN_SERVER_KEY").isSome = true)
  | environmentFile (set : (surroundings.getenv "RSTREAM_WEBTTY_KNOWN_SERVERS_FILE").isSome = true)
  | defaultFile (file path : Bytes) (located : surroundings.defaultKnownServersPath = .ok file)
      (expands : surroundings.expandPath file = .ok path)
      (found : surroundings.fileExists path = .ok true)

/-- The entries of the file of known servers that is read. -/
def KnownServersRead (entries : List KnownServerEntry) : Prop :=
  ∃ explicit named file,
    explicitResolution prims parsesPublicKey surroundings args = .ok explicit ∧
      namedKnownServersFile surroundings args = .ok named ∧
        knownServersFile surroundings args explicit named = .ok file ∧ file ≠ [] ∧
          loadKnownServerEntriesFile prims parsesPublicKey surroundings file = .ok entries

/-- Where a recipient comes from: an explicit key, or an entry that is designated or alone. -/
inductive RecipientOrigin (recipient : E2eRecipient) : Prop
  | key (raw : Bytes) (given : raw ∈ explicitKeys surroundings args)
      (parsed : parseKnownServerKey prims parsesPublicKey raw = .ok recipient)
  | entry (entries : List KnownServerEntry) (entry : KnownServerEntry)
      (read : KnownServersRead prims parsesPublicKey surroundings args entries)
      (mem : entry ∈ entries)
      (selected : Designated args.uri (args.knownServer.getD []) entry ∨ entries = [entry])
      (same : entry.recipient = recipient)

/-- The session key is for the expected server, and for nobody but known servers. -/
structure SealedForKnown (start : ClientStart) (crypto : PayloadCrypto)
    (identity : EndpointIdentityPublic) : Prop where
  made : (makeE2eClientPayloadCrypto prims { recipients := start.recipients } draws).1 = some crypto
  expected : recipientOf identity ∈ start.recipients
  origin : ∀ recipient ∈ start.recipients,
    RecipientOrigin prims parsesPublicKey surroundings args recipient

/-- The files of known servers, with their entries in another order. -/
def Reorders (documents : Bytes → Except String Json) : Prop :=
  ∀ path, ReorderedDocument (surroundings.knownServersDocument path) (documents path)

/-- A source that is there encrypts the terminal, the session key goes to known servers, and the
order of the file does not matter. -/
structure FailsClosed : Prop where
  encrypted : ∀ start, runClient prims parsesPublicKey draws surroundings args = .ok start →
    SourcePresent surroundings args → start.settings.payloadCrypto.isSome = true
  sealed : ∀ start crypto identity,
    runClient prims parsesPublicKey draws surroundings args = .ok start →
      start.settings.payloadCrypto = some crypto →
        start.settings.expectedServerIdentity = some identity →
          SealedForKnown prims parsesPublicKey draws surroundings args start crypto identity
  stable : ∀ documents, Reorders surroundings documents →
    (runClient prims parsesPublicKey draws (surroundings.withDocuments documents) args).toOption =
      (runClient prims parsesPublicKey draws surroundings args).toOption

/-- A source of known servers is looked at. -/
inductive SourceConsulted : Prop
  | name (set : knownServerName args ≠ [])
  | key (given : explicitKeys surroundings args ≠ [])
  | file (set : configuredKnownServersFile surroundings args ≠ [])
  | e2e (set : args.e2e = true)

/-- Two entries that the client may take for each other. -/
structure Alike (first second : KnownServerEntry) : Prop where
  recipient : first.recipient = second.recipient
  identity : knownServerName args ≠ [] → first.endpointIdentity = second.endpointIdentity
  client : knownServerName args ≠ [] →
    (clientOwnIdentity surroundings args (trimCopy first.clientIdentity)).toOption =
      (clientOwnIdentity surroundings args (trimCopy second.clientIdentity)).toOption

/-- The sources that are there are looked at, and the entries that the name or the URI designates
are alike. -/
structure Guarded : Prop where
  consulted : SourcePresent surroundings args → SourceConsulted surroundings args
  alike : ∀ entries, KnownServersRead prims parsesPublicKey surroundings args entries →
    ∀ first ∈ entries, ∀ second ∈ entries, Designated args.uri (args.knownServer.getD []) first →
      Designated args.uri (args.knownServer.getD []) second → Alike surroundings args first second

end Policy

/-! ## The resolution -/

section Resolution

variable {prims : Primitives} {parsesPublicKey : Bytes → Bool} {draws : ClientDraws}
  {surroundings : ClientSurroundings} {args : ClientArgs}

variable {explicit : KnownServerResolution} {file named : Bytes}

theorem explicitKeys_eq_nil
    (resolved : explicitResolution prims parsesPublicKey surroundings args = .ok explicit)
    (none_ : explicit.recipients = []) : explicitKeys surroundings args = [] := by
  simp only [explicitResolution, bind_eq_ok] at resolved
  obtain ⟨_, -, merged, folded, -, -, same⟩ := resolved
  cases same
  cases keys : explicitKeys surroundings args with
  | nil => rfl
  | cons first rest =>
    rw [keys, List.foldlM_cons] at folded
    obtain ⟨next, added, more⟩ := bind_eq_ok.mp folded
    obtain ⟨-, recipient, -, mem⟩ := addKey_adds added
    have kept : recipient ∈ explicit.recipients :=
      foldlM_induct (fun state => recipient ∈ state.recipients) more
        ((mem recipient).mpr (.inr rfl)) fun state within raw _ next added => by
        obtain ⟨-, other, -, mem⟩ := addKey_adds added
        exact (mem recipient).mpr (.inl within)
    rw [none_] at kept
    cases kept

theorem explicit_of_no_keys
    (resolved : explicitResolution prims parsesPublicKey surroundings args = .ok explicit)
    (none_ : explicitKeys surroundings args = []) : explicit = {} := by
  simp only [explicitResolution, bind_eq_ok, none_] at resolved
  obtain ⟨_, -, merged, folded, -, -, same⟩ := resolved
  cases same
  cases folded
  rfl

theorem wellFormed_of_load {entries : List KnownServerEntry}
    (loaded : loadKnownServerEntriesFile prims parsesPublicKey surroundings file = .ok entries) :
    ∀ entry ∈ entries, entry.WellFormed prims parsesPublicKey := by
  simp only [loadKnownServerEntriesFile, readKnownServerEntries, bind_eq_ok] at loaded
  obtain ⟨path, -, document, -, _, -, _, -, _, -, _, -, reads⟩ := loaded
  split at reads
  · cases reads
  · exact wellFormed_of_entries (knownServerEntries_eq_ok.mp reads)

theorem explicit_of_file
    (resolved : explicitResolution prims parsesPublicKey surroundings args = .ok explicit)
    (names : namedKnownServersFile surroundings args = .ok named)
    (chosen : knownServersFile surroundings args explicit named = .ok file) (present : file ≠ []) :
    explicit = {} := by
  refine explicit_of_no_keys resolved (explicitKeys_eq_nil resolved ?_)
  by_contra keys
  simp only [explicitResolution, bind_eq_ok, require_eq_ok] at resolved
  obtain ⟨_, -, merged, -, _, apart, same⟩ := resolved
  cases same
  simp only [knownServersFile, bind_eq_ok, require_eq_ok] at chosen
  obtain ⟨last, lastResort, _, exclusive, _, -, same⟩ := chosen
  cases same
  have configured : configuredKnownServersFile surroundings args = [] := by
    by_contra set
    exact exclusive ⟨keys, set⟩
  have unnamed : knownServerName args = [] := by
    by_contra set
    exact apart ⟨set, keys⟩
  have uses : usesDefaultFile surroundings args = false := by
    simp [usesDefaultFile, unnamed]
  rw [namedKnownServersFile, uses, configured] at names
  cases names
  rw [lastResortFile, if_neg fun all => keys all.2.1] at lastResort
  cases lastResort
  exact present rfl

theorem resolveFile_origin {resolution : KnownServerResolution}
    (resolved : explicitResolution prims parsesPublicKey surroundings args = .ok explicit)
    (names : namedKnownServersFile surroundings args = .ok named)
    (chosen : knownServersFile surroundings args explicit named = .ok file)
    (resolves : resolveFile prims parsesPublicKey surroundings args explicit file =
      .ok resolution) :
    resolution.Keyed ∧ ∀ recipient ∈ resolution.recipients,
      RecipientOrigin prims parsesPublicKey surroundings args recipient := by
  unfold resolveFile at resolves
  split at resolves
  · cases resolves
    simp only [explicitResolution, bind_eq_ok] at resolved
    obtain ⟨_, -, merged, folded, -, -, same⟩ := resolved
    cases same
    refine foldlM_induct (fun state => state.Keyed ∧ ∀ recipient ∈ state.recipients,
      RecipientOrigin prims parsesPublicKey surroundings args recipient) folded
      ⟨fun _ absent => absurd absent List.not_mem_nil, fun _ absent => absurd absent
        List.not_mem_nil⟩ ?_
    rintro state ⟨keyed, origin⟩ raw given next added
    obtain ⟨kept, recipient, parsed, mem⟩ := addKey_adds added
    refine ⟨kept keyed, fun other within => ?_⟩
    rcases (mem other).mp within with before | rfl
    · exact origin other before
    · exact .key raw given parsed
  · rename_i present
    obtain ⟨entries, loaded, merges⟩ := bind_eq_ok.mp resolves
    have read : KnownServersRead prims parsesPublicKey surroundings args entries :=
      ⟨explicit, named, file, resolved, names, chosen, present, loaded⟩
    obtain rfl := explicit_of_file resolved names chosen present
    have wellFormed := wellFormed_of_load loaded
    simp only [resolveEntries, bind_eq_ok] at merges
    obtain ⟨selected, selects, _, -, folded⟩ := merges
    refine foldlM_induct (fun state => state.Keyed ∧ ∀ recipient ∈ state.recipients,
      RecipientOrigin prims parsesPublicKey surroundings args recipient) folded
      ⟨fun _ absent => absurd absent List.not_mem_nil, fun _ absent => absurd absent
        List.not_mem_nil⟩ ?_
    rintro state ⟨keyed, origin⟩ entry within next added
    obtain ⟨mem, designated⟩ := designated_of_selected selects within
    obtain ⟨kept, extended⟩ := addEntry_adds (wellFormed entry mem) added
    refine ⟨kept keyed, fun other present => ?_⟩
    rcases (extended other).mp present with before | rfl
    · exact origin other before
    · exact .entry entries entry read mem designated rfl

theorem namedKnownServersFile_of_configured
    (set : configuredKnownServersFile surroundings args ≠ []) :
    namedKnownServersFile surroundings args =
      .ok (configuredKnownServersFile surroundings args) := by
  have uses : usesDefaultFile surroundings args = false := by
    simp [usesDefaultFile, set]
  rw [namedKnownServersFile, uses, if_neg Bool.false_ne_true]

/-- A file is read only if a source other than the keys asks for it. -/
theorem consulted_of_file (names : namedKnownServersFile surroundings args = .ok named)
    (chosen : knownServersFile surroundings args explicit named = .ok file) (present : file ≠ []) :
    SourceConsulted surroundings args := by
  by_contra idle
  have unnamed : knownServerName args = [] := by
    by_contra set
    exact idle (.name set)
  have unconfigured : configuredKnownServersFile surroundings args = [] := by
    by_contra set
    exact idle (.file set)
  have plain : ¬ args.e2e = true := fun set => idle (.e2e set)
  have uses : usesDefaultFile surroundings args = false := by
    simp [usesDefaultFile, unnamed]
  rw [namedKnownServersFile, uses, unconfigured] at names
  cases names
  simp only [knownServersFile, bind_eq_ok] at chosen
  obtain ⟨last, lastResort, _, -, _, -, same⟩ := chosen
  cases same
  rw [lastResortFile, if_neg fun all => plain all.1] at lastResort
  cases lastResort
  exact present rfl

/-- **There are recipients** exactly if a source is looked at. -/
theorem recipients_ne_nil_iff {resolution : KnownServerResolution}
    (resolves : readKnownServerResolution prims parsesPublicKey surroundings args =
      .ok resolution) :
    resolution.recipients ≠ [] ↔ SourceConsulted surroundings args := by
  simp only [readKnownServerResolution, bind_eq_ok, require_eq_ok] at resolves
  obtain ⟨explicit, resolved, named, names, file, chosen, last, merges, _, required, same⟩ :=
    resolves
  cases same
  constructor
  · intro recipients
    unfold resolveFile at merges
    split at merges
    · cases merges
      refine .key fun noKeys => recipients ?_
      rw [explicit_of_no_keys resolved noKeys]
    · rename_i present
      exact consulted_of_file names chosen present
  · intro consulted nothing
    refine required ⟨?_, nothing⟩
    cases consulted with
    | name set => exact .inr (.inr (.inr set))
    | key given =>
      exact .inr (.inl fun noRecipients => given (explicitKeys_eq_nil resolved noRecipients))
    | file set =>
      have same := (namedKnownServersFile_of_configured set).symm.trans names
      exact .inr (.inr (.inl (Except.ok.inj same ▸ set)))
    | e2e set => exact .inl set

end Resolution

/-! ## The run -/

section Run

variable {prims : Primitives} {parsesPublicKey : Bytes → Bool} {draws : ClientDraws}
  {surroundings : ClientSurroundings} {args : ClientArgs}

/-- The parts of a start that succeeds. -/
structure StartedFrom (prims : Primitives) (draws : ClientDraws)
    (surroundings : ClientSurroundings) (args : ClientArgs) (start : ClientStart)
    (resolution : KnownServerResolution) : Prop where
  recipients : start.recipients = resolution.recipients
  crypto : clientPayloadCrypto prims draws resolution.recipients = .ok start.settings.payloadCrypto
  own : clientOwnIdentity surroundings args resolution.clientIdentity =
    .ok start.settings.endpointIdentity
  expected : start.settings.expectedServerIdentity = resolution.endpointIdentities.head?
  single : resolution.endpointIdentities.length ≤ 1

variable {start : ClientStart} {transport : ClientTransport} {resolution : KnownServerResolution}
  {entries : List KnownServerEntry} {documents : Bytes → Except String Json}

theorem startedFrom_of_clientStart
    (started : clientStart prims draws surroundings args transport resolution = .ok start) :
    StartedFrom prims draws surroundings args start resolution := by
  simp only [clientStart, bind_eq_ok, require_eq_ok] at started
  obtain ⟨_, -, crypto, made, own, owned, credential, -, _, -, _, single, _, -, same⟩ := started
  cases same
  exact ⟨rfl, made, owned, rfl, not_lt.mp single⟩

/-- What the rest of the run looks at of a resolution. -/
theorem clientStart_congr {other : KnownServerResolution}
    (recipients : other.recipients = resolution.recipients)
    (identities : other.endpointIdentities = resolution.endpointIdentities)
    (own : (clientOwnIdentity surroundings args other.clientIdentity).toOption =
      (clientOwnIdentity surroundings args resolution.clientIdentity).toOption)
    (started : clientStart prims draws surroundings args transport resolution = .ok start) :
    clientStart prims draws surroundings args transport other = .ok start := by
  simp only [clientStart, bind_eq_ok, recipients, identities] at started ⊢
  obtain ⟨_, trusted, crypto, made, identity, owned, more⟩ := started
  exact ⟨_, trusted, crypto, made, identity,
    toOption_eq_some.mp (own.trans (toOption_eq_some.mpr owned)), more⟩

theorem clientPayloadCrypto_eq_ok {recipients : List E2eRecipient} {crypto : Option PayloadCrypto}
    (made : clientPayloadCrypto prims draws recipients = .ok crypto) :
    (crypto.isSome = true ↔ recipients ≠ []) ∧ ∀ payloadCrypto, crypto = some payloadCrypto →
      (makeE2eClientPayloadCrypto prims { recipients } draws).1 = some payloadCrypto := by
  unfold clientPayloadCrypto at made
  split at made
  · rename_i nobody
    cases made
    exact ⟨iff_of_false Bool.false_ne_true (not_not.mpr nobody), fun _ absent => nomatch absent⟩
  · rename_i somebody
    dsimp only at made
    split at made
    · cases made
    · rename_i succeeded
      cases made
      refine ⟨iff_of_true ?_ somebody, fun _ same => same⟩
      exact Option.isSome_iff_ne_none.mpr (not_or.mp succeeded).2

/-- **The terminal is encrypted** exactly if a source of known servers is looked at. -/
theorem payloadCrypto_isSome_iff
    (accepted : runClient prims parsesPublicKey draws surroundings args = .ok start) :
    start.settings.payloadCrypto.isSome = true ↔ SourceConsulted surroundings args := by
  simp only [runClient, bind_eq_ok] at accepted
  obtain ⟨transport, -, resolution, resolves, started⟩ := accepted
  rw [(clientPayloadCrypto_eq_ok (startedFrom_of_clientStart started).crypto).1,
    recipients_ne_nil_iff resolves]

/-- **The session key** goes to the expected server, and to nobody but known servers. -/
theorem sealedForKnown_of_runClient {crypto : PayloadCrypto} {identity : EndpointIdentityPublic}
    (accepted : runClient prims parsesPublicKey draws surroundings args = .ok start)
    (encrypts : start.settings.payloadCrypto = some crypto)
    (expects : start.settings.expectedServerIdentity = some identity) :
    SealedForKnown prims parsesPublicKey draws surroundings args start crypto identity := by
  simp only [runClient, bind_eq_ok] at accepted
  obtain ⟨transport, -, resolution, resolves, started⟩ := accepted
  have parts := startedFrom_of_clientStart started
  simp only [readKnownServerResolution, bind_eq_ok] at resolves
  obtain ⟨explicit, resolved, named, names, file, chosen, last, merges, _, -, same⟩ := resolves
  cases same
  obtain ⟨keyed, origin⟩ := resolveFile_origin resolved names chosen merges
  refine ⟨?_, ?_, ?_⟩
  · rw [parts.recipients]
    exact (clientPayloadCrypto_eq_ok parts.crypto).2 crypto encrypts
  · rw [parts.recipients]
    exact keyed identity (List.mem_of_mem_head? (parts.expected.symm.trans expects))
  · rw [parts.recipients]
    exact origin

theorem loadKnownServerEntriesFile_reordered (reorders : Reorders surroundings documents)
    {file : Bytes}
    (loaded : loadKnownServerEntriesFile prims parsesPublicKey surroundings file = .ok entries) :
    ∃ others, loadKnownServerEntriesFile prims parsesPublicKey
      (surroundings.withDocuments documents) file = .ok others ∧ entries.Perm others := by
  obtain ⟨path, expands, read⟩ := bind_eq_ok.mp loaded
  obtain ⟨others, readOther, perm⟩ := (reorders path).exists_perm read
  exact ⟨others, bind_eq_ok.mpr ⟨path, expands, readOther⟩, perm⟩

theorem resolveEntries_reordered {others : List KnownServerEntry}
    (wellFormed : ∀ entry ∈ entries, entry.WellFormed prims parsesPublicKey)
    (alike : ∀ first ∈ entries, ∀ second ∈ entries,
      Designated args.uri (args.knownServer.getD []) first →
        Designated args.uri (args.knownServer.getD []) second →
          Alike surroundings args first second) (perm : entries.Perm others)
    (resolves : resolveEntries {} args.uri (args.knownServer.getD []) entries = .ok resolution)
    (started : clientStart prims draws surroundings args transport resolution = .ok start) :
    ∃ other, resolveEntries {} args.uri (args.knownServer.getD []) others = .ok other ∧
      other.recipients = resolution.recipients ∧
        clientStart prims draws surroundings args transport other = .ok start := by
  by_cases unnamed : trimCopy (args.knownServer.getD []) = []
  · have small := (startedFrom_of_clientStart started).single
    have same := resolveEntries_perm unnamed perm wellFormed
      (fun first firstMem second secondMem firstDesignated secondDesignated =>
        (alike first firstMem second secondMem firstDesignated secondDesignated).recipient)
      small resolves
    exact ⟨resolution, same, rfl, started⟩
  · obtain ⟨valid, first, found, rfl⟩ := (resolveEntries_named unnamed).mp resolves
    have firstNamed : first.name = trimCopy (args.knownServer.getD []) := by
      simpa using List.find?_some found
    have firstMem := List.mem_of_find?_eq_some found
    have exists_ : (others.find? (·.name = trimCopy (args.knownServer.getD []))).isSome = true :=
      List.find?_isSome.mpr ⟨first, perm.subset firstMem, decide_eq_true firstNamed⟩
    obtain ⟨second, foundSecond⟩ := Option.isSome_iff_exists.mp exists_
    have secondNamed : second.name = trimCopy (args.knownServer.getD []) := by
      simpa using List.find?_some foundSecond
    have secondMem := perm.symm.subset (List.mem_of_find?_eq_some foundSecond)
    have same := alike second secondMem first firstMem ((if_neg unnamed).mpr secondNamed)
      ((if_neg unnamed).mpr firstNamed)
    have recipients : (resolutionOf second).recipients = (resolutionOf first).recipients :=
      congrArg (fun recipient => [recipient]) same.recipient
    have identities : (resolutionOf second).endpointIdentities =
        (resolutionOf first).endpointIdentities :=
      congrArg Option.toList (same.identity unnamed)
    exact ⟨resolutionOf second,
      (resolveEntries_named unnamed).mpr ⟨valid, second, foundSecond, rfl⟩, recipients,
      clientStart_congr recipients identities (same.client unnamed) started⟩

/-- **Guarded entries** may stand in any order. -/
theorem runClient_reordered (guarded : Guarded prims parsesPublicKey surroundings args)
    (reorders : Reorders surroundings documents)
    (accepted : runClient prims parsesPublicKey draws surroundings args = .ok start) :
    runClient prims parsesPublicKey draws (surroundings.withDocuments documents) args =
      .ok start := by
  simp only [runClient, bind_eq_ok] at accepted ⊢
  obtain ⟨transport, settled, resolution, resolves, started⟩ := accepted
  simp only [readKnownServerResolution, bind_eq_ok, require_eq_ok] at resolves
  obtain ⟨explicit, resolved, named, names, file, chosen, last, merges, _, required, same⟩ :=
    resolves
  cases same
  by_cases absent : file = []
  · rw [resolveFile, if_pos absent] at merges
    cases merges
    refine ⟨transport, settled, resolution, ?_, started⟩
    simp only [readKnownServerResolution, bind_eq_ok, require_eq_ok]
    exact ⟨resolution, resolved, named, names, file, chosen, resolution,
      by rw [resolveFile, if_pos absent], (), required, rfl⟩
  · rw [resolveFile, if_neg absent] at merges
    obtain ⟨entries, loaded, merged⟩ := bind_eq_ok.mp merges
    have read : KnownServersRead prims parsesPublicKey surroundings args entries :=
      ⟨explicit, named, file, resolved, names, chosen, absent, loaded⟩
    obtain rfl := explicit_of_file resolved names chosen absent
    obtain ⟨others, loadedOther, perm⟩ := loadKnownServerEntriesFile_reordered reorders loaded
    obtain ⟨other, mergedOther, recipients, startedOther⟩ := resolveEntries_reordered
      (wellFormed_of_load loaded) (guarded.alike entries read) perm merged started
    refine ⟨transport, settled, other, ?_, startedOther⟩
    simp only [readKnownServerResolution, bind_eq_ok, require_eq_ok]
    refine ⟨{}, resolved, named, names, file, chosen, other, ?_, (), ?_, rfl⟩
    · rw [resolveFile, if_neg absent]
      exact bind_eq_ok.mpr ⟨others, loadedOther, mergedOther⟩
    · rwa [recipients]

theorem exists_reorders {others : List KnownServerEntry} {file : Bytes}
    (loaded : loadKnownServerEntriesFile prims parsesPublicKey surroundings file = .ok entries)
    (perm : entries.Perm others) :
    ∃ documents, Reorders surroundings documents ∧
      loadKnownServerEntriesFile prims parsesPublicKey (surroundings.withDocuments documents) file =
        .ok others := by
  obtain ⟨path, expands, read⟩ := bind_eq_ok.mp loaded
  obtain ⟨document, reordered, readOther⟩ := ReorderedDocument.exists_document read perm
  refine ⟨Function.update surroundings.knownServersDocument path document, fun other => ?_,
    bind_eq_ok.mpr ⟨path, expands, ?_⟩⟩
  · by_cases same : other = path
    · subst same
      rwa [Function.update_self]
    · rw [Function.update_of_ne same]
      exact .same _
  · show (Function.update surroundings.knownServersDocument path document path >>= _) = _
    rwa [Function.update_self]

section

variable (stable : ∀ documents, Reorders surroundings documents → runClient prims parsesPublicKey draws (surroundings.withDocuments documents) args = .ok start)

include stable

theorem start_of_designated {entry : KnownServerEntry}
    (read : KnownServersRead prims parsesPublicKey surroundings args entries)
    (mem : entry ∈ entries) (designated : Designated args.uri (args.knownServer.getD []) entry) :
    start.recipients.head? = some entry.recipient ∧ (knownServerName args ≠ [] →
      StartedFrom prims draws surroundings args start (resolutionOf entry)) := by
  obtain ⟨explicit, named, file, resolved, names, chosen, present, loaded⟩ := read
  obtain ⟨before, after, rfl⟩ := List.append_of_mem mem
  obtain ⟨documents, reorders, loadedOther⟩ := exists_reorders loaded List.perm_middle
  have accepted := stable documents reorders
  simp only [runClient, bind_eq_ok] at accepted
  obtain ⟨transport, -, resolution, resolves, started⟩ := accepted
  have parts := startedFrom_of_clientStart started
  simp only [readKnownServerResolution, bind_eq_ok] at resolves
  obtain ⟨explicit', resolved', named', names', file', chosen', last, merges, _, -, same⟩ :=
    resolves
  cases same
  obtain rfl := Except.ok.inj (resolved.symm.trans resolved')
  obtain rfl := Except.ok.inj (names.symm.trans names')
  obtain rfl := Except.ok.inj (chosen.symm.trans chosen')
  obtain rfl := explicit_of_file resolved names chosen present
  rw [resolveFile, if_neg present, loadedOther, ok_bind] at merges
  obtain ⟨head, whole⟩ := head_of_resolveEntries designated merges
  refine ⟨parts.recipients ▸ head, fun name => ?_⟩
  obtain rfl := whole name
  exact ⟨parts.recipients, parts.crypto, parts.own, parts.expected, parts.single⟩

theorem alike_of_stable
    (read : KnownServersRead prims parsesPublicKey surroundings args entries)
    {first second : KnownServerEntry} (firstMem : first ∈ entries) (secondMem : second ∈ entries)
    (firstDesignated : Designated args.uri (args.knownServer.getD []) first)
    (secondDesignated : Designated args.uri (args.knownServer.getD []) second) :
    Alike surroundings args first second := by
  obtain ⟨firstHead, firstParts⟩ := start_of_designated stable read firstMem firstDesignated
  obtain ⟨secondHead, secondParts⟩ := start_of_designated stable read secondMem secondDesignated
  refine ⟨Option.some.inj (firstHead.symm.trans secondHead), fun named => ?_, fun named => ?_⟩
  · have same := (firstParts named).expected.symm.trans (secondParts named).expected
    simpa only [resolutionOf, Option.head?_toList] using same
  · have own := (firstParts named).own
    have ownOther := (secondParts named).own
    simp only [resolutionOf] at own ownOther
    rw [own, ownOther]

end

/-- What is there does not depend on what the files say. -/
theorem sourcePresent_of_withDocuments
    (present : SourcePresent (surroundings.withDocuments documents) args) :
    SourcePresent surroundings args := by
  cases present with
  | name given => exact .name given
  | key given => exact .key given
  | file given => exact .file given
  | environmentKey set => exact .environmentKey set
  | environmentFile set => exact .environmentFile set
  | defaultFile file path located expands found =>
    exact .defaultFile file path located expands found

/-- **The known servers fail closed** exactly if, in whatever order the file has its entries, a run
that goes through looks at a source when one is there, and no two different entries are
designated. -/
theorem clientRun_failsClosed_iff (prims : Primitives) (parsesPublicKey : Bytes → Bool)
    (draws : ClientDraws) (surroundings : ClientSurroundings) (args : ClientArgs) :
    FailsClosed prims parsesPublicKey draws surroundings args ↔
      ∀ documents start, Reorders surroundings documents →
        runClient prims parsesPublicKey draws (surroundings.withDocuments documents) args =
            .ok start →
          Guarded prims parsesPublicKey (surroundings.withDocuments documents) args := by
  constructor
  · intro closed documents start reorders accepted
    have every (others : Bytes → Except String Json) (again : Reorders surroundings others) :
        runClient prims parsesPublicKey draws (surroundings.withDocuments others) args =
          .ok start :=
      toOption_eq_some.mp ((closed.stable others again).trans
        ((closed.stable documents reorders).symm.trans (toOption_eq_some.mpr accepted)))
    have original := every surroundings.knownServersDocument fun path => .same _
    refine ⟨fun present => ?_, fun entries read first firstMem second secondMem => ?_⟩
    · have encrypted := closed.encrypted start original (sourcePresent_of_withDocuments present)
      exact (payloadCrypto_isSome_iff accepted).mp encrypted
    · have stable (others : Bytes → Except String Json)
          (again : Reorders (surroundings.withDocuments documents) others) :
          runClient prims parsesPublicKey draws
            ((surroundings.withDocuments documents).withDocuments others) args = .ok start :=
        every others fun path => (reorders path).trans (again path)
      exact alike_of_stable stable read firstMem secondMem
  · intro guarded
    have itself (start : ClientStart)
        (accepted : runClient prims parsesPublicKey draws surroundings args = .ok start) :
        Guarded prims parsesPublicKey surroundings args :=
      guarded surroundings.knownServersDocument start (fun path => .same _) accepted
    refine ⟨fun start accepted present => ?_, fun start crypto identity accepted => ?_,
      fun documents reorders => ?_⟩
    · exact (payloadCrypto_isSome_iff accepted).mpr ((itself start accepted).consulted present)
    · exact sealedForKnown_of_runClient accepted
    · cases accepted : runClient prims parsesPublicKey draws surroundings args with
      | ok start => rw [runClient_reordered (itself start accepted) reorders accepted]
      | error failure =>
        cases other : runClient prims parsesPublicKey draws (surroundings.withDocuments documents)
            args with
        | error failureOther => rfl
        | ok start =>
          have back : runClient prims parsesPublicKey draws
              ((surroundings.withDocuments documents).withDocuments
                surroundings.knownServersDocument) args = .ok start :=
            runClient_reordered (guarded documents start reorders other)
              (fun path => (reorders path).symm) other
          exact nomatch accepted.symm.trans back

end Run

/-! ## A client with a default file -/

/-- A machine with nothing but the default file of known servers. -/
def defaultFileMachine : ClientSurroundings where
  getenv name := if name = "HOME" then some (bytesFromString "/home/op") else none
  lexicallyNormal path := path
  readFile _ := none
  variableOf _ := none
  fileExists path := .ok (path = bytesFromString "/home/op/.rstream/webtty/known_servers.json")
  knownServersDocument _ := .ok (ReorderedDocument.documentOf (.integer 1)
    (.string (bytesFromString "webtty-e2e-x25519-hpke-aes-256-gcm-v1")) [])
  identityJson _ := .error "failed to parse RSTREAM_WEBTTY_IDENTITY"
  identityFile _ := .error "failed to read WebTTY identity file"
  addressScheme _ := .ok []
  discover _ _ := .error "online WebTTY server not found in engine inventory"

/-- Without an option the default file is not looked at, and the terminal is in the clear. -/
theorem defaultFile_ignored :
    ¬ FailsClosed smallPrims (fun _ => true) ⟨none, none, fun _ => none⟩ defaultFileMachine {} := by
  intro closed
  have accepted : ∃ start, runClient smallPrims (fun _ => true) ⟨none, none, fun _ => none⟩
      defaultFileMachine {} = .ok start ∧ start.settings.payloadCrypto = none := ⟨_, rfl, rfl⟩
  obtain ⟨start, accepted, plain⟩ := accepted
  have present : SourcePresent defaultFileMachine {} := .defaultFile
    (bytesFromString "/home/op/.rstream/webtty/known_servers.json")
    (bytesFromString "/home/op/.rstream/webtty/known_servers.json") rfl rfl rfl
  have encrypted := closed.encrypted start accepted present
  rw [plain] at encrypted
  cases encrypted

end Rstream.Webtty.Cli
