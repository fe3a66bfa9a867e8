import Rstream.Io.Ssl.Context

/-!
# The identity of the peer

A client that verifies its peer gives OpenSSL the name the peer is to have before it starts the
handshake: `ssl.sni` when that is given, and otherwise the host of the URL. `do_connect` takes the
host from `host`, which keeps the brackets of an IPv6 address; the TCP resolver dials
`host_address`, which is without them. And without a host `do_connect` goes on without a name.

So the handshake is started with the identity of the server that is dialled exactly when the name
is given or the host is there and has no brackets (`identified_iff`).
-/

namespace Rstream.Io.Ssl

open IoRstrm (ErrorCode)
open Library
open Webtty (Bytes bytesFromString)
open Webtty.Cli (UrlParam findParam paramBool)

/-! ## The host of a URL -/

/-- The host of a URL, as `boost::urls::url` keeps it: a name after the percent escapes are gone,
or the text of an address, without the brackets. -/
inductive UrlHost where
  | none
  | name (text : Bytes)
  | ipv4 (text : Bytes)
  | ipv6 (text : Bytes)
  | ipvfuture (text : Bytes)
  deriving DecidableEq

/-- Whether the host is written in brackets. -/
def UrlHost.bracketed : UrlHost → Bool
  | .ipv6 _ => true
  | .ipvfuture _ => true
  | _ => false

/-- `boost::urls::url::host_address`: the host without brackets. -/
def UrlHost.hostAddress : UrlHost → Bytes
  | .none => []
  | .name text => text
  | .ipv4 text => text
  | .ipv6 text => text
  | .ipvfuture text => text

def UrlHost.host (host : UrlHost) : Bytes :=
  if host.bracketed then 91 :: host.hostAddress ++ [93] else host.hostAddress

/-- `boost::urls::url`, as far as a connection depends on it. -/
structure Url where
  host : UrlHost
  port : Bytes := []
  portNumber : Nat := 0
  params : List UrlParam := []

/-- `std::string::c_str`, as a function of C reads it. -/
def cString (text : Bytes) : Bytes := text.takeWhile (· ≠ 0)

/-- What Asio and OpenSSL answer. -/
structure Network where
  /-- The error of `make_address`; there is none for an IPv4 or IPv6 literal. -/
  addressError : Bytes → Option ErrorCode
  /-- The error with which `SSL_set_tlsext_host_name` refuses a name. -/
  serverNameRefusal : Bytes → Option ErrorCode
  /-- The error with which `X509_VERIFY_PARAM_set1_ip_asc` refuses an address. -/
  ipRefusal : Bytes → Option ErrorCode
  /-- The error with which `SSL_set1_host` refuses a name. -/
  hostRefusal : Bytes → Option ErrorCode
  /-- Whether `SSL_set_alpn_protos` refuses a list. -/
  alpnRefused : Bytes → Bool

/-! ## The TCP resolver -/

/-- What the TCP resolver asks for. -/
inductive ResolveRequest where
  | endpoint (address : Bytes) (port : Nat)
  | resolve (host port : Bytes) (inet4 inet6 : Bool)

/-- The server that is dialled. -/
def ResolveRequest.host : ResolveRequest → Bytes
  | .endpoint address _ => address
  | .resolve host _ _ _ => host

/-- `async_resolve_internal` of the TCP resolver. -/
def resolveRequest (network : Network) (url : Url) : Except ErrorCode ResolveRequest := do
  let inet4 ← paramBool url.params "tcp.inet4"
  let inet6 ← paramBool url.params "tcp.inet6"
  let noResolve ← paramBool url.params "tcp.no_resolve"
  if noResolve.getD false then
    (network.addressError (cString url.host.hostAddress)).elim
      (.ok (.endpoint url.host.hostAddress url.portNumber)) .error
  else
    .ok (.resolve url.host.hostAddress url.port (inet4.getD false) (inet6.getD false))

/-- **The server that is dialled is the host of the URL without its brackets.** -/
theorem resolveRequest_host {network : Network} {url : Url} {request : ResolveRequest}
    (asked : resolveRequest network url = .ok request) : request.host = url.host.hostAddress := by
  rw [resolveRequest] at asked
  obtain ⟨_, -, asked⟩ := bind_eq_ok.mp asked
  obtain ⟨_, -, asked⟩ := bind_eq_ok.mp asked
  obtain ⟨noResolve, -, asked⟩ := bind_eq_ok.mp asked
  split at asked
  · cases refused : network.addressError (cString url.host.hostAddress) with
    | none =>
      rw [refused] at asked
      cases asked
      rfl
    | some errorCode =>
      rw [refused] at asked
      cases asked
  · cases asked
    rfl

/-! ## `do_connect` -/

/-- The identity that OpenSSL is to find in the certificate of the peer. -/
inductive Identity where
  | ip (address : Bytes)
  | dns (name : Bytes)
  deriving DecidableEq

/-- A TLS connection before its handshake. -/
structure Session (Certificate Key : Type) where
  context : Context Certificate Key
  serverName : Option Bytes := none
  identity : Option Identity := none
  alpnProtos : Option Bytes := none

section Connect

variable {Certificate Key : Type} (network : Network) (config : Config)

/-- `configure_expected_peer_identity`. OpenSSL takes an empty name for no name. -/
def configureExpectedPeerIdentity (identity : Bytes) (session : Session Certificate Key) :
    Except ErrorCode (Session Certificate Key) :=
  let text := cString identity
  if identity = [] then .ok session
  else if network.addressError text = none then
    (network.ipRefusal text).elim (.ok { session with identity := some (.ip text) }) .error
  else
    (network.hostRefusal text).elim
      (.ok { session with identity := if text = [] then none else some (.dns text) }) .error

/-- The server name, and for a client that verifies its peer the identity. -/
def setServerName (sni : Bytes) (session : Session Certificate Key) :
    Except ErrorCode (Session Certificate Key) :=
  match network.serverNameRefusal (cString sni) with
  | some errorCode => .error errorCode
  | none =>
    let named := { session with serverName := some (cString sni) }
    if config.peerVerification ∧ session.context.type = .client then
      configureExpectedPeerIdentity network sni named
    else .ok named

/-- The name that `do_connect` takes. -/
def sniOf (url : Url) : Option Bytes :=
  match config.sni with
  | some sni => some sni
  | none => if url.host.host = [] then none else some url.host.host

/-- The protocols of `ssl.alpn_protos`. -/
def alpnProtosOf : List Bytes :=
  config.alpnProtos.elim [] fun text => (text.splitOn 44).filter (· ≠ [])

/-- The list of protocols as OpenSSL takes it: each behind its length. -/
def alpnData (protos : List Bytes) : Bytes :=
  protos.flatMap fun proto => UInt8.ofNat proto.length :: proto

/-- The protocols. -/
def setAlpnProtos (session : Session Certificate Key) :
    Except ErrorCode (Session Certificate Key) :=
  let protos := alpnProtosOf config
  let data := alpnData protos
  if protos = [] then .ok session
  else if (∃ proto ∈ protos, 255 < proto.length) ∨ 4294967295 < data.length ∨
      network.alpnRefused data then
    .error sslConfigurationError
  else .ok { session with alpnProtos := some data }

def doConnect (url : Url) (session : Session Certificate Key) :
    Except ErrorCode (Session Certificate Key) := do
  let session ← (sniOf config url).elim (.ok session) fun sni =>
    setServerName network config sni session
  setAlpnProtos network config session

/-- `async_connect` up to `do_handshake`: the next layer is connected in between. -/
def asyncConnect (url : Url) (context : Context Certificate Key)
    (nextLayer : Option ErrorCode) : Except ErrorCode (Session Certificate Key) := do
  let session ← doConnect network config url { context }
  nextLayer.elim (.ok session) .error

/-- `stream_socket::init`: a client with TLS, if the URL asks for it. -/
def initSocket (lib : OpenSsl Certificate Key) (url : Url) :
    Except ErrorCode (Option (Config × Context Certificate Key)) := do
  match ← parseSslConfig url.params with
  | none => .ok none
  | some config =>
    let context ← lib.makeSslContext config .client
    .ok (some (config, context))

end Connect

/-! ## What is expected -/

/-- The name that the peer of a URL is to have: `ssl.sni`, or the host that is dialled. -/
def expectedName (url : Url) : Bytes :=
  match findParam url.params "ssl.sni" with
  | some (some sni) => sni
  | _ => url.host.hostAddress

/-- The identity of a name. -/
def identityOf (network : Network) (name : Bytes) : Identity :=
  if network.addressError name = none then .ip name else .dns name

section Expectations

variable {Certificate Key : Type}

/-- **The peer is to prove that it is the server of the URL.** -/
structure Identified (network : Network) (url : Url) (session : Session Certificate Key) :
    Prop where
  verifyPeer : session.context.verifyPeer = true
  failIfNoPeerCert : session.context.failIfNoPeerCert = true
  identity : session.identity = some (identityOf network (expectedName url))

/-- The handshake with a peer succeeds: its certificate passes the verification callback, after it
was checked against the authorities and the identity, or it has none and needs none. -/
def Session.accepts (session : Session Certificate Key)
    (certificate : Option (Bool × (Identity → Bool))) : Bool :=
  !session.context.verifyPeer ||
    certificate.elim (!session.context.failIfNoPeerCert) fun (trusted, names) =>
      session.context.verify (trusted && session.identity.elim true names)

/-- The name of the URL is one that `do_connect` gives to OpenSSL as it is dialled. -/
def PlainlyNamed (url : Url) : Prop :=
  0 ∉ expectedName url ∧
    ((∃ sni, findParam url.params "ssl.sni" = some (some sni)) ∨
      url.host.bracketed = false ∧ url.host.hostAddress ≠ [])

end Expectations

/-! ## Names -/

section Names

theorem zero_notMem_cString (text : Bytes) : 0 ∉ cString text := by
  intro mem
  have kept := List.mem_takeWhile_imp mem
  simp at kept

theorem cString_of_notMem {text : Bytes} (whole : 0 ∉ text) : cString text = text := by
  rw [cString, List.takeWhile_eq_self_iff]
  intro byte mem
  exact decide_eq_true fun zero => whole (zero ▸ mem)

/-- The identities of two names are the same only when the names are. -/
theorem identityOf_injective (network : Network) : Function.Injective (identityOf network) := by
  intro first second same
  rw [identityOf, identityOf] at same
  split at same <;> split at same
  · exact Identity.ip.inj same
  · cases same
  · cases same
  · exact Identity.dns.inj same

/-- The brackets of a host make it another name, also where it is cut. -/
theorem cString_host_ne {host : UrlHost} (bracketed : host.bracketed = true) :
    cString host.host ≠ host.hostAddress := by
  intro same
  have whole : 0 ∉ host.hostAddress := same ▸ zero_notMem_cString host.host
  rw [UrlHost.host, if_pos bracketed, cString_of_notMem] at same
  · have lengths := congrArg List.length same
    simp only [List.length_append, List.length_cons, List.length_nil] at lengths
    omega
  · simp [whole]

variable {params : List UrlParam} {config : Config}

/-- The name that is configured is the one that the URL gives. -/
theorem findParam_sni (parsed : parseSslOptions params = .ok config) :
    findParam params "ssl.sni" = config.sni.map some := by
  obtain ⟨_, _, -, -, named, -, -⟩ := parseSslOptions_verification parsed
  rw [Webtty.Cli.paramText] at named
  cases found : findParam params "ssl.sni" with
  | none =>
    rw [found] at named
    rw [← Except.ok.inj named]
    rfl
  | some value =>
    rw [found] at named
    cases value with
    | none => cases named
    | some sni =>
      rw [← Except.ok.inj named]
      rfl

/-- **`do_connect` takes the name that the peer is to have exactly when the URL has it plainly.** -/
theorem sniOf_expected_iff {url : Url} (parsed : parseSslOptions url.params = .ok config) :
    (∃ sni, sniOf config url = some sni ∧ cString sni = expectedName url) ↔
      PlainlyNamed url := by
  have named := findParam_sni parsed
  rw [sniOf, PlainlyNamed, expectedName, named]
  cases config.sni with
  | some sni =>
    simp only [Option.map_some, Option.some.injEq, exists_eq_left', exists_eq', true_or, and_true]
    exact ⟨fun same => same ▸ zero_notMem_cString sni, cString_of_notMem⟩
  | none =>
    simp only [Option.map_none, Option.ite_none_left_eq_some, reduceCtorEq, exists_false, false_or]
    constructor
    · rintro ⟨sni, ⟨named, same⟩, cut⟩
      rw [Option.some.injEq] at same
      subst same
      cases bracketed : url.host.bracketed with
      | true => exact absurd cut (cString_host_ne bracketed)
      | false =>
        have plain : url.host.host = url.host.hostAddress := by
          rw [UrlHost.host, if_neg (Bool.not_eq_true _ ▸ bracketed)]
        rw [plain] at named cut
        exact ⟨cut ▸ zero_notMem_cString _, rfl, named⟩
    · rintro ⟨whole, bare, named⟩
      have plain : url.host.host = url.host.hostAddress := by
        rw [UrlHost.host, if_neg (Bool.not_eq_true _ ▸ bare)]
      exact ⟨url.host.host, ⟨plain ▸ named, rfl⟩, plain.symm ▸ cString_of_notMem whole⟩

end Names

/-! ## The handshake -/

section Handshake

variable {Certificate Key : Type} {network : Network} {config : Config}
variable {session next : Session Certificate Key}

theorem setServerName_eq_ok (refusesEmpty : network.serverNameRefusal [] ≠ none)
    (verified : config.peerVerification = true) (client : session.context.type = .client)
    {sni : Bytes} (set : setServerName network config sni session = .ok next) :
    next.context = session.context ∧ next.identity = some (identityOf network (cString sni)) := by
  rw [setServerName] at set
  cases refused : network.serverNameRefusal (cString sni) with
  | some errorCode =>
    rw [refused] at set
    cases set
  | none =>
    rw [refused] at set
    have text : cString sni ≠ [] := fun empty => refusesEmpty (empty ▸ refused)
    have given : sni ≠ [] := by
      rintro rfl
      exact text rfl
    simp only [verified, client, and_self, if_true, configureExpectedPeerIdentity,
      if_neg given, if_neg text] at set
    rw [identityOf]
    split at set
    · rename_i literal
      rw [if_pos literal]
      cases refused : network.ipRefusal (cString sni) with
      | some errorCode =>
        rw [refused] at set
        cases set
      | none =>
        rw [refused] at set
        cases set
        exact ⟨rfl, rfl⟩
    · rename_i name
      rw [if_neg name]
      cases refused : network.hostRefusal (cString sni) with
      | some errorCode =>
        rw [refused] at set
        cases set
      | none =>
        rw [refused] at set
        cases set
        exact ⟨rfl, rfl⟩

/-- The protocols do not change the identity. -/
theorem setAlpnProtos_eq_ok (set : setAlpnProtos network config session = .ok next) :
    next.context = session.context ∧ next.identity = session.identity := by
  rw [setAlpnProtos] at set
  split at set
  · cases set
    exact ⟨rfl, rfl⟩
  · split at set
    · cases set
    · cases set
      exact ⟨rfl, rfl⟩

variable {context : Context Certificate Key} {url : Url} {lib : OpenSsl Certificate Key}

/-- **When the handshake starts, the identity of the peer is that of the name that was taken**, and
there is none without a name. -/
theorem asyncConnect_eq_ok {nextLayer : Option ErrorCode}
    (refusesEmpty : network.serverNameRefusal [] ≠ none) (verified : config.peerVerification = true)
    (client : context.type = .client)
    (reached : asyncConnect network config url context nextLayer = .ok session) :
    session.context = context ∧
      session.identity = (sniOf config url).map fun sni => identityOf network (cString sni) := by
  rw [asyncConnect] at reached
  obtain ⟨connected, done, reached⟩ := bind_eq_ok.mp reached
  have same : connected = session := by
    cases nextLayer with
    | none => exact Except.ok.inj reached
    | some errorCode => cases reached
  subst same
  rw [doConnect] at done
  obtain ⟨named, set, done⟩ := bind_eq_ok.mp done
  obtain ⟨sameContext, sameIdentity⟩ := setAlpnProtos_eq_ok done
  rw [sameContext, sameIdentity]
  cases taken : sniOf config url with
  | none =>
    rw [taken] at set
    cases set
    exact ⟨rfl, rfl⟩
  | some sni =>
    rw [taken] at set
    exact setServerName_eq_ok refusesEmpty verified client set

theorem initSocket_eq_ok (made : initSocket lib url = .ok (some (config, context))) :
    parseSslOptions url.params = .ok config ∧
      lib.makeSslContext config .client = .ok context := by
  rw [initSocket] at made
  obtain ⟨parsed, read, made⟩ := bind_eq_ok.mp made
  cases parsed with
  | none => cases made
  | some options =>
    obtain ⟨_, built, same⟩ := bind_eq_ok.mp made
    cases same
    exact ⟨(parseSslConfig_eq_some.mp read).2, built⟩

theorem makeSslContext_verification (verified : config.peerVerification = true)
    (built : lib.makeSslContext config .client = .ok context) :
    context.type = .client ∧ context.verifyPeer = true ∧ context.failIfNoPeerCert = true ∧
      context.verify = fun preverified => preverified := by
  obtain ⟨objects, reads, -, rfl⟩ := OpenSsl.makeSslContext_eq_ok.mp built
  refine ⟨rfl, reads.verification verified, verified, ?_⟩
  funext preverified
  exact if_pos verified

/-- What is installed when the handshake of a client with TLS starts. -/
theorem installed_of_reached {nextLayer : Option ErrorCode}
    (refusesEmpty : network.serverNameRefusal [] ≠ none)
    (verified : paramBool url.params "ssl.peer_verification" ≠ .ok (some false))
    (made : initSocket lib url = .ok (some (config, context)))
    (reached : asyncConnect network config url context nextLayer = .ok session) :
    session.context.verifyPeer = true ∧ session.context.failIfNoPeerCert = true ∧
      session.context.verify = (fun preverified => preverified) ∧
      session.identity = (sniOf config url).map fun sni => identityOf network (cString sni) := by
  obtain ⟨parsed, built⟩ := initSocket_eq_ok made
  have verifies := (parseSslOptions_peerVerification parsed).mpr verified
  obtain ⟨client, peer, fail, callback⟩ := makeSslContext_verification verifies built
  obtain ⟨rfl, identity⟩ := asyncConnect_eq_ok refusesEmpty verifies client reached
  exact ⟨peer, fail, callback, identity⟩

/-- **A client starts the handshake with the identity of the server that is dialled exactly when the
name is plain**: it is the one of `ssl.sni`, or the host is there and has no brackets. -/
theorem identified_iff {lib : OpenSsl Certificate Key} {url : Url}
    {context : Context Certificate Key} {nextLayer : Option ErrorCode}
    (refusesEmpty : network.serverNameRefusal [] ≠ none)
    (verified : paramBool url.params "ssl.peer_verification" ≠ .ok (some false))
    (made : initSocket lib url = .ok (some (config, context)))
    (reached : asyncConnect network config url context nextLayer = .ok session) :
    Identified network url session ↔ PlainlyNamed url := by
  obtain ⟨peer, fail, -, identity⟩ := installed_of_reached refusesEmpty verified made reached
  rw [← sniOf_expected_iff (initSocket_eq_ok made).1]
  constructor
  · intro identified
    obtain ⟨sni, taken, same⟩ := Option.map_eq_some_iff.mp (identity ▸ identified.identity)
    exact ⟨sni, taken, identityOf_injective network same⟩
  · rintro ⟨sni, taken, same⟩
    refine ⟨peer, fail, ?_⟩
    rw [identity, taken, Option.map_some, same]

end Handshake

/-! ## A server with an address of version 6 -/

/-- Two addresses are literals, and an empty server name is refused. -/
def sampleNetwork : Network where
  addressError text :=
    if text = bytesFromString "::1" ∨ text = bytesFromString "127.0.0.1" then none
    else some ⟨22, .other "system"⟩
  serverNameRefusal name :=
    if name = [] ∨ 255 < name.length then some ⟨1, .other "asio.ssl"⟩ else none
  ipRefusal _ := none
  hostRefusal _ := none
  alpnRefused _ := false

/-- A URL with TLS. -/
def sampleUrl (host : UrlHost) : Url where
  host := host
  port := bytesFromString "443"
  portNumber := 443
  params := [(bytesFromString "ssl", none)]

/-- The context of a client without further options. -/
def sampleContext : Context Bytes Bytes :=
  sampleLibrary.contextOf {} .client ⟨.tls, none, none, none, none, none⟩

theorem initSocket_sampleUrl (host : UrlHost) :
    initSocket sampleLibrary (sampleUrl host) = .ok (some ({}, sampleContext)) := rfl

theorem identified_iff_named :
    Identified sampleNetwork (sampleUrl (.name (bytesFromString "edge.example")))
        { context := sampleContext
          serverName := some (bytesFromString "edge.example")
          identity := some (.dns (bytesFromString "edge.example")) } ↔
      PlainlyNamed (sampleUrl (.name (bytesFromString "edge.example"))) :=
  have refusesEmpty : sampleNetwork.serverNameRefusal [] ≠ none := by decide
  have verified : paramBool (sampleUrl (.name (bytesFromString "edge.example"))).params
      "ssl.peer_verification" ≠ .ok (some false) := by
    intro given
    cases given
  have reached : asyncConnect sampleNetwork {}
      (sampleUrl (.name (bytesFromString "edge.example"))) sampleContext none =
        .ok { context := sampleContext
              serverName := some (bytesFromString "edge.example")
              identity := some (.dns (bytesFromString "edge.example")) } := rfl
  identified_iff refusesEmpty verified (initSocket_sampleUrl _) reached

/-- The address of a server is taken for a name, with its brackets; and without a host the handshake
starts without an identity. -/
theorem bracketedHost_not_identified :
    (¬∀ (url : Url) (config : Config) (context : Context Bytes Bytes)
      (nextLayer : Option ErrorCode) (session : Session Bytes Bytes),
      paramBool url.params "ssl.peer_verification" ≠ .ok (some false) →
      initSocket sampleLibrary url = .ok (some (config, context)) →
      asyncConnect sampleNetwork config url context nextLayer = .ok session →
      Identified sampleNetwork url session) ∧
    ∃ session, asyncConnect sampleNetwork {} (sampleUrl .none) sampleContext none = .ok session ∧
      session.identity = none := by
  constructor
  · intro always
    have identified := always (sampleUrl (.ipv6 (bytesFromString "::1"))) {} sampleContext none
      { context := sampleContext
        serverName := some (bytesFromString "[::1]")
        identity := some (.dns (bytesFromString "[::1]")) }
      (fun given => nomatch given) (initSocket_sampleUrl _) rfl
    exact absurd identified.identity (by decide)
  · exact ⟨{ context := sampleContext }, rfl, rfl⟩

end Rstream.Io.Ssl
