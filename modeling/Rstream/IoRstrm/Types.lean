import Rstream.IoRstrm.Error

/-!
# Addresses, properties and configuration

The value types that the client, the acceptor and the socket exchange. An
address keeps the parts of its URL that the library reads. Parsing of a URL is
done by Boost.URL and is a parameter where it is needed.
-/

namespace Rstream.IoRstrm

/-- One query parameter of a URL; `value = none` is a parameter without `=`. -/
structure Param where
  key : String
  value : Option String
  deriving DecidableEq, Repr

structure Address where
  scheme : String := ""
  host : String := ""
  port : String := ""
  params : List Param := []
  deriving DecidableEq, Repr

def hasClientCertificateConfig (address : Address) : Bool :=
  address.params.any fun param => param.key == "ssl.cert" || param.key == "ssl.cert_file"

/-- `make_redirected_server_address`. `parse` is `io::make_address`, with `none`
for the texts on which Boost.URL throws. -/
def makeRedirectedServerAddress (parse : String → Option Address) (base : Address)
    (serverAddress : String) : Except ErrorCode Address :=
  match parse serverAddress with
  | none => .error Error.Code.invalidEndpoint
  | some target =>
    if target.host = "" ∨ target.port = "" then .error Error.Code.invalidEndpoint
    else .ok { base with
      host := target.host
      port := target.port
      params := base.params.eraseP fun param => param.key == "ssl.sni" }

/-- `boost::asio::ip::address`. -/
inductive IpAddress where
  | v4 (value : Nat)
  | v6 (bytes : List UInt8)
  deriving DecidableEq, Repr

structure Endpoint where
  idName : Option String := none
  serverAddress : Address := {}
  serverAddressFromUriParam : Bool := false
  secret : Option String := none
  sourceIp : Option IpAddress := none
  deriving DecidableEq, Repr

structure HttpCors where
  allowedOrigins : List String := []
  allowedMethods : List String := []
  allowedHeaders : List String := []
  exposedHeaders : List String := []
  allowCredentials : Bool := false
  maxAge : Int := 0
  deriving DecidableEq, Repr

structure TunnelProperties where
  id : Option String := none
  name : Option String := none
  creationDate : Option Int := none
  type : Option String := none
  publish : Option Bool := none
  protocol : Option String := none
  labels : List (String × String) := []
  geoip : List String := []
  trustedIps : List String := []
  host : Option String := none
  hostname : Option String := none
  port : Option Nat := none
  tlsMode : Option String := none
  tlsAlpns : List String := []
  tlsMinVersion : Option String := none
  tlsCiphers : List String := []
  mtlsAuth : Option Bool := none
  httpVersion : Option String := none
  httpUseTls : Option Bool := none
  upstreamTls : Option Bool := none
  tokenAuth : Option Bool := none
  rstreamAuth : Option Bool := none
  challengeMode : Option Bool := none
  datagramGuaranteedDelivery : Option Bool := none
  allowCrossRegionRouting : Option Bool := none
  httpCors : Option HttpCors := none
  deriving DecidableEq, Repr

/-- `normalize_tunnel_properties`: a published TCP tunnel is a published
bytestream unless the caller said otherwise. -/
def normalizeTunnelProperties (properties : TunnelProperties) : TunnelProperties :=
  if properties.protocol = some "tcp" then
    { properties with
      type := properties.type.or (some "bytestream")
      publish := properties.publish.or (some true) }
  else properties

def invalidPublishedTcpOptions (properties : TunnelProperties) : Bool :=
  let publishedTcp := decide (properties.protocol = some "tcp")
  if properties.port.isSome && !publishedTcp then true
  else if !publishedTcp then false
  else if properties.publish = some false
      || (properties.type.isSome && properties.type != some "bytestream")
      || properties.port.any fun port => port == 0 || port > 65535 then true
  else properties.hostname.isSome
    || properties.tlsMode.isSome
    || !properties.tlsAlpns.isEmpty
    || properties.tlsMinVersion.isSome
    || !properties.tlsCiphers.isEmpty
    || properties.mtlsAuth.isSome
    || properties.httpVersion.isSome
    || properties.httpUseTls.isSome
    || properties.upstreamTls.isSome
    || properties.tokenAuth.isSome
    || properties.rstreamAuth.isSome
    || properties.challengeMode.isSome
    || properties.datagramGuaranteedDelivery.isSome

structure Config where
  maxBufferSize : Nat := 65535
  zeroRtt : Bool := true
  noToken : Bool := false
  token : Option String := none
  tokenFromUriParam : Bool := false
  configPath : Option String := none
  deriving DecidableEq, Repr

structure ConfigClient extends Config where
  connectionTimeoutMs : Nat := 30000
  asyncStreamOperation : Bool := true
  maxOngoingStreams : Nat := 50
  hearbeat : Bool := true
  heartbeatIntervalMs : Nat := 10000
  deriving DecidableEq, Repr

structure ClientDetails where
  agent : Option String := none
  channel : Option String := none
  os : Option String := none
  arch : Option String := none
  version : Option String := none
  token : Option String := none
  protocolVersion : Option String := none
  deriving DecidableEq, Repr

structure Status where
  update : Option String := none
  plan : Option String := none
  provider : Option String := none
  region : Option String := none
  deriving DecidableEq, Repr

end Rstream.IoRstrm
