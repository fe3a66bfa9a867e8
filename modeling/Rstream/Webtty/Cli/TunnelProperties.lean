import Rstream.Library.Separators
import Rstream.Webtty.Cli.Admission

/-!
# The properties of a tunnel in a URL

The library reads the settings of a tunnel from the parameters of its URL, after the percent escapes
are gone. The first parameter with a key counts, but for the labels: every `rstrm.labels` is a label,
and its key ends at the first `=`.
-/

namespace Rstream.Webtty.Cli

open IoRstrm (ErrorCode)
open Library

/-! ## Values -/

/-- `boost::urls::param`: a key, and a value if there is one. -/
abbrev UrlParam := Bytes × Option Bytes

/-- `error::code::invalid_argument` of the streams. -/
def invalidArgument : ErrorCode := ⟨2, .other "rstream::io::detail::stream::error::category"⟩

def invalidConfiguration : ErrorCode := IoRstrm.Error.Code.invalidConfiguration.toErrorCode

/-- `parse_url_param_value` of a boolean. -/
def parseParamBool : Option Bytes → Except ErrorCode Bool
  | none => .ok true
  | some value =>
    if value = bytesFromString "true" then .ok true
    else if value = bytesFromString "false" then .ok false
    else .error invalidArgument

/-- `parse_url_param_value` of a string. -/
def parseParamText : Option Bytes → Except ErrorCode Bytes
  | none => .error invalidArgument
  | some value => .ok value

/-- `split`: a last piece that is empty does not count. -/
def splitText (text : Bytes) : List Bytes :=
  let pieces := text.splitOn 44
  if pieces.getLast? = some [] then pieces.dropLast else pieces

/-- `find` of a parameter. -/
def findParam (params : List UrlParam) (key : String) : Option (Option Bytes) :=
  (params.find? fun param => param.1 == bytesFromString key).map Prod.snd

section Source

variable (params : List UrlParam)

/-- `PARSE_PARAMS_VIEW_BOOLEAN`. -/
def paramBool (key : String) : Except ErrorCode (Option Bool) :=
  match findParam params key with
  | none => .ok none
  | some value => (parseParamBool value).map some

/-- `PARSE_PARAMS_VIEW_STRING`. -/
def paramText (key : String) : Except ErrorCode (Option Bytes) :=
  match findParam params key with
  | none => .ok none
  | some value => (parseParamText value).map some

/-- `PARSE_PARAMS_VIEW_STRING_VEC`. -/
def paramList (key : String) : Except ErrorCode (List Bytes) :=
  match findParam params key with
  | none => .ok []
  | some value => (parseParamText value).map splitText

/-- A label is cut at its first `=`, and ignored without one. -/
def insertLabel (labels : Labels) (label : Bytes) : Labels :=
  match (cut 61 label).2 with
  | none => labels
  | some value => labels.insert (cut 61 label).1 value

/-- `PARSE_PARAMS_VIEW_STRING_MAP`. -/
def paramLabels (key : String) : Except ErrorCode Labels :=
  params.foldlM (fun labels param =>
    if param.1 = bytesFromString key then (parseParamText param.2).map (insertLabel labels)
    else .ok labels) SortedMap.empty

/-! ## Cross-origin requests -/

structure HttpCors where
  allowedOrigins : List Bytes := []
  allowedMethods : List Bytes := []
  allowedHeaders : List Bytes := []
  exposedHeaders : List Bytes := []
  allowCredentials : Bool := false
  maxAge : Nat := 0
  deriving DecidableEq

/-- The number of decimal digits, as `std::from_chars` reads them. -/
def readDigits (digits : Bytes) : Option Nat :=
  if digits ≠ [] ∧ digits.all (fun byte => 48 ≤ byte && byte ≤ 57) then
    some (digits.foldl (fun value byte => 10 * value + (byte - 48).toNat) 0)
  else none

/-- A maximal age: a number up to one day, which may have a minus sign if it is zero. -/
def readMaxAge : Bytes → Option Nat
  | 45 :: digits => (readDigits digits).filter (· = 0)
  | digits => (readDigits digits).filter (· ≤ 86400)

/-- A parameter of `http_cors` that has a value. -/
def HttpCors.set (cors : HttpCors) (key value : Bytes) : Except ErrorCode HttpCors :=
  if key = bytesFromString "rstrm.http_cors.allowed_origins" then
    .ok { cors with allowedOrigins := splitText value }
  else if key = bytesFromString "rstrm.http_cors.allowed_methods" then
    .ok { cors with allowedMethods := splitText value }
  else if key = bytesFromString "rstrm.http_cors.allowed_headers" then
    .ok { cors with allowedHeaders := splitText value }
  else if key = bytesFromString "rstrm.http_cors.exposed_headers" then
    .ok { cors with exposedHeaders := splitText value }
  else if key = bytesFromString "rstrm.http_cors.max_age" then
    match readMaxAge value with
    | none => .error invalidConfiguration
    | some maxAge => .ok { cors with maxAge }
  else .error invalidConfiguration

/-- How the loop over the parameters of `http_cors` ends: with a return, or after the last one. -/
inductive CorsLoop where
  | returned (errorCode : ErrorCode)
  | finished (cors : Option HttpCors) (errorCode : ErrorCode)

/-- The loop over the parameters of `http_cors`; after an error the others are skipped. -/
def corsLoop : List UrlParam → Option HttpCors → CorsLoop
  | [], cors => .finished cors .none
  | param :: rest, cors =>
    if (bytesFromString "rstrm.http_cors.").isPrefixOf param.1 then
      let current := cors.getD {}
      if param.1 = bytesFromString "rstrm.http_cors.allow_credentials" then
        match parseParamBool param.2 with
        | .error errorCode => .finished (some current) errorCode
        | .ok allowCredentials => corsLoop rest (some { current with allowCredentials })
      else match param.2 with
        | none => .returned invalidArgument
        | some value =>
          match current.set param.1 value with
          | .error errorCode => .finished (some current) errorCode
          | .ok next => corsLoop rest (some next)
    else corsLoop rest cors

/-- The options of `http_cors` cannot be used with the other properties. -/
def HttpCors.misplaced (cors : HttpCors) (publish : Option Bool) (protocol : Option Bytes) : Bool :=
  cors.allowedOrigins.isEmpty || publish == some false ||
    protocol.any (· != bytesFromString "http")

/-- The end of `parse_tunnel_properties`. -/
def paramCors (publish : Option Bool) (protocol : Option Bytes) :
    Except ErrorCode (Option HttpCors) :=
  match corsLoop params none with
  | .returned errorCode => .error errorCode
  | .finished cors errorCode =>
    if cors.any (·.misplaced publish protocol) then .error invalidConfiguration
    else if errorCode.failed then .error errorCode
    else .ok cors

/-! ## Settings -/

/-- `tunnel_properties`, as far as a URL determines them. -/
structure UrlTunnelProperties where
  type : Option Bytes
  publish : Option Bool
  protocol : Option Bytes
  labels : Labels
  geoip : List Bytes
  trustedIps : List Bytes
  host : Option Bytes
  hostname : Option Bytes
  tlsMinVersion : Option Bytes
  tlsCiphers : List Bytes
  mtlsAuth : Option Bool
  httpVersion : Option Bytes
  httpUseTls : Option Bool
  upstreamTls : Option Bool
  tokenAuth : Option Bool
  rstreamAuth : Option Bool
  challengeMode : Option Bool
  datagramGuaranteedDelivery : Option Bool
  allowCrossRegionRouting : Option Bool
  tlsMode : Option Bytes
  tlsAlpns : List Bytes
  httpCors : Option HttpCors

def parseTunnelProperties : Except ErrorCode UrlTunnelProperties := do
  let type ← paramText params "rstrm.type"
  let publish ← paramBool params "rstrm.publish"
  let protocol ← paramText params "rstrm.protocol"
  let labels ← paramLabels params "rstrm.labels"
  let geoip ← paramList params "rstrm.geoip"
  let trustedIps ← paramList params "rstrm.trusted_ips"
  let host ← paramText params "rstrm.host"
  let hostname ← paramText params "rstrm.hostname"
  let tlsMinVersion ← paramText params "rstrm.tls_min_version"
  let tlsCiphers ← paramList params "rstrm.tls_ciphers"
  let mtlsAuth ← paramBool params "rstrm.mtls_auth"
  let httpVersion ← paramText params "rstrm.http_version"
  let httpUseTls ← paramBool params "rstrm.http_use_tls"
  let upstreamTls ← paramBool params "rstrm.upstream_tls"
  let tokenAuth ← paramBool params "rstrm.token_auth"
  let rstreamAuth ← paramBool params "rstrm.rstream_auth"
  let challengeMode ← paramBool params "rstrm.challenge_mode"
  let datagramGuaranteedDelivery ← paramBool params "rstrm.datagram_guaranteed_delivery"
  let allowCrossRegionRouting ← paramBool params "rstrm.allow_cross_region_routing"
  let tlsMode ← paramText params "rstrm.tls_mode"
  let tlsAlpns ← paramList params "rstrm.tls_alpns"
  let httpCors ← paramCors params publish protocol
  .ok { type, publish, protocol, labels, geoip, trustedIps, host, hostname, tlsMinVersion,
        tlsCiphers, mtlsAuth, httpVersion, httpUseTls, upstreamTls, tokenAuth, rstreamAuth,
        challengeMode, datagramGuaranteedDelivery, allowCrossRegionRouting, tlsMode, tlsAlpns,
        httpCors }

/-- `config`, as far as a URL determines it. -/
structure UrlConfig where
  noToken : Bool
  token : Option Bytes
  tokenFromUriParam : Bool

def parseConfig : Except ErrorCode UrlConfig := do
  let noToken ← paramBool params "rstream.no_token"
  match findParam params "rstream.token" with
  | none => .ok ⟨noToken.getD false, none, false⟩
  | some value =>
    if noToken.getD false then .error invalidConfiguration
    else do
      let token ← parseParamText value
      .ok ⟨noToken.getD false, some token, true⟩

/-- `settings_acceptor`, as far as a URL determines them. -/
structure UrlSettingsAcceptor where
  config : UrlConfig
  autoReconnect : Bool
  tunnelProperties : UrlTunnelProperties

def parseSettingsAcceptor : Except ErrorCode UrlSettingsAcceptor := do
  let config ← parseConfig params
  let retry ← paramBool params "rstream.retry"
  let tunnelProperties ← parseTunnelProperties params
  .ok ⟨config, retry.getD true, tunnelProperties⟩

end Source

/-! ## Parameters and labels -/

section Labels

variable {fixed : List UrlParam} {labels : List Bytes}

/-- A list of labels among the parameters. -/
def labelParams (labels : List Bytes) : List UrlParam :=
  labels.map fun label => (bytesFromString "rstrm.labels", some label)

/-- The labels are not found under another key. -/
theorem findParam_append_labels {key : String}
    (other : bytesFromString key ≠ bytesFromString "rstrm.labels") :
    findParam (fixed ++ labelParams labels) key = findParam fixed key := by
  have absent : (labelParams labels).find? (fun param => param.1 == bytesFromString key) = none := by
    rw [List.find?_eq_none]
    intro param mem
    obtain ⟨label, -, rfl⟩ := List.mem_map.mp mem
    rw [beq_iff_eq]
    exact Ne.symm other
  rw [findParam, List.find?_append, absent, Option.or_none, findParam]

theorem paramLabels_append_labels
    (other : ∀ param ∈ fixed, param.1 ≠ bytesFromString "rstrm.labels") :
    paramLabels (fixed ++ labelParams labels) "rstrm.labels" =
      .ok (labels.foldl insertLabel SortedMap.empty) := by
  have skipped : ∀ (fixed : List UrlParam) (start : Labels),
      (∀ param ∈ fixed, param.1 ≠ bytesFromString "rstrm.labels") →
        fixed.foldlM (fun labels param =>
          if param.1 = bytesFromString "rstrm.labels" then
            (parseParamText param.2).map (insertLabel labels)
          else .ok labels) start = (.ok start : Except ErrorCode Labels) := by
    intro fixed start other
    induction fixed with
    | nil => rfl
    | cons param rest ih =>
      rw [List.forall_mem_cons] at other
      rw [List.foldlM_cons, if_neg other.1, ok_bind, ih other.2]
  have inserted : ∀ (labels : List Bytes) (start : Labels),
      (labelParams labels).foldlM (fun labels param =>
          if param.1 = bytesFromString "rstrm.labels" then
            (parseParamText param.2).map (insertLabel labels)
          else .ok labels) start =
        (.ok (labels.foldl insertLabel start) : Except ErrorCode Labels) := by
    intro labels start
    induction labels generalizing start with
    | nil => rfl
    | cons label rest ih =>
      rw [labelParams, List.map_cons, List.foldlM_cons, if_pos rfl]
      exact ih (insertLabel start label)
  rw [paramLabels, List.foldlM_append, skipped fixed _ other, ok_bind, inserted]

/-- Labels have nothing to do with cross-origin requests. -/
theorem corsLoop_of_other {params : List UrlParam}
    (other : ∀ param ∈ params, (bytesFromString "rstrm.http_cors.").isPrefixOf param.1 = false) :
    corsLoop params none = .finished none .none := by
  induction params with
  | nil => rfl
  | cons param rest ih =>
    rw [List.forall_mem_cons] at other
    rw [corsLoop, if_neg (Bool.eq_false_iff.mp other.1), ih other.2]

end Labels

end Rstream.Webtty.Cli
