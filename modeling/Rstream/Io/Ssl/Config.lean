import Rstream.Io.Ssl.Acceptor
import Rstream.Webtty.Cli.TunnelProperties

/-!
# The configuration of a TLS connection

`parse_ssl_config` reads the options of a TLS connection from the parameters of a URL. Without a
parameter `ssl` that is true there is no TLS. An option that is not given has a default, and the
peer's certificate is asked for by default exactly when the peer is verified.
-/

namespace Rstream.Io.Ssl

open IoRstrm (ErrorCode)
open Library
open Webtty (Bytes bytesFromString isSpace)
open Webtty.Cli (UrlParam findParam invalidArgument paramBool paramText readDigits)

structure Config where
  tlsv12 : Bool := false
  tlsv13 : Bool := false
  peerVerification : Bool := true
  requestPeerCert : Bool := true
  clientRpk : Bool := false
  serverRpk : Bool := false
  key : Option Bytes := none
  keyFile : Option Bytes := none
  keyType : Option Bytes := none
  passphrase : Option Bytes := none
  cert : Option Bytes := none
  certFile : Option Bytes := none
  certType : Option Bytes := none
  tmpDhParams : Option Bytes := none
  tmpDhParamsFile : Option Bytes := none
  cacert : Option Bytes := none
  cacertFile : Option Bytes := none
  capath : Option Bytes := none
  ciphers : Option Bytes := none
  ciphersTlsv13 : Option Bytes := none
  groups : Option Bytes := none
  sni : Option Bytes := none
  alpnProtos : Option Bytes := none
  engine : Option Bytes := none
  pkcs11Module : Option Bytes := none
  pkcs11PinEnv : Option Bytes := none
  pkcs11Provider : Option Bytes := none
  maxOngoingUpstreamOps : Option Nat := none
  asyncShutdownTimeoutMs : Option Nat := none

/-! ## `parse_ssl_config` -/

/-- `std::stoul` of the digits behind the sign; what follows them is not read. -/
def stoulDigits (negative : Bool) (text : Bytes) : Option Nat :=
  match readDigits (text.takeWhile fun byte => 48 ≤ byte && byte ≤ 57) with
  | none => none
  | some value =>
    if 2 ^ 64 ≤ value then none
    else some (if negative then (2 ^ 64 - value) % 2 ^ 64 else value)

/-- `std::stoul`, with `none` where it throws. A negative number wraps around. -/
def stoul (text : Bytes) : Option Nat :=
  match text.dropWhile isSpace with
  | 45 :: digits => stoulDigits true digits
  | 43 :: digits => stoulDigits false digits
  | digits => stoulDigits false digits

/-- `parse_url_param_value` of a number. -/
def parseParamUlong : Option Bytes → Except ErrorCode Nat
  | none => .error invalidArgument
  | some value => (stoul value).elim (.error invalidArgument) .ok

section Source

variable (params : List UrlParam)

/-- `PARSE_PARAMS_VIEW_ULONG`. -/
def paramUlong (key : String) : Except ErrorCode (Option Nat) :=
  match findParam params key with
  | none => .ok none
  | some value => (parseParamUlong value).map some

/-- The options of an encrypted connection. -/
def parseSslOptions : Except ErrorCode Config := do
  let tlsv12 ← paramBool params "ssl.tlsv12"
  let tlsv13 ← paramBool params "ssl.tlsv13"
  let peerVerification ← paramBool params "ssl.peer_verification"
  let requestPeerCert ← paramBool params "ssl.request_peer_cert"
  let clientRpk ← paramBool params "ssl.client_rpk"
  let serverRpk ← paramBool params "ssl.server_rpk"
  let key ← paramText params "ssl.key"
  let keyFile ← paramText params "ssl.key_file"
  let keyType ← paramText params "ssl.key_type"
  let passphrase ← paramText params "ssl.passphrase"
  let cert ← paramText params "ssl.cert"
  let certFile ← paramText params "ssl.cert_file"
  let certType ← paramText params "ssl.cert_type"
  let tmpDhParams ← paramText params "ssl.tmp_dh_params"
  let tmpDhParamsFile ← paramText params "ssl.tmp_dh_params_file"
  let cacert ← paramText params "ssl.cacert"
  let cacertFile ← paramText params "ssl.cacert_file"
  let capath ← paramText params "ssl.capath"
  let ciphers ← paramText params "ssl.ciphers"
  let ciphersTlsv13 ← paramText params "ssl.ciphers_tlsv13"
  let groups ← paramText params "ssl.groups"
  let sni ← paramText params "ssl.sni"
  let alpnProtos ← paramText params "ssl.alpn_protos"
  let engine ← paramText params "ssl.engine"
  let pkcs11Module ← paramText params "ssl.pkcs11_module"
  let pkcs11PinEnv ← paramText params "ssl.pkcs11_pin_env"
  let pkcs11Provider ← paramText params "ssl.pkcs11_provider"
  let maxOngoingUpstreamOps ← paramUlong params "ssl.max_ongoing_upstream_ops"
  let asyncShutdownTimeoutMs ← paramUlong params "ssl.async_shutdown_timeout_ms"
  .ok {
    tlsv12 := tlsv12.getD false, tlsv13 := tlsv13.getD false
    peerVerification := peerVerification.getD true
    -- the certificate is asked for by default when the peer is verified
    requestPeerCert := requestPeerCert.getD (peerVerification.getD true)
    clientRpk := clientRpk.getD false, serverRpk := serverRpk.getD false
    key, keyFile, keyType, passphrase, cert, certFile, certType
    tmpDhParams, tmpDhParamsFile, cacert, cacertFile, capath
    ciphers, ciphersTlsv13, groups, sni, alpnProtos
    engine, pkcs11Module, pkcs11PinEnv, pkcs11Provider
    maxOngoingUpstreamOps, asyncShutdownTimeoutMs }

def parseSslConfig : Except ErrorCode (Option Config) := do
  let ssl ← paramBool params "ssl"
  if ssl.getD false then parseSslOptions params >>= fun config => .ok (some config) else .ok none

end Source

/-! ## What is read -/

section Results

variable {params : List UrlParam} {config : Config}

/-- The options that decide whether the peer is verified, and under which name. -/
theorem parseSslOptions_verification (parsed : parseSslOptions params = .ok config) :
    ∃ peerVerification requestPeerCert,
      paramBool params "ssl.peer_verification" = .ok peerVerification ∧
      paramBool params "ssl.request_peer_cert" = .ok requestPeerCert ∧
      paramText params "ssl.sni" = .ok config.sni ∧
      config.peerVerification = peerVerification.getD true ∧
      config.requestPeerCert = requestPeerCert.getD config.peerVerification := by
  rw [parseSslOptions] at parsed
  iterate 2 obtain ⟨_, -, parsed⟩ := bind_eq_ok.mp parsed
  obtain ⟨peerVerification, verification, parsed⟩ := bind_eq_ok.mp parsed
  obtain ⟨requestPeerCert, request, parsed⟩ := bind_eq_ok.mp parsed
  iterate 17 obtain ⟨_, -, parsed⟩ := bind_eq_ok.mp parsed
  obtain ⟨sni, named, parsed⟩ := bind_eq_ok.mp parsed
  iterate 7 obtain ⟨_, -, parsed⟩ := bind_eq_ok.mp parsed
  cases parsed
  exact ⟨peerVerification, requestPeerCert, verification, request, named, rfl, rfl⟩

/-- **There is a configuration exactly when `ssl` is true**, and no option of it is malformed. -/
theorem parseSslConfig_eq_some :
    parseSslConfig params = .ok (some config) ↔
      paramBool params "ssl" = .ok (some true) ∧ parseSslOptions params = .ok config := by
  rw [parseSslConfig, bind_eq_ok]
  constructor
  · rintro ⟨ssl, asked, parsed⟩
    cases ssl with
    | none => cases parsed
    | some ssl =>
      cases ssl with
      | false => cases parsed
      | true =>
        rw [Option.getD_some, if_pos rfl, bind_eq_ok] at parsed
        obtain ⟨options, read, same⟩ := parsed
        cases same
        exact ⟨asked, read⟩
  · rintro ⟨asked, read⟩
    refine ⟨some true, asked, ?_⟩
    rw [Option.getD_some, if_pos rfl, read, ok_bind]

/-- The peer is verified unless the URL says that it is not. -/
theorem parseSslOptions_peerVerification (parsed : parseSslOptions params = .ok config) :
    config.peerVerification = true ↔
      paramBool params "ssl.peer_verification" ≠ .ok (some false) := by
  obtain ⟨peerVerification, _, verification, -, -, value, -⟩ := parseSslOptions_verification parsed
  rw [value, verification, ne_eq, Except.ok.injEq]
  cases peerVerification with
  | none => exact iff_of_true rfl (by simp)
  | some verified => cases verified <;> simp

/-- Only a URL that asks for it gives the contradiction that a context refuses: the peer is
verified, and its certificate is not asked for. -/
theorem parseSslOptions_contradiction (parsed : parseSslOptions params = .ok config)
    (verified : config.peerVerification = true) (unasked : config.requestPeerCert = false) :
    paramBool params "ssl.request_peer_cert" = .ok (some false) := by
  obtain ⟨_, requestPeerCert, -, request, -, -, value⟩ := parseSslOptions_verification parsed
  rw [unasked, verified] at value
  rw [request]
  cases requestPeerCert with
  | none => cases value
  | some asked => exact congrArg _ (congrArg _ value.symm)

end Results

example : stoul (bytesFromString " 10x") = some 10 := by decide

end Rstream.Io.Ssl
