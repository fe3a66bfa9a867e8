import Mathlib.Data.List.Infix
import Rstream.Io.Upgrade
import Rstream.IoRstrm.ContextSelection
import Rstream.Library.Queries

/-!
# The address of the engine

`get_rstream_engine_address` writes the address of the engine as a text. An engine without a scheme
is given one, with the parameters of an encrypted connection, and the settings of the context are
appended to its query. Nothing is parsed: a question mark is written unless the text has one
already, and that test is left out where the parameters of the connection are written.

So a question mark in an engine without a scheme puts these parameters into the value before them,
and a number sign puts whatever is appended into the fragment. In every other case the parameters
of the address are those of the engine and the configured ones (`composed_iff`).

Texts are strings of bytes here; the byte of a character is its code.
-/

namespace Rstream.IoRstrm

open List
open Io.Upgrade (bytesOf bytesOf_ofList bytesOf_append)
open Library

/-- The options of the build that the address depends on. -/
structure EngineBuild where
  /-- `RSTREAM_WITH_PKCS11`. -/
  withPkcs11 : Bool := false
  /-- `OPENSSL_VERSION_NUMBER`. -/
  opensslVersion : Nat := 0x30000000

/-! ## Appending to an address -/

def defaultTlsGroupsQuery (build : EngineBuild) : List UInt8 :=
  if 0x30500000 ≤ build.opensslVersion then
    bytesOf ("&ssl.groups=SecP256r1MLKEM768%3ASecP384r1MLKEM1024%3AX25519MLKEM768" ++
      "%3AX25519%3Asecp256r1%3Asecp384r1")
  else bytesOf "&ssl.groups=X25519%3Asecp256r1%3Asecp384r1"

def appendQueryParam (address : List UInt8) (key : String) (value : List UInt8) : List UInt8 :=
  address ++ (if 63 ∈ address then 38 else 63) :: bytesOf key ++ 61 :: escape value

/-- `append_query_param` with a text of the configuration, unless it is empty. -/
def appendNonEmpty (address : List UInt8) (key value : String) : List UInt8 :=
  if value = "" then address else appendQueryParam address key (bytesOf value)

def countNonEmpty (first second : String) : Nat :=
  (if first = "" then 0 else 1) + if second = "" then 0 else 1

def isXDigit (byte : UInt8) : Bool := (escapeValue byte).isSome

def isHexString (value : List UInt8) : Bool :=
  !value.isEmpty && value.length % 2 == 0 && value.all isXDigit

/-- Every two digits behind a percent sign. -/
def percentPairs : List UInt8 → List UInt8
  | first :: second :: digits => 37 :: first :: second :: percentPairs digits
  | _ => []

def pkcs11UriIdFromHex (value : List UInt8) : Except ErrorCode (List UInt8) :=
  if isHexString value then .ok (percentPairs value) else .error Error.Code.invalidConfiguration

/-- An attribute of a PKCS#11 URI, unless its value is empty. -/
def pkcs11Attribute (key value : String) : List UInt8 :=
  if value = "" then [] else bytesOf key ++ escape (bytesOf value) ++ bytesOf ";"

def pkcs11UriForObject (storage : ConfigMtlsStorage) (label idHex type : String) :
    Except ErrorCode (List UInt8) := do
  let uri := bytesOf "pkcs11:" ++ pkcs11Attribute "token=" storage.tokenLabel ++
    pkcs11Attribute "serial=" storage.tokenSerial
  if label ≠ "" then
    .ok (uri ++ pkcs11Attribute "object=" label ++ bytesOf "type=" ++ bytesOf type)
  else
    let id ← pkcs11UriIdFromHex (bytesOf idHex)
    .ok (uri ++ bytesOf "id=" ++ id ++ bytesOf ";" ++ bytesOf "type=" ++ bytesOf type)

section Mtls

variable (build : EngineBuild) (address : List UInt8)

/-- What `append_mtls_auth_params` asks of a stored key. -/
def checkStorage (storage : ConfigMtlsStorage) : Except ErrorCode PUnit.{1} := do
  require (storage.kind ≠ "exec") Error.Code.unsupportedMtlsExec.toErrorCode
  require (storage.kind ≠ "keychain") Error.Code.invalidConfiguration.toErrorCode
  require (storage.kind = "pkcs11") Error.Code.invalidConfiguration.toErrorCode
  require build.withPkcs11 Error.Code.invalidConfiguration.toErrorCode
  require (storage.provider = "" ∧ storage.moduleName ≠ "" ∧ storage.pinEnv ≠ "")
    Error.Code.invalidConfiguration.toErrorCode
  require (storage.slot = none ∧ storage.maxSessions = 0 ∧ storage.certificateSha256 = "")
    Error.Code.invalidConfiguration.toErrorCode
  require (countNonEmpty storage.tokenLabel storage.tokenSerial = 1)
    Error.Code.invalidConfiguration.toErrorCode
  require (countNonEmpty storage.keyLabel storage.keyIdHex = 1)
    Error.Code.invalidConfiguration.toErrorCode
  require (countNonEmpty storage.certificate storage.certificateFile ≤ 1 ∧
    countNonEmpty storage.certificateLabel storage.certificateIdHex ≤ 1)
    Error.Code.invalidConfiguration.toErrorCode
  require (¬(storage.certificate ≠ "" ∨ storage.certificateFile ≠ "" ↔
    storage.certificateLabel ≠ "" ∨ storage.certificateIdHex ≠ ""))
    Error.Code.invalidConfiguration.toErrorCode

/-- The certificate of a stored key. -/
def appendStoredCertificate (storage : ConfigMtlsStorage) : Except ErrorCode (List UInt8) := do
  if storage.certificate ≠ "" then
    .ok (appendQueryParam address "ssl.cert" (bytesOf storage.certificate))
  else if storage.certificateFile ≠ "" then
    .ok (appendQueryParam address "ssl.cert_file" (bytesOf storage.certificateFile))
  else
    let uri ← pkcs11UriForObject storage storage.certificateLabel storage.certificateIdHex "cert"
    .ok (appendQueryParam (appendQueryParam address "ssl.cert" uri) "ssl.cert_type"
      (bytesOf "pkcs11"))

/-- The part of `append_mtls_auth_params` for a stored key. -/
def appendStorageParams (storage : ConfigMtlsStorage) : Except ErrorCode (List UInt8) := do
  checkStorage build storage
  let keyUri ← pkcs11UriForObject storage storage.keyLabel storage.keyIdHex "private"
  let address := appendQueryParam address "ssl.pkcs11_module" (bytesOf storage.moduleName)
  let address := appendNonEmpty address "ssl.pkcs11_provider" storage.opensslProvider
  let address := appendQueryParam address "ssl.pkcs11_pin_env" (bytesOf storage.pinEnv)
  let address := appendQueryParam address "ssl.key" keyUri
  let address := appendQueryParam address "ssl.key_type" (bytesOf "pkcs11")
  appendStoredCertificate address storage

/-- The part of `append_mtls_auth_params` for a key that is there or in a file. -/
def appendKeyParams (mtls : ConfigMtls) : Except ErrorCode (List UInt8) := do
  require (¬(mtls.certificate ≠ "" ↔ mtls.certificateFile ≠ "") ∧
    ¬(mtls.key ≠ "" ↔ mtls.keyFile ≠ "")) Error.Code.invalidConfiguration.toErrorCode
  require ((mtls.certificate ≠ "" ↔ mtls.key ≠ "") ∧
    (mtls.certificateFile ≠ "" ↔ mtls.keyFile ≠ "")) Error.Code.invalidConfiguration.toErrorCode
  if mtls.certificate ≠ "" then
    .ok (appendQueryParam (appendQueryParam address "ssl.cert" (bytesOf mtls.certificate))
      "ssl.key" (bytesOf mtls.key))
  else
    .ok (appendQueryParam (appendQueryParam address "ssl.cert_file" (bytesOf mtls.certificateFile))
      "ssl.key_file" (bytesOf mtls.keyFile))

def appendMtlsAuthParams : Option ConfigMtls → Except ErrorCode (List UInt8)
  | none => .ok address
  | some mtls =>
    if mtls.storage.present then do
      require (mtls.certificate = "" ∧ mtls.certificateFile = "" ∧ mtls.key = "" ∧
        mtls.keyFile = "") Error.Code.invalidConfiguration.toErrorCode
      appendStorageParams build address mtls.storage
    else appendKeyParams address mtls

def appendEngineTlsParams : Option ConfigTls → List UInt8
  | none => address
  | some tls =>
    let address := appendNonEmpty address "ssl.cacert_file" tls.caFile
    let address := appendNonEmpty address "ssl.sni" tls.serverName
    if tls.insecureSkipVerifySet ∧ tls.insecureSkipVerify then
      appendQueryParam address "ssl.peer_verification" (bytesOf "false")
    else address

end Mtls

/-! ## `get_rstream_engine_address` -/

/-- Whether `://` occurs. -/
def hasScheme (engine : List UInt8) : Bool := decide (bytesOf "://" <:+: engine)

def schemedEngine (build : EngineBuild) (engine : List UInt8) : List UInt8 :=
  if hasScheme engine then engine
  else bytesOf "tcp://" ++ engine ++ bytesOf "?ssl&ssl.tlsv13&ssl.alpn_protos=rstrm%2F1" ++
    defaultTlsGroupsQuery build

/-- What the address is made of. -/
structure EngineSettings where
  engine : String := ""
  tls : Option ConfigTls := none
  mtls : Option ConfigMtls := none

def Surroundings.resolveMtlsFromEnvironment (surroundings : Surroundings) : Option ConfigMtls :=
  let certificateFile := surroundings.getenvTrim "RSTREAM_MTLS_CERT_FILE"
  let keyFile := surroundings.getenvTrim "RSTREAM_MTLS_KEY_FILE"
  if certificateFile = "" ∧ keyFile = "" then none
  else some { present := true, certificateFile, keyFile }

/-- The settings of the selected context. -/
def Surroundings.contextSettings (surroundings : Surroundings) (configPath : Option String) :
    Except ErrorCode EngineSettings := do
  let file ← surroundings.loadRstreamConfig configPath
  let apiUrl := surroundings.getenvTrim "RSTREAM_API_URL"
  let contextName := surroundings.getenvTrim "RSTREAM_CONTEXT"
  let contextName := if contextName = "" then file.defaultContext else contextName
  let engine ← surroundings.resolveEngineFromConfig file apiUrl contextName
  let mtls ← match surroundings.resolveMtlsFromEnvironment with
    | some mtls => .ok (some mtls)
    | none => surroundings.resolveMtlsFromConfig file apiUrl contextName
  let tls ← surroundings.resolveTlsFromConfig file apiUrl contextName
  .ok { engine := engine.getD "", tls, mtls }

/-- The settings of `RSTREAM_ENGINE`, and without it those of the selected context. -/
def Surroundings.engineSettings (surroundings : Surroundings) (configPath : Option String) :
    Except ErrorCode EngineSettings :=
  let engine := surroundings.getenvTrim "RSTREAM_ENGINE"
  if engine = "" then surroundings.contextSettings configPath
  else .ok { engine, mtls := surroundings.resolveMtlsFromEnvironment }

/-- The address that is made of settings. -/
def EngineSettings.address (build : EngineBuild) (settings : EngineSettings) :
    Except ErrorCode (List UInt8) :=
  if settings.engine = "" then .error Error.Code.invalidConfiguration
  else appendMtlsAuthParams build
    (appendEngineTlsParams (schemedEngine build (bytesOf settings.engine)) settings.tls)
    settings.mtls

def Surroundings.getRstreamEngineAddress (build : EngineBuild) (surroundings : Surroundings)
    (configPath : Option String) : Except ErrorCode (List UInt8) := do
  let _ ← surroundings.resolveTunnelTransportMode none none
  let engineAddress := surroundings.getenvTrim "RSTREAM_ENGINE_ADDRESS"
  if engineAddress ≠ "" then
    appendMtlsAuthParams build (bytesOf engineAddress) surroundings.resolveMtlsFromEnvironment
  else
    let settings ← surroundings.engineSettings configPath
    settings.address build

/-! ## What the address is to say -/

/-- A query parameter of a URL, as it is meant. -/
abbrev QueryParam := List UInt8 × Option (List UInt8)

/-- `boost::urls::url::params`: the query ends where the fragment begins, and a plus sign in it
stands for a space. A text that parses as a URL has them. -/
def urlParams (text : List UInt8) : Option (List QueryParam) :=
  (cut 63 (cut 35 text).1).2.elim (some []) fun query =>
    readQuery (query.map fun byte => if byte = 43 then 32 else byte)

/-- The parameters of an encrypted connection. -/
def connectionParams (build : EngineBuild) : List QueryParam :=
  [(bytesOf "ssl", none), (bytesOf "ssl.tlsv13", none),
    (bytesOf "ssl.alpn_protos", some (bytesOf "rstrm/1")),
    (bytesOf "ssl.groups", some (if 0x30500000 ≤ build.opensslVersion then
      bytesOf ("SecP256r1MLKEM768:SecP384r1MLKEM1024:X25519MLKEM768:X25519:secp256r1:secp384r1")
      else bytesOf "X25519:secp256r1:secp384r1"))]

/-- A parameter that is there unless its value is empty. -/
def paramNonEmpty (key value : String) : List (String × List UInt8) :=
  if value = "" then [] else [(key, bytesOf value)]

/-- The parameters of a TLS configuration. -/
def tlsParams : Option ConfigTls → List (String × List UInt8)
  | none => []
  | some tls => paramNonEmpty "ssl.cacert_file" tls.caFile ++
      paramNonEmpty "ssl.sni" tls.serverName ++
      if tls.insecureSkipVerifySet ∧ tls.insecureSkipVerify then
        [("ssl.peer_verification", bytesOf "false")]
      else []

/-- The PKCS#11 URI of an object with a label or an identifier. -/
def objectUri (storage : ConfigMtlsStorage) (label idHex type : String) : List UInt8 :=
  bytesOf "pkcs11:" ++ pkcs11Attribute "token=" storage.tokenLabel ++
    pkcs11Attribute "serial=" storage.tokenSerial ++
    (if label ≠ "" then pkcs11Attribute "object=" label
      else bytesOf "id=" ++ percentPairs (bytesOf idHex) ++ bytesOf ";") ++
    bytesOf "type=" ++ bytesOf type

/-- The parameters of a stored key and its certificate. -/
def storageParams (storage : ConfigMtlsStorage) : List (String × List UInt8) :=
  [("ssl.pkcs11_module", bytesOf storage.moduleName)] ++
  paramNonEmpty "ssl.pkcs11_provider" storage.opensslProvider ++
  [("ssl.pkcs11_pin_env", bytesOf storage.pinEnv),
    ("ssl.key", objectUri storage storage.keyLabel storage.keyIdHex "private"),
    ("ssl.key_type", bytesOf "pkcs11")] ++
  if storage.certificate ≠ "" then [("ssl.cert", bytesOf storage.certificate)]
  else if storage.certificateFile ≠ "" then [("ssl.cert_file", bytesOf storage.certificateFile)]
  else [("ssl.cert", objectUri storage storage.certificateLabel storage.certificateIdHex "cert"),
    ("ssl.cert_type", bytesOf "pkcs11")]

/-- The parameters of a mutual TLS configuration. -/
def mtlsParams : Option ConfigMtls → List (String × List UInt8)
  | none => []
  | some mtls =>
    if mtls.storage.present then storageParams mtls.storage
    else if mtls.certificate ≠ "" then
      [("ssl.cert", bytesOf mtls.certificate), ("ssl.key", bytesOf mtls.key)]
    else [("ssl.cert_file", bytesOf mtls.certificateFile), ("ssl.key_file", bytesOf mtls.keyFile)]

/-- The parameters that the settings add to those of the engine. -/
def EngineSettings.configured (settings : EngineSettings) : List (String × List UInt8) :=
  tlsParams settings.tls ++ mtlsParams settings.mtls

/-- A configured parameter, as it is meant. -/
def configuredParam (param : String × List UInt8) : QueryParam := (bytesOf param.1, some param.2)

/-- The parameters that are added to those of the engine. -/
def EngineSettings.added (build : EngineBuild) (settings : EngineSettings) : List QueryParam :=
  (if hasScheme (bytesOf settings.engine) then [] else connectionParams build) ++
    settings.configured.map configuredParam

/-- **The parameters of the address are those of the engine and the added ones**, and without a
scheme in the engine they are those of an encrypted connection. -/
def Composed (build : EngineBuild) (settings : EngineSettings) (address : List UInt8) : Prop :=
  ∃ own params, urlParams (bytesOf settings.engine) = some own ∧
    urlParams address = some params ∧ params = own ++ settings.added build ∧
    (hasScheme (bytesOf settings.engine) = false →
      (bytesOf "ssl", none) ∈ params ∧ (bytesOf "ssl.tlsv13", none) ∈ params ∧
        (bytesOf "ssl.alpn_protos", some (bytesOf "rstrm/1")) ∈ params)

/-! ## The text of the address -/

/-- A configured parameter is appended. -/
def appendParam (address : List UInt8) (param : String × List UInt8) : List UInt8 :=
  appendQueryParam address param.1 param.2

theorem appendNonEmpty_eq (address : List UInt8) (key value : String) :
    appendNonEmpty address key value = (paramNonEmpty key value).foldl appendParam address := by
  rw [appendNonEmpty, paramNonEmpty]
  split <;> rfl

theorem appendEngineTlsParams_eq (address : List UInt8) (tls : Option ConfigTls) :
    appendEngineTlsParams address tls = (tlsParams tls).foldl appendParam address := by
  cases tls with
  | none => rfl
  | some tls =>
    simp only [appendEngineTlsParams, tlsParams, appendNonEmpty_eq]
    split
    · simp only [foldl_append]
      rfl
    · rw [append_nil, foldl_append]

theorem pkcs11UriForObject_ok {storage : ConfigMtlsStorage} {label idHex type : String}
    {uri : List UInt8} (made : pkcs11UriForObject storage label idHex type = .ok uri) :
    uri = objectUri storage label idHex type := by
  unfold pkcs11UriForObject at made
  rw [objectUri]
  split at made
  · rename_i labelled
    rw [if_pos labelled]
    cases made
    simp only [append_assoc]
  · rename_i unlabelled
    rw [if_neg unlabelled]
    obtain ⟨id, found, made⟩ := bind_eq_ok.mp made
    cases made
    rw [pkcs11UriIdFromHex] at found
    split at found
    · cases found
      simp only [append_assoc]
    · cases found

theorem appendStorageParams_ok {build : EngineBuild} {address result : List UInt8}
    {storage : ConfigMtlsStorage} (made : appendStorageParams build address storage = .ok result) :
    result = (storageParams storage).foldl appendParam address := by
  simp only [appendStorageParams, bind_eq_ok, appendNonEmpty_eq] at made
  obtain ⟨-, -, keyUri, key, made⟩ := made
  obtain rfl := pkcs11UriForObject_ok key
  rw [storageParams, foldl_append, foldl_append, foldl_append]
  rw [appendStoredCertificate] at made
  split at made
  · rename_i inline
    rw [if_pos inline]
    cases made
    rfl
  · rename_i noInline
    rw [if_neg noInline]
    split at made
    · rename_i file
      rw [if_pos file]
      cases made
      rfl
    · rename_i noFile
      rw [if_neg noFile]
      obtain ⟨uri, certificate, made⟩ := bind_eq_ok.mp made
      obtain rfl := pkcs11UriForObject_ok certificate
      cases made
      rfl

theorem appendMtlsAuthParams_ok {build : EngineBuild} {address result : List UInt8}
    {mtls : Option ConfigMtls} (made : appendMtlsAuthParams build address mtls = .ok result) :
    result = (mtlsParams mtls).foldl appendParam address := by
  cases mtls with
  | none =>
    cases made
    rfl
  | some mtls =>
    rw [appendMtlsAuthParams] at made
    rw [mtlsParams]
    split at made
    · rename_i stored
      rw [if_pos stored]
      obtain ⟨-, -, made⟩ := bind_eq_ok.mp made
      exact appendStorageParams_ok made
    · rename_i notStored
      rw [if_neg notStored]
      simp only [appendKeyParams, bind_eq_ok] at made
      obtain ⟨-, -, -, -, made⟩ := made
      split at made
      · rename_i inline
        rw [if_pos inline]
        cases made
        rfl
      · rename_i file
        rw [if_neg file]
        cases made
        rfl

theorem EngineSettings.address_ok {build : EngineBuild} {settings : EngineSettings}
    {address : List UInt8} (made : settings.address build = .ok address) :
    address = settings.configured.foldl appendParam
      (schemedEngine build (bytesOf settings.engine)) := by
  rw [EngineSettings.address] at made
  split at made
  · cases made
  · rw [EngineSettings.configured, foldl_append, ← appendEngineTlsParams_eq]
    exact appendMtlsAuthParams_ok made

/-! ## The parameters of a longer text -/

variable {text : List UInt8}

/-- What follows a number sign adds no parameters. -/
theorem urlParams_append_of_mem (fragment : 35 ∈ text) (more : List UInt8) :
    urlParams (text ++ more) = urlParams text := by
  rw [urlParams, urlParams, cut_append_of_mem fragment]

/-- A space for every plus sign. -/
def spaces (query : List UInt8) : List UInt8 :=
  query.map fun byte => if byte = 43 then 32 else byte

theorem spaces_of_notMem {query : List UInt8} (absent : 43 ∉ query) : spaces query = query := by
  rw [spaces]
  refine (map_congr_left fun byte mem => if_neg ?_).trans (map_id query)
  rintro rfl
  exact absent mem

theorem spaces_append_ampersand (first rest : List UInt8) :
    spaces (first ++ 38 :: rest) = spaces first ++ 38 :: spaces rest := by
  rw [spaces, map_append, map_cons]
  rfl

theorem urlParams_of_query {before query : List UInt8} (clean : 35 ∉ before ++ 63 :: query)
    (first : 63 ∉ before) : urlParams (before ++ 63 :: query) = readQuery (spaces query) := by
  have text : before ++ 63 :: query = paste 63 before (some query) := rfl
  rw [urlParams, cut_of_notMem clean, text, cut_paste first]
  rfl

theorem urlParams_of_notMem (clean : 35 ∉ text) (noQuery : 63 ∉ text) :
    urlParams text = some [] := by
  rw [urlParams, cut_of_notMem clean, cut_of_notMem noQuery]
  rfl

/-- A text with a question mark is cut at the first. -/
theorem exists_query (mem : 63 ∈ text) :
    ∃ before query, text = before ++ 63 :: query ∧ 63 ∉ before :=
  eq_append_cons_of_mem mem

section Append

variable {address : List UInt8} {key : String} {value : List UInt8}

/-- The key is written as it is. -/
def PlainKey (key : String) : Prop := ∀ byte ∈ bytesOf key, isUnreserved byte = true

theorem escapesItem_param (plain : PlainKey key) (value : List UInt8) :
    EscapesItem (bytesOf key, escape value) (bytesOf key, value) :=
  ⟨escapes_of_unreserved plain, escapes_escape value⟩

/-- The text of a parameter. -/
def paramText (key : String) (value : List UInt8) : List UInt8 :=
  writeItem (bytesOf key, escape value)

theorem notMem_paramText (plain : PlainKey key) (value : List UInt8) {byte : UInt8}
    (other : byte ≠ 37) (equals : byte ≠ 61) (reserved : isUnreserved byte = false) :
    byte ∉ paramText key value := by
  obtain ⟨keyEscapes, valueEscapes⟩ := escapesItem_param plain value
  rw [paramText, writeItem, paste, Option.elim_some, mem_append, mem_cons, not_or, not_or]
  exact ⟨keyEscapes.notMem other reserved, equals, valueEscapes.notMem other reserved⟩

theorem readQuery_paramText (plain : PlainKey key) (value : List UInt8) :
    readQuery (spaces (paramText key value)) = some [(bytesOf key, some value)] := by
  rw [spaces_of_notMem (notMem_paramText plain value (by decide) (by decide) (by decide))]
  have single : paramText key value = writeQuery [(bytesOf key, escape value)] := by
    rw [writeQuery, map_singleton, intercalate_singleton]
    rfl
  rw [single]
  exact readQuery_write (cons_ne_nil _ _) (.cons (escapesItem_param plain value) .nil)

theorem appendQueryParam_eq (address : List UInt8) (key : String) (value : List UInt8) :
    appendQueryParam address key value =
      address ++ (if 63 ∈ address then 38 else 63) :: paramText key value := by
  rw [appendQueryParam, paramText, writeItem, paste, append_assoc]
  rfl

theorem notMem_appendQueryParam (clean : 35 ∉ address) (plain : PlainKey key) :
    35 ∉ appendQueryParam address key value := by
  rw [appendQueryParam_eq, mem_append, mem_cons, not_or, not_or]
  refine ⟨clean, ?_, notMem_paramText plain value (by decide) (by decide) (by decide)⟩
  split <;> decide

/-- **A parameter is appended to those of an address without a fragment.** -/
theorem urlParams_appendQueryParam (clean : 35 ∉ address) (plain : PlainKey key) :
    urlParams (appendQueryParam address key value) =
      (urlParams address).map (· ++ [(bytesOf key, some value)]) := by
  have cleanAfter : 35 ∉ appendQueryParam address key value := notMem_appendQueryParam clean plain
  rw [appendQueryParam_eq] at cleanAfter ⊢
  by_cases mark : 63 ∈ address
  · rw [if_pos mark] at cleanAfter ⊢
    obtain ⟨before, query, rfl, first⟩ := exists_query mark
    rw [append_assoc, cons_append] at cleanAfter ⊢
    rw [urlParams_of_query cleanAfter first, urlParams_of_query clean first,
      spaces_append_ampersand, readQuery_append, readQuery_paramText plain]
    cases readQuery (spaces query) <;> rfl
  · rw [if_neg mark] at cleanAfter ⊢
    rw [urlParams_of_query cleanAfter mark, urlParams_of_notMem clean mark,
      readQuery_paramText plain]
    rfl

end Append

/-- The parameters of an address without a fragment, after configured ones are appended. -/
theorem urlParams_foldl {params : List (String × List UInt8)} {address : List UInt8}
    (clean : 35 ∉ address) (plain : ∀ param ∈ params, PlainKey param.1) :
    urlParams (params.foldl appendParam address) =
      (urlParams address).map (· ++ params.map configuredParam) := by
  induction params generalizing address with
  | nil => simp
  | cons param params ih =>
    rw [forall_mem_cons] at plain
    rw [foldl_cons, appendParam, ih (notMem_appendQueryParam clean plain.1) plain.2,
      urlParams_appendQueryParam clean plain.1, Option.map_map]
    congr 1
    funext own
    exact append_assoc own _ _

/-- Configured parameters are appended behind the address. -/
theorem foldl_appendParam (params : List (String × List UInt8)) (address : List UInt8) :
    ∃ more, params.foldl appendParam address = address ++ more := by
  induction params generalizing address with
  | nil => exact ⟨[], (append_nil address).symm⟩
  | cons param params ih =>
    obtain ⟨more, after⟩ := ih (appendParam address param)
    refine ⟨(if 63 ∈ address then 38 else 63) :: paramText param.1 param.2 ++ more, ?_⟩
    rw [foldl_cons, after, appendParam, appendQueryParam_eq, append_assoc]

/-! ## When the parameters are the intended ones -/

/-- The keys of the parameters that are appended. -/
def addressKeys : List String :=
  ["ssl.cacert_file", "ssl.sni", "ssl.peer_verification", "ssl.pkcs11_module",
    "ssl.pkcs11_provider", "ssl.pkcs11_pin_env", "ssl.key", "ssl.key_type", "ssl.cert",
    "ssl.cert_file", "ssl.cert_type", "ssl.key_file"]

theorem plainKey_of_mem {key : String} (mem : key ∈ addressKeys) : PlainKey key := by
  have table : ∀ key ∈ addressKeys, (bytesOf key).all isUnreserved = true := by decide
  exact all_eq_true.mp (table key mem)

theorem key_mem_paramNonEmpty {key value : String} (known : key ∈ addressKeys) :
    ∀ param ∈ paramNonEmpty key value, param.1 ∈ addressKeys := by
  intro param mem
  rw [paramNonEmpty] at mem
  split at mem
  · cases mem
  · rw [mem_singleton.mp mem]
    exact known

theorem key_mem_tlsParams (tls : Option ConfigTls) :
    ∀ param ∈ tlsParams tls, param.1 ∈ addressKeys := by
  cases tls with
  | none => exact fun _ mem => absurd mem not_mem_nil
  | some tls =>
    rw [tlsParams]
    simp only [forall_mem_append]
    refine ⟨⟨key_mem_paramNonEmpty (by decide), key_mem_paramNonEmpty (by decide)⟩, ?_⟩
    split <;> simp [addressKeys]

theorem key_mem_mtlsParams (mtls : Option ConfigMtls) :
    ∀ param ∈ mtlsParams mtls, param.1 ∈ addressKeys := by
  cases mtls with
  | none => exact fun _ mem => absurd mem not_mem_nil
  | some mtls =>
    rw [mtlsParams]
    split
    · simp only [storageParams, forall_mem_append]
      refine ⟨⟨⟨by simp [addressKeys], key_mem_paramNonEmpty (by decide)⟩,
        by simp [addressKeys]⟩, ?_⟩
      split
      · simp [addressKeys]
      · split <;> simp [addressKeys]
    · split <;> simp [addressKeys]

section Start

variable (build : EngineBuild) {engine : List UInt8}

/-- The parameters of an encrypted connection, as they are written. -/
def connectionText : List UInt8 :=
  bytesOf "ssl&ssl.tlsv13&ssl.alpn_protos=rstrm%2F1" ++ defaultTlsGroupsQuery build

theorem readQuery_connectionText :
    readQuery (spaces (connectionText build)) = some (connectionParams build) := by
  rw [connectionText, defaultTlsGroupsQuery, connectionParams, bytesOf_append]
  repeat rw [bytesOf_ofList]
  split <;> decide

theorem connectionText_shape :
    35 ∉ connectionText build ∧ (spaces (connectionText build)).count 38 = 3 := by
  rw [connectionText, defaultTlsGroupsQuery, bytesOf_append]
  repeat rw [bytesOf_ofList]
  split <;> decide

theorem schemedEngine_of_noScheme (bare : hasScheme engine = false) :
    schemedEngine build engine = (bytesOf "tcp://" ++ engine) ++ 63 :: connectionText build := by
  rw [schemedEngine, if_neg (Bool.not_eq_true _ ▸ bare), append_assoc]
  rfl

theorem urlParams_scheme (text : List UInt8) :
    urlParams (bytesOf "tcp://" ++ text) = urlParams text := by
  have noFragment : (35 : UInt8) ∉ bytesOf "tcp://" := by decide
  have noQuery : (63 : UInt8) ∉ bytesOf "tcp://" := by decide
  rw [urlParams, urlParams, cut_append noFragment, cut_append noQuery]

theorem urlParams_schemedEngine_of_fragment (fragment : 35 ∈ engine) :
    urlParams (schemedEngine build engine) = urlParams engine := by
  cases bare : hasScheme engine with
  | true => rw [schemedEngine, if_pos bare]
  | false =>
    rw [schemedEngine_of_noScheme build bare,
      urlParams_append_of_mem (mem_append_right _ fragment), urlParams_scheme]

theorem clean_start (clean : 35 ∉ engine) :
    35 ∉ bytesOf "tcp://" ++ engine ++ 63 :: connectionText build := by
  have noFragment : (35 : UInt8) ∉ bytesOf "tcp://" := by decide
  simp [clean, noFragment, (connectionText_shape build).1]

theorem urlParams_schemedEngine_of_host (bare : hasScheme engine = false) (clean : 35 ∉ engine)
    (noQuery : 63 ∉ engine) :
    urlParams (schemedEngine build engine) = some (connectionParams build) := by
  have first : (63 : UInt8) ∉ bytesOf "tcp://" ++ engine := by
    rw [mem_append, not_or]
    exact ⟨by decide, noQuery⟩
  rw [schemedEngine_of_noScheme build bare, urlParams_of_query (clean_start build clean) first,
    readQuery_connectionText]

theorem length_schemedEngine_of_query (bare : hasScheme engine = false) (clean : 35 ∉ engine)
    (mark : 63 ∈ engine) {own params : List QueryParam} (ofEngine : urlParams engine = some own)
    (ofStart : urlParams (schemedEngine build engine) = some params) :
    params.length = own.length + 3 := by
  obtain ⟨before, query, rfl, first⟩ := exists_query mark
  have start : schemedEngine build (before ++ 63 :: query) =
      (bytesOf "tcp://" ++ before) ++ 63 :: (query ++ 63 :: connectionText build) := by
    rw [schemedEngine_of_noScheme build bare]
    simp only [append_assoc, cons_append]
  have cleanStart := clean_start build clean
  rw [← schemedEngine_of_noScheme build bare, start] at cleanStart
  have firstStart : (63 : UInt8) ∉ bytesOf "tcp://" ++ before := by
    rw [mem_append, not_or]
    exact ⟨by decide, first⟩
  rw [urlParams_of_query clean first] at ofEngine
  rw [start, urlParams_of_query cleanStart firstStart] at ofStart
  have swallowed : spaces (query ++ 63 :: connectionText build) =
      spaces query ++ 63 :: spaces (connectionText build) := by
    rw [spaces, map_append, map_cons]
    rfl
  rw [length_readQuery ofEngine, length_readQuery ofStart, swallowed, count_append,
    count_cons, (connectionText_shape build).2]
  rfl

end Start

/-- The parameters of the engine are not where others are appended. -/
def EngineSettings.Appendable (settings : EngineSettings) : Prop :=
  if hasScheme (bytesOf settings.engine) then
    35 ∉ bytesOf settings.engine ∨ settings.configured = []
  else 35 ∉ bytesOf settings.engine ∧ 63 ∉ bytesOf settings.engine

section Composition

variable {build : EngineBuild} {settings : EngineSettings} {address : List UInt8}

theorem length_connectionParams : (connectionParams build).length = 4 := rfl

theorem mem_added (bare : hasScheme (bytesOf settings.engine) = false) (own : List QueryParam) :
    (bytesOf "ssl", none) ∈ own ++ settings.added build ∧
      (bytesOf "ssl.tlsv13", none) ∈ own ++ settings.added build ∧
      (bytesOf "ssl.alpn_protos", some (bytesOf "rstrm/1")) ∈ own ++ settings.added build := by
  have all : ∀ param ∈ connectionParams build, param ∈ own ++ settings.added build := by
    intro param mem
    rw [EngineSettings.added, if_neg (Bool.not_eq_true _ ▸ bare)]
    exact mem_append_right _ (mem_append_left _ mem)
  exact ⟨all _ (by simp [connectionParams]), all _ (by simp [connectionParams]),
    all _ (by simp [connectionParams])⟩

variable {params : List QueryParam}

theorem composed_of {own : List QueryParam}
    (ofEngine : urlParams (bytesOf settings.engine) = some own)
    (ofAddress : urlParams address = some params) (same : params = own ++ settings.added build) :
    Composed build settings address :=
  ⟨own, params, ofEngine, ofAddress, same, fun bare => same ▸ mem_added bare own⟩

section

variable (made : settings.address build = .ok address)

include made

/-- What is appended to an address without a fragment. -/
theorem urlParams_address
    (clean : 35 ∉ schemedEngine build (bytesOf settings.engine)) :
    urlParams address = (urlParams (schemedEngine build (bytesOf settings.engine))).map
      (· ++ settings.configured.map configuredParam) := by
  rw [settings.address_ok made]
  refine urlParams_foldl clean fun param mem => plainKey_of_mem ?_
  rw [EngineSettings.configured, mem_append] at mem
  exact mem.elim (key_mem_tlsParams _ param) (key_mem_mtlsParams _ param)

theorem composed_iff_of_fragment
    (read : urlParams address = some params) (fragment : 35 ∈ bytesOf settings.engine) :
    Composed build settings address ↔ settings.added build = [] := by
  have start : 35 ∈ schemedEngine build (bytesOf settings.engine) := by
    rw [schemedEngine]
    split <;> simp [fragment]
  obtain ⟨more, text⟩ :=
    foldl_appendParam settings.configured (schemedEngine build (bytesOf settings.engine))
  have whole : urlParams address = urlParams (bytesOf settings.engine) := by
    rw [settings.address_ok made, text, urlParams_append_of_mem start,
      urlParams_schemedEngine_of_fragment build fragment]
  constructor
  · rintro ⟨own, all, ofEngine, ofAddress, same, -⟩
    rw [whole, ofEngine, Option.some.injEq] at ofAddress
    rw [ofAddress] at same
    exact self_eq_append_right.mp same
  · intro nothing
    refine composed_of (whole ▸ read) read ?_
    rw [nothing, append_nil]

theorem composed_iff_of_scheme
    (read : urlParams address = some params) (schemed : hasScheme (bytesOf settings.engine) = true)
    :
    Composed build settings address ↔
      35 ∉ bytesOf settings.engine ∨ settings.configured = [] := by
  by_cases fragment : 35 ∈ bytesOf settings.engine
  · rw [composed_iff_of_fragment made read fragment, EngineSettings.added, if_pos schemed]
    simp [fragment]
  · refine iff_of_true ?_ (.inl fragment)
    have start : schemedEngine build (bytesOf settings.engine) = bytesOf settings.engine := by
      rw [schemedEngine, if_pos schemed]
    have found := urlParams_address made (start.symm ▸ fragment)
    rw [start, read] at found
    obtain ⟨own, ofEngine, same⟩ := Option.map_eq_some_iff.mp found.symm
    refine composed_of ofEngine read ?_
    rw [EngineSettings.added, if_pos schemed, nil_append, ← same]

theorem composed_iff_of_noScheme
    (read : urlParams address = some params) (bare : hasScheme (bytesOf settings.engine) = false) :
    Composed build settings address ↔
      35 ∉ bytesOf settings.engine ∧ 63 ∉ bytesOf settings.engine := by
  have added : settings.added build =
      connectionParams build ++ settings.configured.map configuredParam := by
    rw [EngineSettings.added, if_neg (Bool.not_eq_true _ ▸ bare)]
  by_cases fragment : 35 ∈ bytesOf settings.engine
  · rw [composed_iff_of_fragment made read fragment, added]
    exact iff_of_false (fun nothing => nomatch nothing) fun clean => clean.1 fragment
  · have clean := clean_start build fragment
    rw [← schemedEngine_of_noScheme build bare] at clean
    have found := urlParams_address made clean
    rw [read] at found
    by_cases mark : 63 ∈ bytesOf settings.engine
    · refine iff_of_false ?_ fun apart => apart.2 mark
      rintro ⟨own, all, ofEngine, ofAddress, same, -⟩
      obtain ⟨first, ofStart, whole⟩ := Option.map_eq_some_iff.mp found.symm
      have short := length_schemedEngine_of_query build bare fragment mark ofEngine ofStart
      rw [read, Option.some.injEq] at ofAddress
      have lengths := congrArg length (whole.trans (ofAddress.trans same))
      rw [added] at lengths
      simp only [length_append, length_connectionParams, short] at lengths
      omega
    · refine iff_of_true ?_ ⟨fragment, mark⟩
      rw [urlParams_schemedEngine_of_host build bare fragment mark, Option.map_some,
        Option.some.injEq] at found
      exact composed_of (urlParams_of_notMem fragment mark) read (found.trans added.symm)

end

/-- **The address carries the parameters of the engine and the configured ones exactly when these
are not appended to a fragment, nor those of the connection to a query.** -/
theorem composed_iff {surroundings : Surroundings} {configPath : Option String}
    (unset : surroundings.getenvTrim "RSTREAM_ENGINE_ADDRESS" = "")
    (resolved : surroundings.engineSettings configPath = .ok settings)
    (made : surroundings.getRstreamEngineAddress build configPath = .ok address)
    {params : List QueryParam} (read : urlParams address = some params) :
    Composed build settings address ↔ settings.Appendable := by
  rw [Surroundings.getRstreamEngineAddress] at made
  obtain ⟨_, -, made⟩ := bind_eq_ok.mp made
  rw [if_neg (not_not.mpr unset), resolved, ok_bind] at made
  rw [EngineSettings.Appendable]
  split
  · rename_i schemed
    exact composed_iff_of_scheme made read schemed
  · rename_i bare
    exact composed_iff_of_noScheme made read (Bool.not_eq_true _ ▸ bare)

/-- A process with nothing but an engine in its environment. -/
def engineSurroundings (engine : String) : Surroundings where
  getenv key := if key = "RSTREAM_ENGINE" then some engine else none

theorem transportMode_engineSurroundings (engine : String) :
    (engineSurroundings engine).resolveTunnelTransportMode none none = .ok "tls" := by
  have lower : "auto".map Char.toLower = "auto" := by
    apply String.toList_injective
    rw [String.toList_map]
    decide
  simp [Surroundings.resolveTunnelTransportMode, Surroundings.getenvTrim, engineSurroundings,
    modeOr, lower, bind, Except.bind]

theorem getRstreamEngineAddress_engineSurroundings {engine : String}
    (resolved : (engineSurroundings engine).engineSettings none = .ok { engine }) :
    (engineSurroundings engine).getRstreamEngineAddress {} none =
      EngineSettings.address {} { engine } := by
  have unset : (engineSurroundings engine).getenvTrim "RSTREAM_ENGINE_ADDRESS" = "" := rfl
  rw [Surroundings.getRstreamEngineAddress, transportMode_engineSurroundings, ok_bind,
    if_neg (not_not.mpr unset), resolved, ok_bind]

theorem composed_portOnly :
    Composed {} { engine := "engine.example:443" } (bytesOf ("tcp://engine.example:443?ssl" ++
      "&ssl.tlsv13&ssl.alpn_protos=rstrm%2F1&ssl.groups=X25519%3Asecp256r1%3Asecp384r1")) ↔
      EngineSettings.Appendable { engine := "engine.example:443" } :=
  have unset : (engineSurroundings "engine.example:443").getenvTrim "RSTREAM_ENGINE_ADDRESS" = "" :=
    rfl
  have resolved : (engineSurroundings "engine.example:443").engineSettings none =
      .ok { engine := "engine.example:443" } := rfl
  have read : urlParams (bytesOf ("tcp://engine.example:443?ssl" ++
      "&ssl.tlsv13&ssl.alpn_protos=rstrm%2F1&ssl.groups=X25519%3Asecp256r1%3Asecp384r1")) =
        some (connectionParams {}) := by
    rw [bytesOf_append, connectionParams]
    repeat rw [bytesOf_ofList]
    decide
  have made : (engineSurroundings "engine.example:443").getRstreamEngineAddress {} none =
      .ok (bytesOf ("tcp://engine.example:443?ssl" ++
      "&ssl.tlsv13&ssl.alpn_protos=rstrm%2F1&ssl.groups=X25519%3Asecp256r1%3Asecp384r1")) := by
    rw [getRstreamEngineAddress_engineSurroundings resolved, bytesOf_append]
    repeat rw [bytesOf_ofList]
    rfl
  composed_iff unset resolved made read

/-- The address of an engine with a query is not encrypted: the value of its last parameter takes
the parameter that asks for it. -/
theorem regionalEngine_not_composed :
    ¬∀ (build : EngineBuild) (surroundings : Surroundings) (configPath : Option String)
      (settings : EngineSettings) (address : List UInt8) (params : List QueryParam),
      surroundings.getenvTrim "RSTREAM_ENGINE_ADDRESS" = "" →
      surroundings.engineSettings configPath = .ok settings →
      surroundings.getRstreamEngineAddress build configPath = .ok address →
      urlParams address = some params → Composed build settings address := by
  intro always
  let address := bytesOf ("tcp://engine.example:443?region=eu?ssl&ssl.tlsv13" ++
    "&ssl.alpn_protos=rstrm%2F1&ssl.groups=X25519%3Asecp256r1%3Asecp384r1")
  let params := (bytesOf "region", some (bytesOf "eu?ssl")) :: (connectionParams {}).tail
  have read : urlParams address = some params := by
    show urlParams (bytesOf (_ ++ _)) = some ((_, _) :: (connectionParams {}).tail)
    rw [bytesOf_append, connectionParams]
    repeat rw [bytesOf_ofList]
    decide
  have resolved : (engineSurroundings "engine.example:443?region=eu").engineSettings none =
      .ok { engine := "engine.example:443?region=eu" } := rfl
  have made : (engineSurroundings "engine.example:443?region=eu").getRstreamEngineAddress {} none =
      .ok address := by
    show _ = Except.ok (bytesOf (_ ++ _))
    rw [getRstreamEngineAddress_engineSurroundings resolved, bytesOf_append]
    repeat rw [bytesOf_ofList]
    rfl
  obtain ⟨own, all, -, found, -, encrypted⟩ := always {}
    (engineSurroundings "engine.example:443?region=eu") none
    { engine := "engine.example:443?region=eu" } address params rfl resolved made read
  obtain rfl : params = all := Option.some.inj (read.symm.trans found)
  exact absurd (encrypted (by decide)).1 (by decide)

end Composition

/-! ## Redirects

A redirect keeps the parameters of the address but for the server name, which is that of the engine
before. One parameter of this name is erased, and an address can have two: one of the engine, and
one of its context. -/

section Redirects

variable {α : Type} (property : α → Bool)

/-- Erasing the first is erasing all exactly when there is at most one. -/
theorem eraseP_eq_filter_iff (list : List α) :
    list.eraseP property = list.filter (fun element => !property element) ↔
      list.countP property ≤ 1 := by
  induction list with
  | nil => simp
  | cons element list ih =>
    cases found : property element with
    | true =>
      rw [eraseP_cons_of_pos found, filter_cons_of_neg (by simp [found]),
        countP_cons_of_pos found, Nat.succ_le_succ_iff, Nat.le_zero,
        countP_eq_zero, eq_comm, filter_eq_self]
      simp
    | false =>
      rw [eraseP_cons_of_neg (by simp [found]), filter_cons_of_pos (by simp [found]),
        countP_cons_of_neg (by simp [found]), cons.injEq, ih]
      exact and_iff_right rfl

/-- The parameter with the name of the server. -/
def isServerName (param : Param) : Bool := param.key == "ssl.sni"

/-- The address with the host and the port of the target, and without a server name. -/
def redirected (base target : Address) : Address where
  scheme := base.scheme
  host := target.host
  port := target.port
  params := base.params.filter fun param => !isServerName param

/-- **A redirect leaves no name of the server before exactly when the address has at most one.** -/
theorem makeRedirectedServerAddress_iff (parse : String → Option Address) (base target : Address)
    {serverAddress : String} (parsed : parse serverAddress = some target)
    (host : target.host ≠ "") (port : target.port ≠ "") :
    makeRedirectedServerAddress parse base serverAddress = .ok (redirected base target) ↔
      base.params.countP isServerName ≤ 1 := by
  rw [← eraseP_eq_filter_iff, makeRedirectedServerAddress, parsed]
  show (if target.host = "" ∨ target.port = "" then _ else _) = _ ↔ _
  rw [if_neg (not_or.mpr ⟨host, port⟩), Except.ok.injEq, redirected, Address.mk.injEq]
  exact ⟨fun same => same.2.2.2, fun same => ⟨rfl, rfl, rfl, same⟩⟩

/-- A parser that knows one address. -/
def parseTarget (text : String) : Option Address :=
  if text = "tcp://next.example:443" then
    some { scheme := "tcp", host := "next.example", port := "443" }
  else none

/-- The address of an engine with its own name of the server and a context with another. -/
def namedTwice : Address where
  scheme := "tcp"
  host := "engine.example"
  port := "443"
  params := [⟨"ssl", none⟩, ⟨"ssl.sni", some "engine.example"⟩, ⟨"ssl.sni", some "edge.example"⟩]

theorem makeRedirectedServerAddress_namedOnce :
    makeRedirectedServerAddress parseTarget { namedTwice with params := namedTwice.params.take 2 }
        "tcp://next.example:443" =
      .ok { scheme := "tcp", host := "next.example", port := "443", params := [⟨"ssl", none⟩] } :=
  (makeRedirectedServerAddress_iff parseTarget
    { namedTwice with params := namedTwice.params.take 2 }
    { scheme := "tcp", host := "next.example", port := "443" } rfl (by decide) (by decide)).mpr
    (by decide)

/-- The name that the context gives to the server before is kept. -/
theorem namedTwice_keeps_serverName :
    ¬∀ (parse : String → Option Address) (base target : Address) (serverAddress : String),
      parse serverAddress = some target → target.host ≠ "" → target.port ≠ "" →
      makeRedirectedServerAddress parse base serverAddress = .ok (redirected base target) := by
  intro always
  have redirects := always parseTarget namedTwice _ "tcp://next.example:443" rfl (by decide)
    (by decide)
  exact absurd redirects (by decide)

end Redirects

end Rstream.IoRstrm
