import Rstream.Io.Ssl.Config

/-!
# The TLS context

`make_ssl_context` builds the context of a connection from its configuration: one option after the
other is checked against the others and given to OpenSSL, and the first that is refused ends it.

OpenSSL is a parameter: what it reads from a text or a file, and which settings it refuses. An
encrypted PEM key is read only with the answer of the password callback that the context has when
the key is loaded. Certificates and keys on an engine or in a PKCS#11 store are read by `init_engine`
and `load_pkcs11_*`, of which only the result is kept.
-/

namespace Rstream.Io.Ssl

open IoRstrm (ErrorCode)
open Library
open Webtty (Bytes bytesFromString)

/-! ## OpenSSL -/

/-- `stream_socket_ssl::type`. -/
inductive SocketType where
  | client
  | server
  deriving DecidableEq

/-- `boost::asio::ssl::context_base::method`, without the side. -/
inductive Version where
  | tls
  | tlsv12
  | tlsv13
  deriving DecidableEq

inductive FileFormat where
  | pem
  | asn1
  deriving DecidableEq

/-- An object of the configuration: its text, or the path of the file it is in. -/
inductive Source where
  | inline (text : Bytes)
  | file (path : Bytes)
  deriving DecidableEq

/-- Where an object is. -/
inductive Place where
  | format (format : FileFormat)
  | engine (name : Bytes)
  | pkcs11
  deriving DecidableEq

/-- What a text is as a private key in PEM. -/
inductive PemKey (Key : Type) where
  | unreadable (errorCode : ErrorCode)
  | plain (key : Key)
  | encrypted (passphrase : Bytes) (key : Key)

/-- A setting of a context that OpenSSL can refuse. -/
inductive Setting where
  | options
  | clientCertType
  | serverCertType
  | passwordCallback
  | tmpDh (source : Source)
  | authority (source : Source)
  | defaultAuthorities
  | verifyPath (path : Bytes)
  | cipherList (ciphers : Bytes)
  | ciphersuites (ciphers : Bytes)
  | groups (groups : Bytes)
  | verifyCallback
  deriving DecidableEq

/-- OpenSSL, as far as a context depends on it. -/
structure OpenSsl (Certificate Key : Type) where
  /-- `SSL_STREAM_USE_RPK`. -/
  useRpk : Bool
  /-- The error with which a setting is refused. -/
  refusal : Setting → Option ErrorCode
  /-- `use_certificate` and `use_certificate_file`. -/
  certificate : FileFormat → Source → Except ErrorCode Certificate
  /-- The certificate of an engine or a PKCS#11 store. -/
  storedCertificate : Config → Place → Source → Except ErrorCode Certificate
  /-- What is read as a PEM key. -/
  pemKey : Source → PemKey Key
  /-- What is read as an ASN.1 key. -/
  asn1Key : Source → Except ErrorCode Key
  /-- The key of an engine, which may ask for a passphrase, or of a PKCS#11 store. -/
  storedKey : Config → Place → Source → Option Bytes → Except ErrorCode Key
  /-- The error with which a key is refused beside a certificate. -/
  keyRefusal : Option Certificate → Key → Option ErrorCode
  /-- The error of a key that cannot be decrypted. -/
  badDecrypt : ErrorCode

structure Context (Certificate Key : Type) where
  type : SocketType
  version : Version
  /-- The settings that were made, in order. -/
  settings : List Setting := []
  certificate : Option Certificate := none
  privateKey : Option Key := none
  /-- What the password callback answers. -/
  password : Option Bytes := none
  /-- `verify_peer`. -/
  verifyPeer : Bool := false
  /-- `verify_fail_if_no_peer_cert`. -/
  failIfNoPeerCert : Bool := false
  /-- The verification callback, of what was verified before it. -/
  verify : Bool → Bool := id

namespace Context

variable {Certificate Key : Type}

/-- Further settings. -/
def add (context : Context Certificate Key) (settings : List Setting) : Context Certificate Key :=
  { context with settings := context.settings ++ settings }

/-- A private key, if there is one, and the answer of the password callback. -/
def withKey (context : Context Certificate Key) (key : Option Key) (password : Option Bytes) :
    Context Certificate Key :=
  { context with privateKey := key.or context.privateKey, password := password.or context.password }

@[simp] theorem add_nil (context : Context Certificate Key) : context.add [] = context := by
  rw [add, List.append_nil]

@[simp] theorem withKey_none (context : Context Certificate Key) :
    context.withKey none none = context := rfl

/-- The verification mode. -/
def withMode (context : Context Certificate Key) (verifyPeer failIfNoPeerCert : Bool) :
    Context Certificate Key :=
  { context with verifyPeer, failIfNoPeerCert }

end Context

def sslConfigurationError : ErrorCode := Error.Code.sslConfigurationError.toErrorCode

/-! ## `make_ssl_context` -/

/-- An object that may be given as a text or in a file, but not in both ways. -/
def sourceOf : Option Bytes → Option Bytes → Except ErrorCode (Option Source)
  | some _, some _ => .error sslConfigurationError
  | some text, none => .ok (some (.inline text))
  | none, some path => .ok (some (.file path))
  | none, none => .ok none

/-- Where the object of a type is; on an engine and in a PKCS#11 store there are no files. -/
def placeOf (config : Config) (objectType file : Option Bytes) : Except ErrorCode Place :=
  match objectType with
  | none => .ok (.format .pem)
  | some name =>
    if name = bytesFromString "pem" then .ok (.format .pem)
    else if name = bytesFromString "asn1" then .ok (.format .asn1)
    else if name = bytesFromString "engine" then
      if file.isSome then .error sslConfigurationError
      else config.engine.elim (.error sslConfigurationError) fun engine => .ok (.engine engine)
    else if name = bytesFromString "pkcs11" then
      if file.isSome then .error sslConfigurationError else .ok .pkcs11
    else .error sslConfigurationError

/-- Where the private key is; a PKCS#11 store takes no passphrase. -/
def keyPlace (config : Config) : Except ErrorCode Place := do
  let place ← placeOf config config.keyType config.keyFile
  if place = .pkcs11 ∧ config.passphrase.isSome then .error sslConfigurationError else .ok place

/-- The version that is asked for. -/
def versionOf (config : Config) : Except ErrorCode Version :=
  if config.tlsv12 ∧ config.tlsv13 then .error sslConfigurationError
  else if config.tlsv12 then .ok .tlsv12
  else if config.tlsv13 then .ok .tlsv13
  else .ok .tls

namespace OpenSsl

variable {Certificate Key : Type} (lib : OpenSsl Certificate Key) (config : Config)

/-- A setting is made, or it is refused. -/
def set (setting : Setting) (context : Context Certificate Key) :
    Except ErrorCode (Context Certificate Key) :=
  (lib.refusal setting).elim (.ok (context.add [setting])) .error

/-- A setting that is made when there is one. -/
def setOption (setting : Option Setting) (context : Context Certificate Key) :
    Except ErrorCode (Context Certificate Key) :=
  setting.elim (.ok context) fun setting => lib.set setting context

/-- The certificate of the configuration. -/
def readCertificate : Place → Source → Except ErrorCode Certificate
  | .format format, source => lib.certificate format source
  | place, source => lib.storedCertificate config place source

/-- The certificate that is configured, if there is one. -/
def certificateOf : Except ErrorCode (Option Certificate) := do
  match ← sourceOf config.cert config.certFile with
  | some source =>
    let place ← placeOf config config.certType config.certFile
    let certificate ← lib.readCertificate config place source
    .ok (some certificate)
  | none => if config.certType.isSome then .error sslConfigurationError else .ok none

/-- The certificate. The branches of a type and of a passphrase follow the one of the certificate,
so they are for a configuration without one. -/
def useCertificate (context : Context Certificate Key) :
    Except ErrorCode (Context Certificate Key) := do
  let certificate ← lib.certificateOf config
  if certificate.isNone ∧ config.passphrase.isSome then .error sslConfigurationError
  else .ok { context with certificate }

/-- A PEM key, which is decrypted with the answer of the password callback. -/
def openPemKey (password : Option Bytes) : PemKey Key → Except ErrorCode Key
  | .unreadable errorCode => .error errorCode
  | .plain key => .ok key
  | .encrypted passphrase key =>
    if password = some passphrase then .ok key else .error lib.badDecrypt

/-- The private key at a place, while the password callback gives an answer. -/
def readKey (password : Option Bytes) : Place → Source → Except ErrorCode Key
  | .format .pem, source => lib.openPemKey password (lib.pemKey source)
  | .format .asn1, source => lib.asn1Key source
  | .engine name, source => lib.storedKey config (.engine name) source config.passphrase
  | .pkcs11, source => lib.storedKey config .pkcs11 source none

def usePrivateKey (place : Place) (source : Source) (context : Context Certificate Key) :
    Except ErrorCode (Context Certificate Key) := do
  let key ← lib.readKey config context.password place source
  (lib.keyRefusal context.certificate key).elim
    (.ok { context with privateKey := some key }) .error

/-- The passphrase of a key that was loaded: the password callback of a PEM key. -/
def usePassphrase (place : Place) (context : Context Certificate Key) :
    Except ErrorCode (Context Certificate Key) :=
  match place, config.passphrase with
  | .format .pem, some passphrase => do
      let context ← lib.set .passwordCallback context
      .ok { context with password := some passphrase }
  | .format .asn1, some _ => .error sslConfigurationError
  | _, _ => .ok context

/-- The private key. -/
def useKey (context : Context Certificate Key) : Except ErrorCode (Context Certificate Key) := do
  match ← sourceOf config.key config.keyFile with
  | some source =>
    let place ← keyPlace config
    let context ← lib.usePrivateKey config place source context
    lib.usePassphrase config place context
  | none => if config.keyType.isSome then .error sslConfigurationError else .ok context

/-- The authorities; without any, those of the system or of the library. -/
def authoritySetting : Option Source → Option Setting
  | some source => some (.authority source)
  | none => if config.capath.isSome then none else some .defaultAuthorities

/-- The verification of the peer. -/
def setVerifyMode (context : Context Certificate Key) :
    Except ErrorCode (Context Certificate Key) :=
  if config.peerVerification || config.requestPeerCert then
    if config.peerVerification && !config.requestPeerCert then .error sslConfigurationError
    else .ok (context.withMode config.requestPeerCert config.peerVerification)
  else .ok context

/-- The verification callback. -/
def setVerifyCallback (context : Context Certificate Key) :
    Except ErrorCode (Context Certificate Key) := do
  let context ← lib.set .verifyCallback context
  .ok { context with
    verify := fun preverified => if config.peerVerification then preverified else true }

def makeSslContext (type : SocketType) : Except ErrorCode (Context Certificate Key) := do
  let version ← versionOf config
  let context ← lib.set .options { type, version }
  let context ← lib.setOption
    (if config.clientRpk && lib.useRpk then some .clientCertType else none) context
  let context ← lib.setOption
    (if config.serverRpk && lib.useRpk then some .serverCertType else none) context
  let context ← lib.useCertificate config context
  let context ← lib.useKey config context
  let tmpDh ← sourceOf config.tmpDhParams config.tmpDhParamsFile
  let context ← lib.setOption (tmpDh.map .tmpDh) context
  let authority ← sourceOf config.cacert config.cacertFile
  let context ← lib.setOption (authoritySetting config authority) context
  let context ← lib.setOption (config.capath.map .verifyPath) context
  let context ← lib.setOption (config.ciphers.map .cipherList) context
  let context ← lib.setOption (config.ciphersTlsv13.map .ciphersuites) context
  let context ← lib.setOption (config.groups.map .groups) context
  let context ← setVerifyMode config context
  lib.setVerifyCallback config context

/-! ## Steps -/

section Steps

variable {lib config} {context next : Context Certificate Key}

theorem set_eq_ok {setting : Setting} :
    lib.set setting context = .ok next ↔
      lib.refusal setting = none ∧ next = context.add [setting] := by
  rw [set]
  cases lib.refusal setting with
  | none => rw [Option.elim_none, ok_eq_ok, eq_self, true_and]
  | some errorCode => simp

theorem setOption_eq_ok {setting : Option Setting} :
    lib.setOption setting context = .ok next ↔
      (∀ asked ∈ setting, lib.refusal asked = none) ∧ next = context.add setting.toList := by
  cases setting with
  | none => simp [-Except.ok.injEq, setOption, ok_eq_ok, Context.add]
  | some setting =>
    rw [setOption, Option.elim_some, set_eq_ok]
    simp

theorem useCertificate_eq_ok :
    lib.useCertificate config context = .ok next ↔
      ∃ certificate, lib.certificateOf config = .ok certificate ∧
        (certificate = none → config.passphrase = none) ∧
        next = { context with certificate } := by
  rw [useCertificate, bind_eq_ok]
  refine exists_congr fun certificate => and_congr_right fun _ => ?_
  cases certificate with
  | none => cases config.passphrase <;> simp [-Except.ok.injEq, ok_eq_ok]
  | some certificate => simp [-Except.ok.injEq, ok_eq_ok]

theorem usePrivateKey_eq_ok {place : Place} {source : Source} :
    lib.usePrivateKey config place source context = .ok next ↔
      ∃ key, lib.readKey config context.password place source = .ok key ∧
        lib.keyRefusal context.certificate key = none ∧ next = context.withKey (some key) none := by
  rw [usePrivateKey, bind_eq_ok]
  refine exists_congr fun key => and_congr_right fun _ => ?_
  cases lib.keyRefusal context.certificate key with
  | none => simp [-Except.ok.injEq, ok_eq_ok, Context.withKey]
  | some errorCode => simp

theorem setVerifyMode_eq_ok :
    setVerifyMode config context = .ok next ↔
      (config.peerVerification = true → config.requestPeerCert = true) ∧
        next = if config.peerVerification || config.requestPeerCert then
          context.withMode config.requestPeerCert config.peerVerification else context := by
  rw [setVerifyMode]
  cases config.peerVerification <;> cases config.requestPeerCert <;>
    simp [-Except.ok.injEq, ok_eq_ok]

theorem setVerifyCallback_eq_ok :
    lib.setVerifyCallback config context = .ok next ↔ lib.refusal .verifyCallback = none ∧
      next = { context.add [.verifyCallback] with
        verify := fun preverified => if config.peerVerification then preverified else true } := by
  rw [setVerifyCallback, bind_eq_ok]
  simp only [set_eq_ok, ok_eq_ok, and_assoc, exists_and_left, exists_eq_left]

/-- What the password callback answers after a key of a place was loaded. -/
def passwordAt : Place → Option Bytes → Except ErrorCode (Option Bytes)
  | .format .pem, passphrase => .ok passphrase
  | .format .asn1, some _ => .error sslConfigurationError
  | _, _ => .ok none

/-- The setting of the password callback. -/
def passwordSetting (password : Option Bytes) : Option Setting :=
  password.map fun _ => .passwordCallback

theorem usePassphrase_eq_ok {place : Place} :
    lib.usePassphrase config place context = .ok next ↔
      ∃ password, passwordAt place config.passphrase = .ok password ∧
        (∀ asked ∈ passwordSetting password, lib.refusal asked = none) ∧
        next = (context.add (passwordSetting password).toList).withKey none password := by
  unfold usePassphrase
  generalize config.passphrase = passphrase
  cases passphrase with
  | none =>
    have plain : passwordAt place none = .ok none := by
      cases place with
      | format format => cases format <;> rfl
      | engine name | pkcs11 => rfl
    simp [-Except.ok.injEq, plain, ok_eq_ok, passwordSetting]
  | some passphrase =>
    cases place with
    | format format =>
      cases format with
      | pem =>
        simp [-Except.ok.injEq, passwordAt, passwordSetting, bind_eq_ok, set_eq_ok,
          ok_eq_ok, and_assoc, Context.withKey]
      | asn1 => simp [passwordAt]
    | engine name | pkcs11 => simp [-Except.ok.injEq, passwordAt, passwordSetting, ok_eq_ok]

/-- The private key that is configured, read while the password callback gives an answer. -/
def keyOf (lib : OpenSsl Certificate Key) (config : Config) (password : Option Bytes) :
    Except ErrorCode (Option Key) := do
  match ← sourceOf config.key config.keyFile with
  | some source =>
    let place ← keyPlace config
    let key ← lib.readKey config password place source
    .ok (some key)
  | none => if config.keyType.isSome then .error sslConfigurationError else .ok none

/-- What the password callback answers once the private key was loaded. -/
def passwordOf (config : Config) : Except ErrorCode (Option Bytes) := do
  match ← sourceOf config.key config.keyFile with
  | some _ =>
    let place ← keyPlace config
    passwordAt place config.passphrase
  | none => .ok none

theorem useKey_eq_ok :
    lib.useKey config context = .ok next ↔
      ∃ key password, lib.keyOf config context.password = .ok key ∧
        passwordOf config = .ok password ∧
        (∀ loaded ∈ key, lib.keyRefusal context.certificate loaded = none) ∧
        (∀ asked ∈ passwordSetting password, lib.refusal asked = none) ∧
        next = (context.add (passwordSetting password).toList).withKey key password := by
  rw [useKey, keyOf, passwordOf]
  cases sourceOf config.key config.keyFile with
  | error errorCode => simp
  | ok source =>
    cases source with
    | none => cases config.keyType <;> simp [-Except.ok.injEq, ok_eq_ok, passwordSetting]
    | some source =>
      cases keyPlace config with
      | error errorCode => simp
      | ok place =>
        simp only [ok_bind, bind_eq_ok, usePrivateKey_eq_ok, usePassphrase_eq_ok, ok_eq_ok]
        constructor
        · rintro ⟨_, ⟨loaded, read, taken, rfl⟩, password, given, settled, rfl⟩
          refine ⟨some loaded, password, ⟨loaded, read, rfl⟩, given, ?_, settled, rfl⟩
          exact fun _ same => Option.mem_some.mp same ▸ taken
        · rintro ⟨_, password, ⟨loaded, read, rfl⟩, given, taken, settled, rfl⟩
          exact ⟨_, ⟨loaded, read, taken loaded rfl, rfl⟩, password, given, settled, rfl⟩

end Steps

/-! ## Contexts

A context is made of what the configuration names. -/

end OpenSsl

/-- What a configuration names, as it is read. -/
structure Objects (Certificate Key : Type) where
  version : Version
  certificate : Option Certificate
  key : Option Key
  password : Option Bytes
  tmpDh : Option Source
  authority : Option Source

namespace OpenSsl

variable {Certificate Key : Type} (lib : OpenSsl Certificate Key) (config : Config)

/-- The settings that a configuration asks for. -/
def settings (objects : Objects Certificate Key) : List Setting :=
  [.options] ++
    (if config.clientRpk && lib.useRpk then some .clientCertType else none).toList ++
    (if config.serverRpk && lib.useRpk then some .serverCertType else none).toList ++
    (passwordSetting objects.password).toList ++ (objects.tmpDh.map .tmpDh).toList ++
    (authoritySetting config objects.authority).toList ++
    (config.capath.map .verifyPath).toList ++ (config.ciphers.map .cipherList).toList ++
    (config.ciphersTlsv13.map .ciphersuites).toList ++ (config.groups.map .groups).toList ++
    [.verifyCallback]

/-- What a configuration names can be read, with the password for its key, and used. -/
structure Reads (password : Option Bytes) (objects : Objects Certificate Key) : Prop where
  version : versionOf config = .ok objects.version
  certificate : lib.certificateOf config = .ok objects.certificate
  key : lib.keyOf config password = .ok objects.key
  password : passwordOf config = .ok objects.password
  belongs : ∀ key ∈ objects.key, lib.keyRefusal objects.certificate key = none
  tmpDh : sourceOf config.tmpDhParams config.tmpDhParamsFile = .ok objects.tmpDh
  authority : sourceOf config.cacert config.cacertFile = .ok objects.authority
  verification : config.peerVerification = true → config.requestPeerCert = true
  taken : ∀ setting ∈ lib.settings config objects, lib.refusal setting = none

/-- The context of what was read. -/
def contextOf (type : SocketType) (objects : Objects Certificate Key) :
    Context Certificate Key where
  type := type
  version := objects.version
  settings := lib.settings config objects
  certificate := objects.certificate
  privateKey := objects.key
  password := objects.password
  verifyPeer := config.requestPeerCert
  failIfNoPeerCert := config.peerVerification
  verify preverified := if config.peerVerification then preverified else true

variable {lib config}

theorem taken_iff {objects : Objects Certificate Key} :
    (∀ setting ∈ lib.settings config objects, lib.refusal setting = none) ↔
      lib.refusal .options = none ∧
      (∀ asked ∈ if config.clientRpk && lib.useRpk then some Setting.clientCertType else none,
        lib.refusal asked = none) ∧
      (∀ asked ∈ if config.serverRpk && lib.useRpk then some Setting.serverCertType else none,
        lib.refusal asked = none) ∧
      (∀ asked ∈ passwordSetting objects.password, lib.refusal asked = none) ∧
      (∀ asked ∈ objects.tmpDh.map .tmpDh, lib.refusal asked = none) ∧
      (∀ asked ∈ authoritySetting config objects.authority, lib.refusal asked = none) ∧
      (∀ asked ∈ config.capath.map .verifyPath, lib.refusal asked = none) ∧
      (∀ asked ∈ config.ciphers.map .cipherList, lib.refusal asked = none) ∧
      (∀ asked ∈ config.ciphersTlsv13.map .ciphersuites, lib.refusal asked = none) ∧
      (∀ asked ∈ config.groups.map .groups, lib.refusal asked = none) ∧
      lib.refusal .verifyCallback = none := by
  simp only [settings, List.forall_mem_append, Option.mem_toList, List.forall_mem_singleton,
    Option.mem_def, and_assoc]

theorem withMode_of_unset (context : Context Certificate Key)
    (peer : context.verifyPeer = false) (fail : context.failIfNoPeerCert = false) :
    (if config.peerVerification || config.requestPeerCert then
      context.withMode config.requestPeerCert config.peerVerification else context) =
      context.withMode config.requestPeerCert config.peerVerification := by
  split
  · rfl
  · rename_i unset
    rw [Bool.or_eq_true, not_or, Bool.not_eq_true, Bool.not_eq_true] at unset
    rw [unset.1, unset.2]
    cases context
    cases peer
    cases fail
    rfl

/-- **There is a context exactly when what the configuration names can be read without a password
and used**, and without a certificate there is no passphrase. -/
theorem makeSslContext_eq_ok {type : SocketType} {context : Context Certificate Key} :
    lib.makeSslContext config type = .ok context ↔
      ∃ objects, lib.Reads config none objects ∧
        (objects.certificate = none → config.passphrase = none) ∧
        context = lib.contextOf config type objects := by
  rw [makeSslContext]
  simp only [bind_eq_ok, set_eq_ok, setOption_eq_ok, useCertificate_eq_ok, useKey_eq_ok,
    setVerifyMode_eq_ok, setVerifyCallback_eq_ok]
  constructor
  · rintro ⟨version, versioned, _, ⟨options, opened⟩, _, ⟨clientRpk, clientSet⟩, _,
      ⟨serverRpk, serverSet⟩, _, ⟨certificate, certified, unlocked, used⟩, _,
      ⟨key, password, keyed, given, belongs, callback, withKey⟩, tmpDh, tmpDhGiven, _,
      ⟨tmpDhTaken, tmpDhSet⟩, authority, authorityGiven, _, ⟨authorityTaken, authoritySet⟩, _,
      ⟨capath, capathSet⟩, _, ⟨ciphers, ciphersSet⟩, _, ⟨ciphersuites, suitesSet⟩, _,
      ⟨groups, groupsSet⟩, _, ⟨verification, modeSet⟩, verify, last⟩
    subst last modeSet groupsSet suitesSet ciphersSet capathSet authoritySet tmpDhSet withKey used
      serverSet clientSet opened
    refine ⟨⟨version, certificate, key, password, tmpDh, authority⟩,
      ⟨versioned, certified, keyed, given, belongs, tmpDhGiven, authorityGiven, verification, ?_⟩,
      unlocked, ?_⟩
    · exact taken_iff.mpr ⟨options, clientRpk, serverRpk, callback, tmpDhTaken, authorityTaken,
        capath, ciphers, ciphersuites, groups, verify⟩
    · rw [withMode_of_unset _ rfl rfl]
      cases key <;> cases password <;> rfl
  · rintro ⟨objects, reads, unlocked, rfl⟩
    obtain ⟨options, clientRpk, serverRpk, callback, tmpDhTaken, authorityTaken, capath, ciphers,
      ciphersuites, groups, verify⟩ := taken_iff.mp reads.taken
    refine ⟨objects.version, reads.version, _, ⟨options, rfl⟩, _, ⟨clientRpk, rfl⟩, _,
      ⟨serverRpk, rfl⟩, _, ⟨objects.certificate, reads.certificate, unlocked, rfl⟩, _,
      ⟨objects.key, objects.password, reads.key, reads.password, reads.belongs, callback, rfl⟩,
      objects.tmpDh, reads.tmpDh, _, ⟨tmpDhTaken, rfl⟩, objects.authority, reads.authority, _,
      ⟨authorityTaken, rfl⟩, _, ⟨capath, rfl⟩, _, ⟨ciphers, rfl⟩, _, ⟨ciphersuites, rfl⟩, _,
      ⟨groups, rfl⟩, _, ⟨reads.verification, rfl⟩, verify, ?_⟩
    rw [withMode_of_unset _ rfl rfl]
    obtain ⟨version, certificate, key, password, tmpDh, authority⟩ := objects
    cases key <;> cases password <;> rfl

end OpenSsl

/-- OpenSSL with one certificate and one encrypted key, which refuses no setting. -/
def sampleLibrary : OpenSsl Bytes Bytes where
  useRpk := true
  refusal _ := none
  certificate _ source :=
    if source = .inline (bytesFromString "certificate") then .ok (bytesFromString "certificate")
    else .error ⟨1, .other "asio.ssl"⟩
  storedCertificate _ _ _ := .error sslConfigurationError
  pemKey source :=
    if source = .inline (bytesFromString "encrypted key") then
      .encrypted (bytesFromString "secret") (bytesFromString "key")
    else .unreadable ⟨1, .other "asio.ssl"⟩
  asn1Key _ := .error ⟨1, .other "asio.ssl"⟩
  storedKey _ _ _ _ := .error sslConfigurationError
  keyRefusal _ _ := none
  badDecrypt := ⟨2, .other "asio.ssl"⟩

end Rstream.Io.Ssl
