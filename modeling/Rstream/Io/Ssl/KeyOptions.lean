import Rstream.Io.Ssl.Context

/-!
# The options of the private key

Every option of a configuration is to take effect, or the configuration is to be refused. The
contradictions among the options are refused (`Reads.consistent`), and the verification callback of
a peer that is verified lets no failure pass. The passphrase does not keep to this. The password
callback is installed after the key was loaded, so an encrypted key is never read; and the check for
a passphrase without a key hangs on the certificate, so with a certificate it is not made.

A configuration is treated as it should be exactly when it is of no use, or its passphrase is one
that makes no difference (`honoured_iff`).
-/

namespace Rstream.Io.Ssl

open IoRstrm (ErrorCode)
open Library
open Webtty (Bytes bytesFromString)

/-! ## What is expected -/

/-- A private key is configured. -/
def Config.HasKey (config : Config) : Prop := config.key.isSome ∨ config.keyFile.isSome

/-- A certificate is configured. -/
def Config.HasCertificate (config : Config) : Prop := config.cert.isSome ∨ config.certFile.isSome

/-- **The options do not contradict each other**: one version, each object in one way, no type
without its object, no passphrase without a key, and a certificate of the peer to verify. -/
structure Config.Consistent (config : Config) : Prop where
  versions : ¬(config.tlsv12 = true ∧ config.tlsv13 = true)
  certificates : config.cert = none ∨ config.certFile = none
  keys : config.key = none ∨ config.keyFile = none
  tmpDh : config.tmpDhParams = none ∨ config.tmpDhParamsFile = none
  authorities : config.cacert = none ∨ config.cacertFile = none
  certType : config.certType.isSome → config.HasCertificate
  keyType : config.keyType.isSome → config.HasKey
  passphrase : config.passphrase.isSome → config.HasKey
  verification : config.peerVerification = true → config.requestPeerCert = true

/-- The private key is the PEM key of a source. -/
def Config.PemKeySource (config : Config) (source : Source) : Prop :=
  sourceOf config.key config.keyFile = .ok (some source) ∧
    keyPlace config = .ok (.format .pem)

section Expectations

variable {Certificate Key : Type} (lib : OpenSsl Certificate Key) (config : Config)

/-- What the configuration names can be read and used, when its passphrase is at hand. -/
def OpenSsl.Usable : Prop := ∃ objects, lib.Reads config config.passphrase objects

/-- **The options of the key take effect, or the configuration is refused.** -/
structure OpenSsl.Honoured : Prop where
  /-- An encrypted PEM key is loaded with its passphrase. -/
  loaded : ∀ type source passphrase key, config.PemKeySource source →
    lib.pemKey source = .encrypted passphrase key → config.passphrase = some passphrase →
    lib.Usable config →
    ∃ context, lib.makeSslContext config type = .ok context ∧ context.privateKey = some key
  /-- Contradictions are refused. -/
  consistent : ∀ type context, lib.makeSslContext config type = .ok context → config.Consistent
  /-- A peer that failed the verification is not taken for a verified one. -/
  verified : ∀ type context, lib.makeSslContext config type = .ok context →
    config.peerVerification = true → ∀ preverified, context.verify preverified = true →
    preverified = true

/-- The private key is an encrypted PEM key. -/
def OpenSsl.EncryptedKey : Prop :=
  ∃ source passphrase key, config.PemKeySource source ∧
    lib.pemKey source = .encrypted passphrase key

/-- The passphrase makes no difference: there is none, or it is for a key that is not an encrypted
PEM key, or for neither a key nor a certificate. -/
def OpenSsl.PassphraseIdle : Prop :=
  config.passphrase = none ∨ (config.HasKey ∧ ¬lib.EncryptedKey config) ∨
    (¬config.HasKey ∧ ¬config.HasCertificate)

end Expectations

/-! ## Objects -/

section Objects

theorem sourceOf_eq_ok {inline file : Option Bytes} {source : Option Source}
    (found : sourceOf inline file = .ok source) :
    (inline = none ∨ file = none) ∧ (source.isSome ↔ inline.isSome ∨ file.isSome) := by
  cases inline <;> cases file <;> cases found <;> simp

theorem versionOf_eq_ok {config : Config} {version : Version}
    (found : versionOf config = .ok version) : ¬(config.tlsv12 = true ∧ config.tlsv13 = true) := by
  rw [versionOf] at found
  split at found
  · cases found
  · rename_i apart
    exact apart

variable {Certificate Key : Type} {lib : OpenSsl Certificate Key} {config : Config}

theorem certificateOf_eq_ok {certificate : Option Certificate}
    (found : lib.certificateOf config = .ok certificate) :
    (config.cert = none ∨ config.certFile = none) ∧
      (certificate.isSome ↔ config.HasCertificate) ∧
      (config.certType.isSome → config.HasCertificate) := by
  rw [OpenSsl.certificateOf, bind_eq_ok] at found
  obtain ⟨source, sourced, found⟩ := found
  obtain ⟨single, given⟩ := sourceOf_eq_ok sourced
  rw [Config.HasCertificate, ← given]
  cases source with
  | none =>
    cases typed : config.certType with
    | none =>
      rw [typed] at found
      cases found
      simp [single]
    | some name =>
      rw [typed] at found
      cases found
  | some source =>
    obtain ⟨_, -, found⟩ := bind_eq_ok.mp found
    obtain ⟨_, -, found⟩ := bind_eq_ok.mp found
    cases found
    simp [single]

variable {key : Option Key} {source : Source} {place : Place}

theorem keyOf_eq_ok {password : Option Bytes} (found : lib.keyOf config password = .ok key) :
    (config.key = none ∨ config.keyFile = none) ∧ (key.isSome ↔ config.HasKey) ∧
      (config.keyType.isSome → config.HasKey) := by
  rw [OpenSsl.keyOf, bind_eq_ok] at found
  obtain ⟨source, sourced, found⟩ := found
  obtain ⟨single, given⟩ := sourceOf_eq_ok sourced
  rw [Config.HasKey, ← given]
  cases source with
  | none =>
    cases typed : config.keyType with
    | none =>
      rw [typed] at found
      cases found
      simp [single]
    | some name =>
      rw [typed] at found
      cases found
  | some source =>
    obtain ⟨_, -, found⟩ := bind_eq_ok.mp found
    obtain ⟨_, -, found⟩ := bind_eq_ok.mp found
    cases found
    simp [single]

theorem keyOf_of_source {password : Option Bytes}
    (sourced : sourceOf config.key config.keyFile = .ok (some source))
    (placed : keyPlace config = .ok place) :
    lib.keyOf config password = (lib.readKey config password place source).map some := by
  rw [OpenSsl.keyOf, sourced, ok_bind]
  simp only [placed, ok_bind]
  cases lib.readKey config password place source <;> rfl

theorem keyOf_of_pem {password : Option Bytes} (pem : config.PemKeySource source) :
    lib.keyOf config password = (lib.openPemKey password (lib.pemKey source)).map some :=
  keyOf_of_source pem.1 pem.2

theorem openPemKey_encrypted {password : Option Bytes} {passphrase : Bytes} {key : Key} :
    lib.openPemKey password (.encrypted passphrase key) =
      if password = some passphrase then .ok key else .error lib.badDecrypt := rfl

theorem readKey_congr {first second : Option Bytes}
    (apart : ∀ passphrase key, place = .format .pem →
      lib.pemKey source ≠ .encrypted passphrase key) :
    lib.readKey config first place source = lib.readKey config second place source := by
  cases place with
  | format format =>
    cases format with
    | pem =>
      rw [OpenSsl.readKey, OpenSsl.readKey]
      cases opened : lib.pemKey source with
      | unreadable errorCode | plain key => rfl
      | encrypted passphrase key => exact absurd opened (apart passphrase key rfl)
    | asn1 => rfl
  | engine name | pkcs11 => rfl

/-- **A key that is not an encrypted PEM key is read with any password.** -/
theorem keyOf_congr (apart : ¬lib.EncryptedKey config) (first second : Option Bytes) :
    lib.keyOf config first = lib.keyOf config second := by
  cases sourced : sourceOf config.key config.keyFile with
  | error errorCode => rw [OpenSsl.keyOf, OpenSsl.keyOf, sourced]; rfl
  | ok source =>
    cases source with
    | none => rw [OpenSsl.keyOf, OpenSsl.keyOf, sourced]; rfl
    | some source =>
      cases placed : keyPlace config with
      | error errorCode =>
        rw [OpenSsl.keyOf, OpenSsl.keyOf, sourced, ok_bind, ok_bind, placed]
        rfl
      | ok place =>
        rw [keyOf_of_source sourced placed, keyOf_of_source sourced placed]
        congr 1
        refine readKey_congr fun passphrase key pem opened => apart ?_
        exact ⟨source, passphrase, key, ⟨sourced, pem ▸ placed⟩, opened⟩

/-- **Without a password an encrypted key is not read.** -/
theorem keyOf_none_of_encrypted (encrypted : lib.EncryptedKey config) (key : Option Key) :
    lib.keyOf config none ≠ .ok key := by
  obtain ⟨source, passphrase, inside, pem, opened⟩ := encrypted
  rw [keyOf_of_pem pem, opened, openPemKey_encrypted, if_neg (by simp)]
  exact fun read => nomatch read

theorem keyOf_mono (read : lib.keyOf config none = .ok key) (password : Option Bytes) :
    lib.keyOf config password = .ok key := by
  by_cases encrypted : lib.EncryptedKey config
  · exact absurd read (keyOf_none_of_encrypted encrypted key)
  · rw [← read]
    exact keyOf_congr encrypted _ _

theorem hasKey_of_encrypted (encrypted : lib.EncryptedKey config) : config.HasKey := by
  obtain ⟨source, -, -, pem, -⟩ := encrypted
  exact (sourceOf_eq_ok pem.1).2.mp rfl

end Objects

/-! ## The options of the key -/

section Options

variable {Certificate Key : Type} {lib : OpenSsl Certificate Key} {config : Config}
variable {objects : Objects Certificate Key} {password : Option Bytes}

theorem OpenSsl.Reads.withPassword (reads : lib.Reads config none objects) (password : Option Bytes) :
    lib.Reads config password objects :=
  { reads with key := keyOf_mono reads.key password }

theorem OpenSsl.Reads.withoutPassword (reads : lib.Reads config password objects)
    (plain : ¬lib.EncryptedKey config) : lib.Reads config none objects :=
  { reads with key := keyOf_congr plain none password ▸ reads.key }

/-- Of the contradictions only a passphrase without a key is left over. -/
theorem OpenSsl.Reads.consistent (reads : lib.Reads config password objects)
    (locked : config.passphrase.isSome → config.HasKey) : config.Consistent where
  versions := versionOf_eq_ok reads.version
  certificates := (certificateOf_eq_ok reads.certificate).1
  keys := (keyOf_eq_ok reads.key).1
  tmpDh := (sourceOf_eq_ok reads.tmpDh).1
  authorities := (sourceOf_eq_ok reads.authority).1
  certType := (certificateOf_eq_ok reads.certificate).2.2
  keyType := (keyOf_eq_ok reads.key).2.2
  passphrase := locked
  verification := reads.verification

theorem usable_of_made {type : SocketType} {context : Context Certificate Key}
    (made : lib.makeSslContext config type = .ok context) : lib.Usable config := by
  obtain ⟨objects, reads, -, -⟩ := OpenSsl.makeSslContext_eq_ok.mp made
  exact ⟨objects, reads.withPassword _⟩

theorem makeSslContext_of_encrypted (encrypted : lib.EncryptedKey config) (type : SocketType)
    (context : Context Certificate Key) : lib.makeSslContext config type ≠ .ok context := by
  intro made
  obtain ⟨objects, reads, -, -⟩ := OpenSsl.makeSslContext_eq_ok.mp made
  exact keyOf_none_of_encrypted encrypted objects.key reads.key

theorem made_of_certificate (usable : lib.Usable config) (unkeyed : ¬config.HasKey)
    (certified : config.HasCertificate) (type : SocketType) :
    ∃ context, lib.makeSslContext config type = .ok context := by
  obtain ⟨objects, reads⟩ := usable
  have plain : ¬lib.EncryptedKey config := fun encrypted => unkeyed (hasKey_of_encrypted encrypted)
  refine ⟨_, OpenSsl.makeSslContext_eq_ok.mpr ⟨objects, reads.withoutPassword plain, ?_, rfl⟩⟩
  intro missing
  have given := (certificateOf_eq_ok reads.certificate).2.1.mpr certified
  rw [missing] at given
  cases given

theorem OpenSsl.Honoured.passphraseIdle (honoured : lib.Honoured config)
    (usable : lib.Usable config) : lib.PassphraseIdle config := by
  cases given : config.passphrase with
  | none => exact .inl given
  | some passphrase =>
    by_cases keyed : config.HasKey
    · refine .inr (.inl ⟨keyed, fun encrypted => ?_⟩)
      have unread := makeSslContext_of_encrypted encrypted .client
      obtain ⟨source, locked, key, pem, opened⟩ := encrypted
      obtain ⟨objects, reads⟩ := usable
      have read := reads.key
      rw [keyOf_of_pem pem, opened, openPemKey_encrypted, given] at read
      have same : some passphrase = some locked := by
        by_contra other
        rw [if_neg other] at read
        cases read
      obtain ⟨context, made, -⟩ := honoured.loaded .client source locked key pem opened
        (given.trans same) ⟨objects, reads⟩
      exact unread context made
    · refine .inr (.inr ⟨keyed, fun certified => keyed ?_⟩)
      obtain ⟨context, made⟩ := made_of_certificate usable keyed certified .client
      exact (honoured.consistent .client context made).passphrase (given ▸ rfl)

/-- A usable configuration whose passphrase makes no difference is treated as it should be. -/
theorem honoured_of_passphraseIdle (idle : lib.Usable config → lib.PassphraseIdle config) :
    lib.Honoured config where
  loaded := by
    intro type source passphrase key pem opened given usable
    have encrypted : lib.EncryptedKey config := ⟨source, passphrase, key, pem, opened⟩
    rcases idle usable with absent | ⟨-, plain⟩ | ⟨unkeyed, -⟩
    · rw [absent] at given
      cases given
    · exact absurd encrypted plain
    · exact absurd (hasKey_of_encrypted encrypted) unkeyed
  consistent := by
    intro type context made
    have usable := usable_of_made made
    obtain ⟨objects, reads, unlocked, -⟩ := OpenSsl.makeSslContext_eq_ok.mp made
    refine reads.consistent fun given => ?_
    rcases idle usable with absent | ⟨keyed, -⟩ | ⟨-, uncertified⟩
    · rw [absent] at given
      cases given
    · exact keyed
    · have missing : objects.certificate = none := by
        rw [← Option.not_isSome_iff_eq_none]
        exact fun found => uncertified ((certificateOf_eq_ok reads.certificate).2.1.mp found)
      rw [unlocked missing] at given
      cases given
  verified := by
    intro type context made verification preverified passed
    obtain ⟨objects, -, -, rfl⟩ := OpenSsl.makeSslContext_eq_ok.mp made
    rwa [OpenSsl.contextOf, verification] at passed

/-- **The options of the key take effect or are refused exactly when a usable configuration has no
passphrase that makes a difference.** -/
theorem honoured_iff :
    lib.Honoured config ↔ (lib.Usable config → lib.PassphraseIdle config) :=
  ⟨fun honoured => honoured.passphraseIdle, honoured_of_passphraseIdle⟩

end Options

/-! ## An encrypted key -/

/-- A certificate with an encrypted key and its passphrase. -/
def encryptedConfig : Config where
  cert := some (bytesFromString "certificate")
  key := some (bytesFromString "encrypted key")
  passphrase := some (bytesFromString "secret")

/-- A certificate with a passphrase and no key. -/
def keylessConfig : Config where
  cert := some (bytesFromString "certificate")
  passphrase := some (bytesFromString "secret")

/-- The encrypted key is refused with its passphrase, and the passphrase without a key is not. -/
theorem encryptedConfig_not_honoured :
    ¬sampleLibrary.Honoured encryptedConfig ∧ ¬sampleLibrary.Honoured keylessConfig := by
  constructor
  · intro honoured
    have usable : sampleLibrary.Usable encryptedConfig :=
      ⟨⟨.tls, some (bytesFromString "certificate"), some (bytesFromString "key"),
        some (bytesFromString "secret"), none, none⟩,
        ⟨rfl, rfl, rfl, rfl, fun _ _ => rfl, rfl, rfl, fun _ => rfl, fun _ _ => rfl⟩⟩
    have encrypted : sampleLibrary.EncryptedKey encryptedConfig :=
      ⟨.inline (bytesFromString "encrypted key"), bytesFromString "secret", bytesFromString "key",
        ⟨rfl, rfl⟩, rfl⟩
    rcases honoured.passphraseIdle usable with absent | ⟨-, plain⟩ | ⟨unkeyed, -⟩
    · exact absurd absent (by simp [encryptedConfig])
    · exact plain encrypted
    · exact unkeyed (.inl rfl)
  · intro honoured
    have usable : sampleLibrary.Usable keylessConfig :=
      ⟨⟨.tls, some (bytesFromString "certificate"), none, none, none, none⟩,
        ⟨rfl, rfl, rfl, rfl, fun _ _ => rfl, rfl, rfl, fun _ => rfl, fun _ _ => rfl⟩⟩
    rcases honoured.passphraseIdle usable with absent | ⟨keyed, -⟩ | ⟨-, uncertified⟩
    · exact absurd absent (by simp [keylessConfig])
    · simp [Config.HasKey, keylessConfig] at keyed
    · exact uncertified (.inl rfl)

end Rstream.Io.Ssl
