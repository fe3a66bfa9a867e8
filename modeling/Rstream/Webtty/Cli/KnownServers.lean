import Mathlib.Data.List.DropRight
import Mathlib.Data.List.Perm.Basic
import Rstream.Library.Agreements
import Rstream.Webtty.Cli.CommandLine
import Rstream.Webtty.Cli.Json

/-!
# The known servers of a client

The client tool collects the keys that it encrypts to, the identity that it expects and the
identity that it has itself from explicit keys and from the file of known servers. The entries of
the file are selected by a name or by what the URI designates.

Every recipient comes from a key or from a selected entry, and the key of an expected identity is
a recipient. A name selects the first entry that has it, whereas a URI selects all that it
designates, so the order of the entries matters where they differ.
-/

namespace Rstream.Webtty.Cli

open Library List
open Server (EndpointIdentity EndpointIdentityPublic)

/-! ## Entries of the file -/

namespace Json

/-- The sequence that a loop over a value walks. -/
def items : Json → List Json
  | null => []
  | array elements => elements
  | object members => members.map Prod.snd
  | value => [value]

def contains (value : Json) (key : String) : Bool := (value.find? (bytesFromString key)).isSome

/-- `at(key).get<std::string>()`, or what it throws. -/
def textAt (value : Json) (key : String) : Except String Bytes :=
  match value.atString key with
  | none => .error "json.exception"
  | some text => .ok text

/-- `value(key, 0)`. -/
def intValue (value : Json) (key : String) : Except String Int32 :=
  if value.isObject then
    match value.find? (bytesFromString key) with
    | none => .ok 0
    | some found => found.getInt.elim (.error "json.exception.type_error") .ok
  else .error "json.exception.type_error"

/-- `value(key, std::string())`. -/
def textValue (value : Json) (key : String) : Except String Bytes :=
  if value.isObject then
    match value.find? (bytesFromString key) with
    | none => .ok []
    | some found => found.getString.elim (.error "json.exception.type_error") .ok
  else .error "json.exception.type_error"

end Json

structure KnownServerEntry where
  name : Bytes
  recipient : E2eRecipient
  endpointIdentity : Option EndpointIdentityPublic
  clientIdentity : Bytes

section Source

variable (prims : Primitives) (parsesPublicKey : Bytes → Bool)

def entryEndpointIdentity (entry : Json) (description : String) (keyId publicKey : Bytes) :
    Except String (Option EndpointIdentityPublic) :=
  if entry.contains "signing_key_id" ∨ entry.contains "signing_public_key" then do
    require (entry.contains "signing_key_id" ∧ entry.contains "signing_public_key")
      (description ++ " signing key id and public key must be set together")
    let signingKeyId ← entry.textAt "signing_key_id"
    let signingPublicKey ← entry.textAt "signing_public_key"
    (parseKnownServerEndpointIdentity prims parsesPublicKey
      (keyId ++ 58 :: (publicKey ++ 58 :: (signingKeyId ++ 58 :: signingPublicKey)))).map some
  else .ok none

def entryClientIdentity (entry : Json) (description : String) : Except String Bytes :=
  if entry.contains "client_identity" then do
    let raw ← entry.textAt "client_identity"
    if trimCopy raw = [] then .ok []
    else do
      validateLocalName (trimCopy raw) (description ++ " client identity")
      .ok (trimCopy raw)
  else .ok []

/-- The recipient with the encryption key of an identity. -/
def recipientOf (identity : EndpointIdentityPublic) : E2eRecipient :=
  ⟨identity.encryptionKeyId, identity.encryptionPublicKey⟩

def knownServerEntryFromJson (entry : Json) (description : String) :
    Except String KnownServerEntry := do
  let name ← entry.textAt "name"
  validateLocalName (trimCopy name) (description ++ " name")
  let keyId ← entry.textAt "key_id"
  let publicKey ← entry.textAt "public_key"
  let recipient ← parseKnownServerKey prims parsesPublicKey (keyId ++ 58 :: publicKey)
  let endpointIdentity ←
    entryEndpointIdentity prims parsesPublicKey entry description keyId publicKey
  let clientIdentity ← entryClientIdentity entry description
  .ok {
    name := trimCopy name
    recipient := endpointIdentity.elim recipient recipientOf
    endpointIdentity
    clientIdentity }

/-- The loop of `load_known_server_entries_file`, from an index on. -/
def knownServerEntries : Nat → List Json → Except String (List KnownServerEntry)
  | _, [] => .ok []
  | index, entry :: rest => do
      let parsed ← knownServerEntryFromJson prims parsesPublicKey entry
        ("known WebTTY server " ++ toString index)
      let others ← knownServerEntries (index + 1) rest
      .ok (parsed :: others)

/-- `load_known_server_entries_file`, with the document that the file holds. -/
def readKnownServerEntries (document : Json) : Except String (List KnownServerEntry) := do
  let version ← document.intValue "version"
  require (version = 1) "unsupported known WebTTY servers version"
  let suite ← document.textValue "crypto_suite"
  require (suite = bytesFromString "webtty-e2e-x25519-hpke-aes-256-gcm-v1")
    "unsupported known WebTTY servers crypto suite"
  match document.find? (bytesFromString "known_servers") with
  | none => .error "json.exception.out_of_range"
  | some servers => knownServerEntries prims parsesPublicKey 0 servers.items

end Source

/-! ## Selection -/

/-- The text after the first occurrence of another text. -/
def afterText (text : Bytes) : Bytes → Option Bytes
  | [] => if text = [] then some [] else none
  | byte :: rest =>
    if text.isPrefixOf (byte :: rest) then some ((byte :: rest).drop text.length)
    else afterText text rest

def addUniqueTargetCandidate (candidates : List Bytes) (raw : Bytes) : List Bytes :=
  if trimCopy raw = [] ∨ trimCopy raw ∈ candidates then candidates
  else candidates ++ [trimCopy raw]

/-- The host and port of a URI, as the selection takes them from its text. -/
def uriEndpoint (value : Bytes) : Bytes :=
  let rest := (afterText (bytesFromString "://") value).getD value
  let authority := rest.takeWhile fun byte => byte ≠ 47 && byte ≠ 63 && byte ≠ 35
  (authority.reverse.takeWhile (· ≠ 64)).reverse

def knownServerTargetCandidates (rawUri : Bytes) : List Bytes :=
  let value := trimCopy rawUri
  let endpoint := uriEndpoint value
  let candidates := addUniqueTargetCandidate (addUniqueTargetCandidate [] value) endpoint
  if endpoint.head? = some 91 then
    if 93 ∈ endpoint then
      addUniqueTargetCandidate candidates ((endpoint.drop 1).takeWhile (· ≠ 93))
    else candidates
  else if endpoint.count 58 = 1 then
    addUniqueTargetCandidate candidates (endpoint.takeWhile (· ≠ 58))
  else candidates

def selectKnownServerEntries (entries : List KnownServerEntry) (uri rawName : Bytes) :
    Except String (List KnownServerEntry) :=
  let name := trimCopy rawName
  if name ≠ [] then do
    validateLocalName name "--known-server"
    match entries.find? (·.name = name) with
    | some entry => .ok [entry]
    | none => .error "known WebTTY server was not found"
  else
    let candidates := knownServerTargetCandidates uri
    let selected := entries.filter fun entry => entry.name ∈ candidates
    if selected ≠ [] then .ok selected
    else if entries.length = 1 then .ok entries
    else .ok []

/-! ## Resolution -/

structure KnownServerResolution where
  recipients : List E2eRecipient := []
  endpointIdentities : List EndpointIdentityPublic := []
  clientIdentity : Bytes := []

def addKnownServerRecipient :
    List E2eRecipient → E2eRecipient → Except String (List E2eRecipient) :=
  addAgreeing (fun existing next => existing.keyId = next.keyId)
    (fun existing next => existing.publicKey = next.publicKey)
    "conflicting known WebTTY server keys for the same key id"

def addKnownServerEndpointIdentity :
    List EndpointIdentityPublic → EndpointIdentityPublic →
      Except String (List EndpointIdentityPublic) :=
  addAgreeing
    (fun existing next =>
      existing.encryptionKeyId = next.encryptionKeyId || existing.signingKeyId = next.signingKeyId)
    (fun existing next =>
      existing.encryptionPublicKey = next.encryptionPublicKey &&
        existing.signingPublicKey = next.signingPublicKey)
    "conflicting known WebTTY server endpoint identities"

def setKnownServerClientIdentity (value next : Bytes) : Except String Bytes :=
  let candidate := trimCopy next
  if candidate = [] then .ok value
  else if value ≠ [] ∧ value ≠ candidate then
    .error "multiple WebTTY client identities match this known server; pass --identity explicitly"
  else .ok candidate

/-- The endpoint identity, if there is one. -/
def addEndpointIdentity (identities : List EndpointIdentityPublic)
    (next : Option EndpointIdentityPublic) : Except String (List EndpointIdentityPublic) :=
  next.elim (.ok identities) (addKnownServerEndpointIdentity identities)

namespace KnownServerResolution

/-- A selected entry. -/
def addEntry (resolution : KnownServerResolution) (entry : KnownServerEntry) :
    Except String KnownServerResolution := do
  let recipients ← addKnownServerRecipient resolution.recipients entry.recipient
  let endpointIdentities ← addEndpointIdentity resolution.endpointIdentities entry.endpointIdentity
  let clientIdentity ←
    setKnownServerClientIdentity resolution.clientIdentity entry.clientIdentity
  .ok { recipients, endpointIdentities, clientIdentity }

end KnownServerResolution

/-- The part of `read_known_server_resolution` that merges the entries of the file. -/
def resolveEntries (explicit : KnownServerResolution) (uri rawName : Bytes)
    (entries : List KnownServerEntry) : Except String KnownServerResolution := do
  let selected ← selectKnownServerEntries entries uri rawName
  require (¬(selected.isEmpty = true ∧ entries.isEmpty = false))
    ("known WebTTY servers file contains multiple entries and none matches this URI; pass " ++
      "--known-server for the target server or provide a dedicated --known-servers-file")
  selected.foldlM KnownServerResolution.addEntry explicit

section Keys

variable (prims : Primitives) (parsesPublicKey : Bytes → Bool)

/-- The endpoint identity of an explicit key with four parts. -/
def keyEndpointIdentity (raw : Bytes) : Except String (Option EndpointIdentityPublic) :=
  if raw.count 58 = 3 then
    (parseKnownServerEndpointIdentity prims parsesPublicKey raw).map some
  else .ok none

/-- An explicit key. -/
def KnownServerResolution.addKey (resolution : KnownServerResolution) (raw : Bytes) :
    Except String KnownServerResolution := do
  let recipient ← parseKnownServerKey prims parsesPublicKey raw
  let recipients ← addKnownServerRecipient resolution.recipients recipient
  let identity ← keyEndpointIdentity prims parsesPublicKey raw
  let endpointIdentities ← addEndpointIdentity resolution.endpointIdentities identity
  .ok { resolution with recipients, endpointIdentities }

end Keys

/-! ## Reading entries -/

section Reading

variable {prims : Primitives} {parsesPublicKey : Bytes → Bool}

variable {other description : String} {entry : Json}

theorem validateLocalName_flag {name : Bytes} {flag : String} {checked : PUnit}
    (valid : validateLocalName name flag = .ok checked) :
    validateLocalName name other = .ok checked := by
  simp only [validateLocalName, bind_eq_ok, require_eq_ok] at valid ⊢
  exact valid

theorem entryEndpointIdentity_description {keyId publicKey : Bytes}
    {identity : Option EndpointIdentityPublic}
    (read : entryEndpointIdentity prims parsesPublicKey entry description keyId publicKey =
      .ok identity) :
    entryEndpointIdentity prims parsesPublicKey entry other keyId publicKey = .ok identity := by
  unfold entryEndpointIdentity at read ⊢
  split at read
  · rename_i signed
    rw [if_pos signed]
    simp only [bind_eq_ok, require_eq_ok] at read ⊢
    exact read
  · rename_i unsigned
    rwa [if_neg unsigned]

theorem entryClientIdentity_description {identity : Bytes}
    (read : entryClientIdentity entry description = .ok identity) :
    entryClientIdentity entry other = .ok identity := by
  unfold entryClientIdentity at read ⊢
  split at read
  · rename_i named
    rw [if_pos named]
    obtain ⟨raw, text, checked⟩ := bind_eq_ok.mp read
    refine bind_eq_ok.mpr ⟨raw, text, ?_⟩
    split at checked
    · rename_i blank
      rwa [if_pos blank]
    · rename_i kept
      obtain ⟨_, valid, same⟩ := bind_eq_ok.mp checked
      rw [if_neg kept]
      exact bind_eq_ok.mpr ⟨_, validateLocalName_flag valid, same⟩
  · rename_i unnamed
    rwa [if_neg unnamed]

variable {parsed : KnownServerEntry} {items : List Json}

/-- How an entry is described in errors does not decide whether it is read. -/
theorem knownServerEntryFromJson_description (other : String)
    (read : knownServerEntryFromJson prims parsesPublicKey entry description = .ok parsed) :
    knownServerEntryFromJson prims parsesPublicKey entry other = .ok parsed := by
  simp only [knownServerEntryFromJson, bind_eq_ok] at read ⊢
  obtain ⟨name, named, _, valid, keyId, hasId, publicKey, hasKey, recipient, parses, identity,
    identified, client, associated, same⟩ := read
  exact ⟨name, named, _, validateLocalName_flag valid, keyId, hasId, publicKey, hasKey, recipient,
    parses, identity, entryEndpointIdentity_description identified, client,
    entryClientIdentity_description associated, same⟩

/-- An element of the file is an entry. -/
def ReadsAsEntry (prims : Primitives) (parsesPublicKey : Bytes → Bool) (entry : Json)
    (parsed : KnownServerEntry) : Prop :=
  knownServerEntryFromJson prims parsesPublicKey entry "" = .ok parsed

/-- The loop reads every element. -/
theorem knownServerEntries_eq_ok {index : Nat} {entries : List KnownServerEntry} :
    knownServerEntries prims parsesPublicKey index items = .ok entries ↔
      List.Forall₂ (ReadsAsEntry prims parsesPublicKey) items entries := by
  induction items generalizing index entries with
  | nil =>
    rw [knownServerEntries, forall₂_nil_left_iff, Except.ok.injEq]
    exact eq_comm
  | cons entry rest ih =>
    rw [knownServerEntries, bind_eq_ok, forall₂_cons_left_iff]
    constructor
    · rintro ⟨parsed, read, more⟩
      obtain ⟨others, reads, same⟩ := bind_eq_ok.mp more
      exact ⟨parsed, others, knownServerEntryFromJson_description "" read, ih.mp reads,
        (Except.ok.inj same).symm⟩
    · rintro ⟨parsed, others, read, reads, rfl⟩
      exact ⟨parsed, knownServerEntryFromJson_description _ read,
        bind_eq_ok.mpr ⟨others, ih.mpr reads, rfl⟩⟩

/-- What is expected of an entry that has an endpoint identity. -/
def KnownServerEntry.WellFormed (prims : Primitives) (parsesPublicKey : Bytes → Bool)
    (entry : KnownServerEntry) : Prop :=
  ∀ identity, entry.endpointIdentity = some identity →
    entry.recipient = recipientOf identity ∧ ConsistentKeyIds prims parsesPublicKey identity

theorem map_some_eq_ok {attempt : Except String EndpointIdentityPublic}
    {identity : EndpointIdentityPublic} (read : attempt.map some = .ok (some identity)) :
    attempt = .ok identity := by
  cases attempt with
  | error failure => cases read
  | ok found =>
    obtain rfl := Option.some.inj (Except.ok.inj read)
    rfl

/-- The recipient of an entry with an endpoint identity has the key of the identity. -/
theorem wellFormed_of_reads (read : ReadsAsEntry prims parsesPublicKey entry parsed) :
    parsed.WellFormed prims parsesPublicKey := by
  simp only [ReadsAsEntry, knownServerEntryFromJson, bind_eq_ok] at read
  obtain ⟨name, -, _, -, keyId, -, publicKey, -, recipient, -, found, identified, client, -,
    same⟩ := read
  cases same
  rintro identity rfl
  refine ⟨rfl, ?_⟩
  unfold entryEndpointIdentity at identified
  split at identified
  · simp only [bind_eq_ok] at identified
    obtain ⟨_, -, _, -, _, -, parsed⟩ := identified
    exact consistent_of_parse (map_some_eq_ok parsed)
  · cases identified

theorem wellFormed_of_entries {entries : List KnownServerEntry}
    (reads : List.Forall₂ (ReadsAsEntry prims parsesPublicKey) items entries) :
    ∀ entry ∈ entries, entry.WellFormed prims parsesPublicKey := by
  induction reads with
  | nil => exact fun _ absent => absurd absent not_mem_nil
  | cons read _ ih => exact forall_mem_cons.mpr ⟨wellFormed_of_reads read, ih⟩

end Reading

/-! ## The order of the file -/

/-- The document of a file, with its entries in another order. -/
inductive ReorderedDocument : Except String Json → Except String Json → Prop
  | same (document : Except String Json) : ReorderedDocument document document
  | entries {document other servers others : Json} (isObject : document.isObject = other.isObject)
      (version : document.find? (bytesFromString "version") =
        other.find? (bytesFromString "version"))
      (suite : document.find? (bytesFromString "crypto_suite") =
        other.find? (bytesFromString "crypto_suite"))
      (found : document.find? (bytesFromString "known_servers") = some servers)
      (foundOther : other.find? (bytesFromString "known_servers") = some others)
      (perm : servers.items.Perm others.items) : ReorderedDocument (.ok document) (.ok other)

namespace ReorderedDocument

variable {document other : Except String Json}

theorem symm (reordered : ReorderedDocument document other) : ReorderedDocument other document := by
  cases reordered with
  | same => exact .same _
  | entries isObject version suite found foundOther perm =>
    exact .entries isObject.symm version.symm suite.symm foundOther found perm.symm

theorem trans {third : Except String Json} (first : ReorderedDocument document other)
    (second : ReorderedDocument other third) : ReorderedDocument document third := by
  cases first with
  | same => exact second
  | entries isObject version suite found foundOther perm =>
    cases second with
    | same => exact .entries isObject version suite found foundOther perm
    | entries isObject' version' suite' found' foundOther' perm' =>
      obtain rfl := Option.some.inj (foundOther.symm.trans found')
      exact .entries (isObject.trans isObject') (version.trans version') (suite.trans suite')
        found foundOther' (perm.trans perm')

variable {prims : Primitives} {parsesPublicKey : Bytes → Bool}

theorem exists_perm (reordered : ReorderedDocument document other) {entries : List KnownServerEntry}
    (read : (document >>= readKnownServerEntries prims parsesPublicKey) = .ok entries) :
    ∃ others, (other >>= readKnownServerEntries prims parsesPublicKey) = .ok others ∧
      entries.Perm others := by
  cases reordered with
  | same => exact ⟨entries, read, .refl entries⟩
  | entries isObject version suite found foundOther perm =>
    simp only [ok_bind, readKnownServerEntries, bind_eq_ok, Json.intValue, Json.textValue,
      isObject, version, suite, found, foundOther, knownServerEntries_eq_ok] at read ⊢
    obtain ⟨number, numbered, _, supported, text, named, _, known, reads⟩ := read
    obtain ⟨others, readsOther, same⟩ := perm_comp_forall₂ perm.symm reads
    exact ⟨others, ⟨number, numbered, _, supported, text, named, _, known, readsOther⟩, same.symm⟩

/-- A document with given entries. -/
def documentOf (version suite : Json) (items : List Json) : Json :=
  .object [(bytesFromString "crypto_suite", suite),
    (bytesFromString "known_servers", .array items), (bytesFromString "version", version)]

theorem find?_documentOf (version suite : Json) (items : List Json) :
    (documentOf version suite items).find? (bytesFromString "version") = some version ∧
      (documentOf version suite items).find? (bytesFromString "crypto_suite") = some suite ∧
      (documentOf version suite items).find? (bytesFromString "known_servers") =
        some (.array items) := ⟨rfl, rfl, rfl⟩

theorem exists_document {entries others : List KnownServerEntry}
    (read : (document >>= readKnownServerEntries prims parsesPublicKey) = .ok entries)
    (perm : entries.Perm others) :
    ∃ other, ReorderedDocument document other ∧
      (other >>= readKnownServerEntries prims parsesPublicKey) = .ok others := by
  obtain ⟨contents, rfl, parsed⟩ := bind_eq_ok.mp read
  simp only [readKnownServerEntries, bind_eq_ok, require_eq_ok] at parsed
  obtain ⟨number, numbered, _, one, text, named, _, known, reads⟩ := parsed
  have isObject : contents.isObject = true := by
    by_contra other
    rw [Json.intValue, if_neg other] at numbered
    cases numbered
  rw [Json.intValue, if_pos isObject] at numbered
  rw [Json.textValue, if_pos isObject] at named
  cases found : contents.find? (bytesFromString "known_servers") with
  | none =>
    rw [found] at reads
    cases reads
  | some servers =>
    cases versioned : contents.find? (bytesFromString "version") with
    | none =>
      rw [versioned] at numbered
      cases numbered
      cases one
    | some version =>
      cases suited : contents.find? (bytesFromString "crypto_suite") with
      | none =>
        rw [suited] at named
        cases named
        exact absurd known.symm (by decide)
      | some suite =>
        rw [found, knownServerEntries_eq_ok] at reads
        obtain ⟨items, readsOther, same⟩ := perm_comp_forall₂ perm.symm reads.flip
        obtain ⟨hasVersion, hasSuite, hasServers⟩ := find?_documentOf version suite items
        refine ⟨.ok (documentOf version suite items),
          .entries isObject (versioned.trans hasVersion.symm) (suited.trans hasSuite.symm)
            found hasServers same.symm, ?_⟩
        have object : (documentOf version suite items).isObject = true := rfl
        rw [versioned] at numbered
        rw [suited] at named
        simp only [ok_bind, readKnownServerEntries, bind_eq_ok, require_eq_ok, Json.intValue,
          Json.textValue, object, if_true, hasVersion, hasSuite, hasServers,
          knownServerEntries_eq_ok]
        exact ⟨number, numbered, ⟨⟩, one, text, named, ⟨⟩, known, readsOther.flip⟩

end ReorderedDocument

/-! ## Merging entries -/

section Merging

theorem addEndpointIdentity_eq_foldlM (identities : List EndpointIdentityPublic)
    (next : Option EndpointIdentityPublic) :
    addEndpointIdentity identities next =
      next.toList.foldlM addKnownServerEndpointIdentity identities := by
  cases next with
  | none => rfl
  | some identity =>
    rw [Option.toList_some, foldlM_cons]
    exact (bind_pure (addKnownServerEndpointIdentity identities identity)).symm

/-- Entries are merged component by component. -/
theorem foldlM_addEntry_eq_ok {entries : List KnownServerEntry}
    {start result : KnownServerResolution} :
    entries.foldlM KnownServerResolution.addEntry start = .ok result ↔
      (entries.map (·.recipient)).foldlM addKnownServerRecipient start.recipients =
          .ok result.recipients ∧
        (entries.filterMap (·.endpointIdentity)).foldlM addKnownServerEndpointIdentity
            start.endpointIdentities = .ok result.endpointIdentities ∧
          (entries.map (·.clientIdentity)).foldlM setKnownServerClientIdentity
            start.clientIdentity = .ok result.clientIdentity := by
  induction entries generalizing start with
  | nil =>
    constructor
    · intro same
      cases same
      exact ⟨rfl, rfl, rfl⟩
    · rintro ⟨recipients, identities, client⟩
      cases start
      cases result
      cases recipients
      cases identities
      cases client
      rfl
  | cons entry rest ih =>
    have identities : (entry :: rest).filterMap (·.endpointIdentity) =
        entry.endpointIdentity.toList ++ rest.filterMap (·.endpointIdentity) := by
      cases found : entry.endpointIdentity with
      | none => rw [filterMap_cons_none found, Option.toList_none, nil_append]
      | some identity =>
        rw [filterMap_cons_some found, Option.toList_some, singleton_append]
    rw [identities, foldlM_append, ← addEndpointIdentity_eq_foldlM]
    simp only [foldlM_cons, map_cons, KnownServerResolution.addEntry, bind_eq_ok]
    constructor
    · rintro ⟨next, ⟨recipients, added, found, merged, client, set, same⟩, more⟩
      cases same
      obtain ⟨first, second, third⟩ := ih.mp more
      exact ⟨⟨recipients, added, first⟩, ⟨found, merged, second⟩, ⟨client, set, third⟩⟩
    · rintro ⟨⟨recipients, added, first⟩, ⟨found, merged, second⟩, ⟨client, set, third⟩⟩
      exact ⟨_, ⟨recipients, added, found, merged, client, set, rfl⟩,
        ih.mpr ⟨first, second, third⟩⟩

variable {value : Bytes}

theorem setKnownServerClientIdentity_eq_ok {name next : Bytes} :
    setKnownServerClientIdentity value name = .ok next ↔
      (trimCopy name = [] ∧ next = value) ∨
        (trimCopy name ≠ [] ∧ (value = [] ∨ value = trimCopy name) ∧ next = trimCopy name) := by
  simp only [setKnownServerClientIdentity]
  split
  · rename_i blank
    rw [Except.ok.injEq]
    exact ⟨fun same => .inl ⟨blank, same.symm⟩,
      fun step => step.elim (·.2.symm) fun other => absurd blank other.1⟩
  · rename_i named
    split
    · rename_i conflict
      refine iff_of_false (fun failed => nomatch failed) ?_
      rintro (⟨blank, -⟩ | ⟨-, fits, -⟩)
      · exact named blank
      · exact fits.elim conflict.1 conflict.2
    · rename_i fits
      rw [Except.ok.injEq]
      constructor
      · rintro rfl
        exact .inr ⟨named, by tauto, rfl⟩
      · rintro (⟨blank, -⟩ | ⟨-, -, same⟩)
        · exact absurd blank named
        · exact same.symm

theorem foldlM_setClientIdentity_eq_ok {names : List Bytes} {result : Bytes} :
    names.foldlM setKnownServerClientIdentity value = .ok result ↔
      (result = value ∨ ∃ name ∈ names, result = trimCopy name) ∧
        (value = [] ∨ value = result) ∧
          ∀ name ∈ names, trimCopy name = [] ∨ trimCopy name = result := by
  induction names generalizing value with
  | nil =>
    rw [foldlM_nil, pure_eq_ok]
    constructor
    · rintro rfl
      exact ⟨.inl rfl, .inr rfl, fun _ absent => absurd absent not_mem_nil⟩
    · rintro ⟨same | ⟨_, absent, -⟩, -, -⟩
      · exact same.symm
      · exact absurd absent not_mem_nil
  | cons name rest ih =>
    simp only [foldlM_cons, bind_eq_ok, setKnownServerClientIdentity_eq_ok, ih,
      forall_mem_cons, exists_mem_cons_iff]
    constructor
    · rintro ⟨next, ⟨blank, rfl⟩ | ⟨named, fits, rfl⟩, found, kept, all⟩
      · exact ⟨found.imp id .inr, kept, .inl blank, all⟩
      · obtain same : trimCopy name = result := kept.resolve_left named
        exact ⟨.inr (.inl same.symm), fits.imp id (·.trans same), .inr same, all⟩
    · rintro ⟨found, kept, fits, all⟩
      by_cases blank : trimCopy name = []
      · refine ⟨value, .inl ⟨blank, rfl⟩, ?_, kept, all⟩
        rcases found with same | same | found
        · exact .inl same
        · have empty : value = [] := kept.elim id (·.trans (same.trans blank))
          exact .inl (same.trans (blank.trans empty.symm))
        · exact .inr found
      · have same := fits.resolve_left blank
        exact ⟨trimCopy name, .inr ⟨blank, kept.imp id (·.trans same.symm), rfl⟩,
          .inl same.symm, .inr same, all⟩

end Merging

/-! ## What a file resolves to -/

section Resolving

variable {uri rawName : Bytes} {entries others : List KnownServerEntry}
  {result : KnownServerResolution}

/-- The name, or else the URI, designates an entry. -/
def Designated (uri rawName : Bytes) (entry : KnownServerEntry) : Prop :=
  if trimCopy rawName = [] then entry.name ∈ knownServerTargetCandidates uri
  else entry.name = trimCopy rawName

/-- What an entry alone resolves to. -/
def resolutionOf (entry : KnownServerEntry) : KnownServerResolution where
  recipients := [entry.recipient]
  endpointIdentities := entry.endpointIdentity.toList
  clientIdentity := trimCopy entry.clientIdentity

theorem addEntry_nothing (entry : KnownServerEntry) :
    KnownServerResolution.addEntry {} entry = .ok (resolutionOf entry) := by
  have client : setKnownServerClientIdentity [] entry.clientIdentity =
      .ok (trimCopy entry.clientIdentity) := by
    rw [setKnownServerClientIdentity_eq_ok]
    by_cases blank : trimCopy entry.clientIdentity = []
    · exact .inl ⟨blank, blank⟩
    · exact .inr ⟨blank, .inl rfl, rfl⟩
  rw [KnownServerResolution.addEntry, client]
  cases found : entry.endpointIdentity with
  | none | some identity => rw [resolutionOf, found]; rfl

/-- A name resolves to the first entry that has it. -/
theorem resolveEntries_named (named : trimCopy rawName ≠ []) :
    resolveEntries {} uri rawName entries = .ok result ↔
      validateLocalName (trimCopy rawName) "--known-server" = .ok () ∧
        ∃ entry, entries.find? (·.name = trimCopy rawName) = some entry ∧
          resolutionOf entry = result := by
  simp only [resolveEntries, selectKnownServerEntries, if_pos named, bind_eq_ok, require_eq_ok]
  constructor
  · rintro ⟨selected, ⟨_, valid, chosen⟩, -, -, folded⟩
    refine ⟨valid, ?_⟩
    split at chosen
    · rename_i entry found
      cases chosen
      rw [foldlM_cons, addEntry_nothing, ok_bind, foldlM_nil, pure_eq_ok] at folded
      exact ⟨entry, found, folded⟩
    · cases chosen
  · rintro ⟨valid, entry, found, rfl⟩
    rw [found]
    refine ⟨[entry], ⟨(), valid, rfl⟩, (), fun empty => Bool.false_ne_true empty.1, ?_⟩
    rw [foldlM_cons, addEntry_nothing]
    rfl

theorem selectKnownServerEntries_unnamed (unnamed : trimCopy rawName = []) :
    selectKnownServerEntries entries uri rawName =
      .ok (if entries.filter (fun entry => entry.name ∈ knownServerTargetCandidates uri) ≠ [] then
          entries.filter fun entry => entry.name ∈ knownServerTargetCandidates uri
        else if entries.length = 1 then entries else []) := by
  simp only [selectKnownServerEntries, if_neg (not_not.mpr unnamed)]
  split
  · rfl
  · split <;> rfl

variable {selected : List KnownServerEntry}

theorem designated_of_selected {entry : KnownServerEntry}
    (selects : selectKnownServerEntries entries uri rawName = .ok selected) (mem : entry ∈ selected)
    :
    entry ∈ entries ∧ (Designated uri rawName entry ∨ entries = [entry]) := by
  by_cases unnamed : trimCopy rawName = []
  · rw [selectKnownServerEntries_unnamed unnamed] at selects
    cases selects
    split at mem
    · obtain ⟨within, candidate⟩ := mem_filter.mp mem
      exact ⟨within, .inl ((if_pos unnamed).mpr (of_decide_eq_true candidate))⟩
    · split at mem
      · rename_i alone
        obtain ⟨only, rfl⟩ := length_eq_one_iff.mp alone
        obtain rfl := mem_singleton.mp mem
        exact ⟨mem, .inr rfl⟩
      · cases mem
  · simp only [selectKnownServerEntries, if_pos unnamed, bind_eq_ok] at selects
    obtain ⟨_, -, chosen⟩ := selects
    split at chosen
    · rename_i first found
      cases chosen
      obtain rfl := mem_singleton.mp mem
      have named : entry.name = trimCopy rawName := by simpa using find?_some found
      exact ⟨mem_of_find?_eq_some found, .inl ((if_neg unnamed).mpr named)⟩
    · cases chosen

/-- What a URI selects is, up to the order, the same in every order of the file. -/
theorem selectKnownServerEntries_perm (unnamed : trimCopy rawName = []) (perm : entries.Perm others)
    (selects : selectKnownServerEntries entries uri rawName = .ok selected) :
    ∃ chosen, selectKnownServerEntries others uri rawName = .ok chosen ∧
      selected.Perm chosen := by
  have kept := perm.filter fun entry => entry.name ∈ knownServerTargetCandidates uri
  rw [selectKnownServerEntries_unnamed unnamed] at selects ⊢
  cases selects
  refine ⟨_, rfl, ?_⟩
  by_cases nothing : (entries.filter fun entry =>
      entry.name ∈ knownServerTargetCandidates uri) = []
  · have nothingOther := (nothing ▸ kept).nil_eq.symm
    rw [if_neg (not_not.mpr nothing), if_neg (not_not.mpr nothingOther), perm.length_eq]
    split
    · exact perm
    · exact .refl []
  · have somethingOther : (others.filter fun entry =>
        entry.name ∈ knownServerTargetCandidates uri) ≠ [] :=
      fun nothingOther => nothing (nothingOther ▸ kept).eq_nil
    rw [if_pos nothing, if_pos somethingOther]
    exact kept

theorem identifies_recipients : Identifies (fun _ : E2eRecipient => True)
    (fun existing next => existing.keyId = next.keyId)
    (fun existing next => existing.publicKey = next.publicKey) := by
  intro first second _ _ met same
  cases first
  cases second
  simp only [decide_eq_true_eq] at met same
  rw [met, same]

theorem identifies_identities (prims : Primitives) (parsesPublicKey : Bytes → Bool) :
    Identifies (ConsistentKeyIds prims parsesPublicKey)
      (fun existing next => existing.encryptionKeyId = next.encryptionKeyId ||
        existing.signingKeyId = next.signingKeyId)
      (fun existing next => existing.encryptionPublicKey = next.encryptionPublicKey &&
        existing.signingPublicKey = next.signingPublicKey) := by
  intro first second consistent consistentSecond _ same
  obtain ⟨encryption, signing⟩ := Bool.and_eq_true_iff.mp same
  have encryption := of_decide_eq_true encryption
  have signing := of_decide_eq_true signing
  have encryptionId := congrArg Prod.fst
    (consistent.encryption.symm.trans (encryption ▸ consistentSecond.encryption))
  have signingId := congrArg Prod.fst
    (consistent.signing.symm.trans (signing ▸ consistentSecond.signing))
  cases first
  cases second
  simp only at encryption signing encryptionId signingId
  rw [encryption, signing, encryptionId, signingId]

/-- Entries with one recipient make one recipient. -/
theorem length_recipients_le_one {recipients : List E2eRecipient}
    (alike : ∀ first ∈ selected, ∀ second ∈ selected, first.recipient = second.recipient)
    (folded : (selected.map (·.recipient)).foldlM addKnownServerRecipient [] = .ok recipients) :
    recipients.length ≤ 1 := by
  cases selected with
  | nil =>
    cases folded
    exact Nat.zero_le 1
  | cons first rest =>
    have all : ∀ recipient ∈ (first :: rest).map (·.recipient), recipient = first.recipient := by
      intro recipient mem
      obtain ⟨entry, within, rfl⟩ := mem_map.mp mem
      exact alike entry within first mem_cons_self
    have once : ((first :: rest).map (·.recipient)).foldlM addKnownServerRecipient [] =
        .ok [first.recipient] :=
      foldlM_addAgreeing_same (by simp) (by simp) all (cons_ne_nil _ _)
    obtain rfl := Except.ok.inj (once.symm.trans folded)
    exact Nat.le_refl 1

/-- **Without a name** the order of the file does not matter, provided that all selected entries
have one recipient and that at most one endpoint identity comes of them. -/
theorem resolveEntries_perm {prims : Primitives} {parsesPublicKey : Bytes → Bool}
    (unnamed : trimCopy rawName = []) (perm : entries.Perm others)
    (wellFormed : ∀ entry ∈ entries, entry.WellFormed prims parsesPublicKey)
    (alike : ∀ first ∈ entries, ∀ second ∈ entries, Designated uri rawName first →
      Designated uri rawName second → first.recipient = second.recipient)
    (small : result.endpointIdentities.length ≤ 1)
    (resolves : resolveEntries {} uri rawName entries = .ok result) :
    resolveEntries {} uri rawName others = .ok result := by
  simp only [resolveEntries, bind_eq_ok, require_eq_ok] at resolves ⊢
  obtain ⟨selected, selects, _, enough, folded⟩ := resolves
  obtain ⟨chosen, chooses, same⟩ := selectKnownServerEntries_perm unnamed perm selects
  have within (entry : KnownServerEntry) (mem : entry ∈ selected) :=
    designated_of_selected selects mem
  refine ⟨chosen, chooses, (), ?_, ?_⟩
  · rwa [← same.isEmpty_eq, ← perm.isEmpty_eq]
  · obtain ⟨recipients, identities, client⟩ := foldlM_addEntry_eq_ok.mp folded
    refine foldlM_addEntry_eq_ok.mpr ⟨?_, ?_, ?_⟩
    · refine foldlM_addAgreeing_of_le_one identifies_recipients (by simp) (by simp)
        (fun _ _ => trivial) recipients (length_recipients_le_one ?_ recipients)
        fun recipient => (same.map _).mem_iff.symm
      intro first firstMem second secondMem
      obtain ⟨firstWithin, firstDesignated⟩ := within first firstMem
      obtain ⟨secondWithin, secondDesignated⟩ := within second secondMem
      rcases firstDesignated with firstDesignated | only
      · rcases secondDesignated with secondDesignated | only
        · exact alike first firstWithin second secondWithin firstDesignated secondDesignated
        · rw [only] at firstWithin
          rw [mem_singleton.mp firstWithin]
      · rw [only] at secondWithin
        rw [mem_singleton.mp secondWithin]
    · refine foldlM_addAgreeing_of_le_one (identifies_identities prims parsesPublicKey) (by simp)
        (by simp) ?_ identities small fun identity => (same.filterMap _).mem_iff.symm
      intro identity mem
      obtain ⟨entry, selected, found⟩ := mem_filterMap.mp mem
      exact (wellFormed entry (within entry selected).1 identity found).2
    · rw [foldlM_setClientIdentity_eq_ok] at client ⊢
      have mem (name : Bytes) := (same.map (·.clientIdentity)).mem_iff (a := name)
      simpa only [mem] using client

theorem head_of_resolveEntries {first : KnownServerEntry} {rest : List KnownServerEntry}
    (designated : Designated uri rawName first)
    (resolves : resolveEntries {} uri rawName (first :: rest) = .ok result) :
    result.recipients.head? = some first.recipient ∧
      (trimCopy rawName ≠ [] → result = resolutionOf first) := by
  by_cases unnamed : trimCopy rawName = []
  · refine ⟨?_, fun named => absurd unnamed named⟩
    simp only [resolveEntries, bind_eq_ok] at resolves
    obtain ⟨selected, selects, -, -, folded⟩ := resolves
    have kept : (first :: rest).filter (fun entry =>
        entry.name ∈ knownServerTargetCandidates uri) = first :: rest.filter fun entry =>
        entry.name ∈ knownServerTargetCandidates uri :=
      filter_cons_of_pos (decide_eq_true ((if_pos unnamed).mp designated))
    rw [selectKnownServerEntries_unnamed unnamed, kept, if_pos (cons_ne_nil _ _)] at selects
    cases selects
    exact head?_foldlM_addAgreeing (foldlM_addEntry_eq_ok.mp folded).1
  · obtain ⟨_, entry, found, rfl⟩ := (resolveEntries_named unnamed).mp resolves
    have named : first.name = trimCopy rawName := (if_neg unnamed).mp designated
    have head : (first :: rest).find? (·.name = trimCopy rawName) = some first :=
      find?_cons_of_pos (decide_eq_true named)
    obtain rfl := Option.some.inj (head.symm.trans found)
    exact ⟨rfl, fun _ => rfl⟩

end Resolving

/-! ## Explicit keys -/

section ExplicitKeys

theorem count_dropWhile_isSpace (value : Bytes) :
    (value.dropWhile isSpace).count 58 = value.count 58 := by
  have spaces : (value.takeWhile isSpace).count 58 = 0 :=
    count_eq_zero.mpr fun mem => Bool.false_ne_true (mem_takeWhile_imp mem)
  have parts := congrArg (count 58)
    (takeWhile_append_dropWhile (p := isSpace) (l := value))
  rwa [count_append, spaces, Nat.zero_add] at parts

/-- Trimming keeps the colons. -/
theorem count_trimCopy (value : Bytes) : (trimCopy value).count 58 = value.count 58 := by
  rw [trimCopy, count_reverse, count_dropWhile_isSpace, count_reverse,
    count_dropWhile_isSpace]

theorem dropWhile_trimCopy (value : Bytes) :
    (trimCopy value).dropWhile isSpace = trimCopy value := by
  obtain ⟨ending, whole⟩ := rdropWhile_prefix isSpace (l := value.dropWhile isSpace)
  change trimCopy value ++ ending = _ at whole
  cases trimmed : trimCopy value with
  | nil => rfl
  | cons first rest =>
    have kept := head?_dropWhile_not isSpace value
    rw [← whole, trimmed, cons_append, head?_cons] at kept
    exact dropWhile_cons_of_neg (Bool.eq_false_iff.mp kept)

/-- What is trimmed once is trimmed. -/
theorem trimCopy_trimCopy (value : Bytes) : trimCopy (trimCopy value) = trimCopy value := by
  have kept : trimCopy (trimCopy value) = (trimCopy value).rdropWhile isSpace := by
    rw [trimCopy, dropWhile_trimCopy]
    rfl
  rw [kept]
  exact rdropWhile_idempotent isSpace (value.dropWhile isSpace)

variable {prims : Primitives} {parsesPublicKey : Bytes → Bool}

variable {raw : Bytes} {recipient : E2eRecipient} {identity : EndpointIdentityPublic}

theorem recipient_of_identity (colons : raw.count 58 = 3)
    (parsed : parseKnownServerKey prims parsesPublicKey raw = .ok recipient)
    (identified : parseKnownServerEndpointIdentity prims parsesPublicKey raw = .ok identity) :
    recipient = recipientOf identity := by
  have trimmed : parseKnownServerEndpointIdentity prims parsesPublicKey (trimCopy raw) =
      .ok identity := by
    rw [← identified, parseKnownServerEndpointIdentity, trimCopy_trimCopy,
      parseKnownServerEndpointIdentity]
  rw [parseKnownServerKey, if_pos ((count_trimCopy raw).trans colons), trimmed, ok_bind] at parsed
  exact (Except.ok.inj parsed).symm

theorem mem_addKnownServerRecipient {recipients result : List E2eRecipient} {next : E2eRecipient}
    (added : addKnownServerRecipient recipients next = .ok result) (recipient : E2eRecipient) :
    recipient ∈ result ↔ recipient ∈ recipients ∨ recipient = next :=
  mem_addAgreeing identifies_recipients (fun _ _ => trivial) trivial added recipient

theorem mem_addEndpointIdentity {identities result : List EndpointIdentityPublic}
    {next : Option EndpointIdentityPublic}
    (added : addEndpointIdentity identities next = .ok result) (mem : identity ∈ result) :
    identity ∈ identities ∨ next = some identity := by
  cases next with
  | none =>
    cases added
    exact .inl mem
  | some next =>
    unfold addEndpointIdentity addKnownServerEndpointIdentity at added
    rw [Option.elim_some] at added
    rcases addAgreeing_eq_ok added with rfl | ⟨rfl, -⟩
    · exact (mem_append.mp mem).imp id fun last =>
        congrArg some (mem_singleton.mp last).symm
    · exact .inl mem

/-- Every endpoint identity has its encryption key among the recipients. -/
def KnownServerResolution.Keyed (resolution : KnownServerResolution) : Prop :=
  ∀ identity ∈ resolution.endpointIdentities, recipientOf identity ∈ resolution.recipients

variable {start next : KnownServerResolution}

theorem keyed_add {identity : Option EndpointIdentityPublic} (keyed : start.Keyed)
    (goes : ∀ found, identity = some found → recipient = recipientOf found)
    (recipients : addKnownServerRecipient start.recipients recipient = .ok next.recipients)
    (identities : addEndpointIdentity start.endpointIdentities identity =
      .ok next.endpointIdentities) : next.Keyed := by
  intro found mem
  rw [mem_addKnownServerRecipient recipients]
  rcases mem_addEndpointIdentity identities mem with before | added
  · exact .inl (keyed found before)
  · exact .inr (goes found added).symm

/-- **An explicit key** is a recipient, and keeps the resolution keyed. -/
theorem addKey_adds (added : start.addKey prims parsesPublicKey raw = .ok next) :
    (start.Keyed → next.Keyed) ∧ ∃ recipient,
      parseKnownServerKey prims parsesPublicKey raw = .ok recipient ∧
        ∀ other, other ∈ next.recipients ↔ other ∈ start.recipients ∨ other = recipient := by
  simp only [KnownServerResolution.addKey, bind_eq_ok] at added
  obtain ⟨recipient, parsed, recipients, extended, identity, identified, identities, merged,
    same⟩ := added
  cases same
  refine ⟨fun keyed => keyed_add keyed (fun found isFound => ?_) extended merged, recipient, parsed,
    mem_addKnownServerRecipient extended⟩
  subst isFound
  unfold keyEndpointIdentity at identified
  split at identified
  · rename_i colons
    exact recipient_of_identity colons parsed (map_some_eq_ok identified)
  · cases identified

/-- **A selected entry** is a recipient, and keeps the resolution keyed. -/
theorem addEntry_adds {entry : KnownServerEntry}
    (wellFormed : entry.WellFormed prims parsesPublicKey) (added : start.addEntry entry = .ok next)
    :
    (start.Keyed → next.Keyed) ∧
      ∀ other, other ∈ next.recipients ↔ other ∈ start.recipients ∨ other = entry.recipient := by
  simp only [KnownServerResolution.addEntry, bind_eq_ok] at added
  obtain ⟨recipients, extended, identities, merged, client, -, same⟩ := added
  cases same
  exact ⟨fun keyed => keyed_add keyed (fun found isFound => (wellFormed found isFound).1) extended
    merged, mem_addKnownServerRecipient extended⟩

end ExplicitKeys

end Rstream.Webtty.Cli
