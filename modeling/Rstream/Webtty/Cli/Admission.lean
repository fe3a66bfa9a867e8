import Rstream.Webtty.Cli.CanonicalJson
import Rstream.Webtty.Cli.Base64url

/-!
# The server admission proof

A server signs the labels of its tunnel together with who it is and how long the signature holds.
The labels are hashed, without the label that carries the proof; the hash and the other fields
are written one after the other behind a domain that is not length-prefixed. The string that is
signed determines the fields, and it begins with another byte than the other strings that the same
key signs: those begin with the length of a domain, or with the brace of an object.
-/

namespace Rstream.Webtty.Cli

open List
open IoRstrm (ErrorCode)
open Library

/-! ## The source -/

/-- `std::map<std::string, std::string>`. -/
abbrev Labels := SortedMap Bytes Bytes

/-- The label that carries the proof. -/
def serverAdmissionLabel : Bytes := bytesFromString "rstream.webtty.server_admission"

/-- The entries that are hashed. -/
def admittedLabels (labels : Labels) : Labels :=
  labels.filterKeys fun key => key ≠ serverAdmissionLabel

/-- A label in the string that is hashed. -/
def labelBytes (entry : Bytes × Bytes) : Bytes := lengthPrefixed entry.1 ++ lengthPrefixed entry.2

/-- The string that `webtty_server_admission_labels_hash` hashes. -/
def serverAdmissionLabelsCanonical (labels : Labels) : Bytes :=
  let entries := (admittedLabels labels).entries
  bytesFromString "rstream-webtty-server-admission-labels-v1" ++
    (word32 entries.length ++ entries.flatMap labelBytes)

def webttyServerAdmissionLabelsHash (sha256 : Bytes → Bytes) (labels : Labels) : Bytes :=
  sha256 (serverAdmissionLabelsCanonical labels)

/-- The fields of a proof as they are read. -/
structure ServerAdmissionProof where
  version : Int32
  suite : Bytes
  workspaceId : Bytes
  projectId : Bytes
  serverId : Bytes
  tunnelProtocol : Bytes
  tunnelType : Bytes
  labelsSha256 : Bytes
  signingKeyId : Bytes
  issuedAt : Bytes
  expiresAt : Bytes
  nonce : Bytes
  deriving DecidableEq

/-- The reads of `webtty_server_admission_transcript`. -/
def readServerAdmissionProof (proof : Json) : Option ServerAdmissionProof := do
  let version ← (proof.find? (bytesFromString "version")).bind Json.getInt
  let suite ← proof.atString "suite"
  let workspaceId ← proof.atString "workspace_id"
  let projectId ← proof.atString "project_id"
  let serverId ← proof.atString "server_id"
  let tunnelProtocol ← proof.atString "tunnel_protocol"
  let tunnelType ← proof.atString "tunnel_type"
  let labelsSha256 ← proof.atString "labels_sha256"
  let signingKeyId ← proof.atString "signing_key_id"
  let issuedAt ← proof.atString "issued_at"
  let expiresAt ← proof.atString "expires_at"
  let nonce ← proof.atString "nonce"
  some { version, suite, workspaceId, projectId, serverId, tunnelProtocol, tunnelType,
         labelsSha256, signingKeyId, issuedAt, expiresAt, nonce }

/-- The domain of the transcript. -/
def serverAdmissionDomain : Bytes := bytesFromString "rstream-webtty-server-admission-v1"

/-- What follows the domain. -/
def ServerAdmissionProof.fields (proof : ServerAdmissionProof) : List Field :=
  [.word proof.version.toUInt32.toNat, .text proof.suite, .text proof.workspaceId,
    .text proof.projectId, .text proof.serverId, .text proof.tunnelProtocol,
    .text proof.tunnelType, .text proof.labelsSha256, .text proof.signingKeyId,
    .text proof.issuedAt, .text proof.expiresAt, .text proof.nonce]

/-- The string that is signed. -/
def ServerAdmissionProof.transcript (proof : ServerAdmissionProof) : Bytes :=
  serverAdmissionDomain ++
    (word32 proof.version.toUInt32.toNat ++
      (lengthPrefixed proof.suite ++ lengthPrefixed proof.workspaceId ++
        lengthPrefixed proof.projectId ++ lengthPrefixed proof.serverId ++
        lengthPrefixed proof.tunnelProtocol ++ lengthPrefixed proof.tunnelType ++
        lengthPrefixed proof.labelsSha256 ++ lengthPrefixed proof.signingKeyId ++
        lengthPrefixed proof.issuedAt ++ lengthPrefixed proof.expiresAt ++
        lengthPrefixed proof.nonce))

/-- `webtty_server_admission_transcript`; `none` where a read throws. -/
def webttyServerAdmissionTranscript (proof : Json) : Option Bytes :=
  (readServerAdmissionProof proof).map ServerAdmissionProof.transcript

/-! ## Labels -/

/-- A text whose length fits into its prefix. -/
def shortTexts : Set Bytes := {bytes | bytes.length < 2 ^ 32}

theorem selfDelimitingOn_lengthPrefixed : SelfDelimitingOn shortTexts lengthPrefixed := by
  intro first short second short' rest more same
  obtain ⟨texts, tails⟩ := @Field.encode_append_injective (.text first) (.text second) _ _
    trivial short short' same
  exact ⟨Field.text.inj texts, tails⟩

theorem selfDelimitingOn_labelBytes :
    SelfDelimitingOn (shortTexts ×ˢ shortTexts) labelBytes :=
  selfDelimitingOn_lengthPrefixed.prod selfDelimitingOn_lengthPrefixed

theorem labelBytes_ne_nil (entry : Bytes × Bytes) : labelBytes entry ≠ [] := by
  apply ne_nil_of_length_pos
  rw [labelBytes, lengthPrefixed, length_append, length_append, length_bigEndian]
  omega

/-- Every key and every value is shorter than `2 ^ 32` bytes. -/
def ShortLabels (labels : Labels) : Prop :=
  ∀ entry ∈ labels.entries, entry.1.length < 2 ^ 32 ∧ entry.2.length < 2 ^ 32

theorem entries_filterKeys {keep : Bytes → Bool} (labels : Labels) :
    (labels.filterKeys keep).entries = labels.entries.filter fun entry => keep entry.1 := rfl

theorem admittedLabels_mem {labels : Labels} (short : ShortLabels labels) :
    (admittedLabels labels).entries ∈ listsOver (shortTexts ×ˢ shortTexts) := by
  intro entry mem
  exact short entry (mem_filter.mp mem).1

/-- **The string that is hashed determines the labels**, the label of the proof apart. The number of
entries in front, which may be cut, is not needed. -/
theorem serverAdmissionLabelsCanonical_eq_iff {labels others : Labels}
    (short : ShortLabels labels) (short' : ShortLabels others) :
    serverAdmissionLabelsCanonical labels = serverAdmissionLabelsCanonical others ↔
      admittedLabels labels = admittedLabels others := by
  constructor
  · intro same
    have counted := append_cancel_left same
    have words : (word32 (admittedLabels labels).entries.length).length =
        (word32 (admittedLabels others).entries.length).length := by
      rw [length_bigEndian, length_bigEndian]
    have entries := (append_inj counted words).2
    have lists := selfDelimitingOn_labelBytes.flatMap_injOn
      (fun entry _ => labelBytes_ne_nil entry) (admittedLabels_mem short)
      (admittedLabels_mem short') entries
    apply SortedMap.ext_mem
    intro entry
    rw [lists]
  · intro same
    rw [serverAdmissionLabelsCanonical, same, ← serverAdmissionLabelsCanonical]

/-! ## The transcript -/

namespace ServerAdmissionProof

theorem transcript_eq (proof : ServerAdmissionProof) :
    proof.transcript = serverAdmissionDomain ++ Field.encodeAll proof.fields := by
  simp only [transcript, fields, Field.encodeAll, flatMap_cons, flatMap_nil,
    Field.encode, lengthPrefixed, append_nil, append_assoc]

/-- Every text of a proof is shorter than `2 ^ 32` bytes. -/
def Short (proof : ServerAdmissionProof) : Prop :=
  ∀ bytes ∈ [proof.suite, proof.workspaceId, proof.projectId, proof.serverId,
    proof.tunnelProtocol, proof.tunnelType, proof.labelsSha256, proof.signingKeyId,
    proof.issuedAt, proof.expiresAt, proof.nonce], bytes.length < 2 ^ 32

theorem small_fields {proof : ServerAdmissionProof} (short : proof.Short) :
    ∀ field ∈ proof.fields, field.Small := by
  have version : (Field.word proof.version.toUInt32.toNat).Small :=
    proof.version.toUInt32.toNat_lt
  simp only [Short, forall_mem_cons] at short
  obtain ⟨suite, workspace, project, server, protocol, type, labels, key, issued, expires,
    nonce, -⟩ := short
  simp only [fields, forall_mem_cons]
  exact ⟨version, suite, workspace, project, server, protocol, type, labels, key, issued,
    expires, nonce, forall_mem_nil _⟩

/-- **The transcript determines the fields.** -/
theorem transcript_injective {first second : ServerAdmissionProof} (short : first.Short)
    (short' : second.Short) (same : first.transcript = second.transcript) : first = second := by
  rw [transcript_eq, transcript_eq] at same
  have kinds : List.Forall₂ Field.SameKind first.fields second.fields := by
    simp only [fields]
    repeat' constructor
  have spelled := Field.encodeAll_injective kinds (small_fields short) (small_fields short')
    (append_cancel_left same)
  simp only [fields, cons.injEq, Field.text.injEq, Field.word.injEq] at spelled
  obtain ⟨version, suite, workspace, project, server, protocol, type, labels, key, issued,
    expires, nonce, -⟩ := spelled
  have version' : first.version = second.version :=
    congrArg Int32.ofUInt32 (UInt32.toNat.inj version)
  obtain ⟨⟩ := first
  obtain ⟨⟩ := second
  simp only [mk.injEq]
  exact ⟨version', suite, workspace, project, server, protocol, type, labels, key, issued,
    expires, nonce⟩

/-- The transcript begins with the first letter of its domain. -/
theorem head_transcript (proof : ServerAdmissionProof) : proof.transcript.head? = some 114 := rfl

end ServerAdmissionProof

/-! ## The other strings of the signing key -/

/-- A proof transcript begins with the length of its domain. -/
theorem ClientProofTranscript.head_canonical (transcript : ClientProofTranscript)
    (errorCode : ErrorCode) : (transcript.canonical errorCode).1.head? = some 0 := by
  rw [ClientProofTranscript.fst_canonical, ClientProofTranscript.fields, Field.encodeAll,
    flatMap_cons]
  rfl

theorem ServerProofTranscript.head_canonical (transcript : ServerProofTranscript)
    (errorCode : ErrorCode) : (transcript.canonical errorCode).1.head? = some 0 := by
  rw [ServerProofTranscript.fst_canonical, ServerProofTranscript.fields, Field.encodeAll,
    flatMap_cons]
  rfl

/-- The text of an object begins with its brace. -/
theorem head_object {dump : Bytes → Bytes} {members : List (Bytes × Json)} {text : Bytes}
    (written : workspaceCanonicalJson dump (.object members) = .ok text) :
    text.head? = some 123 := by
  rw [workspaceCanonicalJson, bind_eq_ok] at written
  obtain ⟨out, -, written⟩ := written
  obtain rfl := Except.ok.inj written
  rfl

/-- **The admission proof binds labels and fields.** The strings that are hashed for two maps of
labels are the same exactly when the maps are, but for the label of the proof; two transcripts are
the same only if all fields that are read for them are; and no transcript is the one of a client
or a server proof, or the text of an object. -/
theorem server_admission_binds :
    (∀ labels others : Labels, ShortLabels labels → ShortLabels others →
      (serverAdmissionLabelsCanonical labels = serverAdmissionLabelsCanonical others ↔
        admittedLabels labels = admittedLabels others)) ∧
    (∀ (proof other : Json) (first second : ServerAdmissionProof) (signed : Bytes),
      readServerAdmissionProof proof = some first →
      readServerAdmissionProof other = some second → first.Short → second.Short →
      webttyServerAdmissionTranscript proof = some signed →
      webttyServerAdmissionTranscript other = some signed → first = second) ∧
    (∀ (proof : Json) (signed : Bytes), webttyServerAdmissionTranscript proof = some signed →
      (∀ (transcript : ClientProofTranscript) (errorCode : ErrorCode),
        signed ≠ (transcript.canonical errorCode).1) ∧
      (∀ (transcript : ServerProofTranscript) (errorCode : ErrorCode),
        signed ≠ (transcript.canonical errorCode).1) ∧
      (∀ (dump : Bytes → Bytes) (members : List (Bytes × Json)) (text : Bytes),
        workspaceCanonicalJson dump (.object members) = .ok text → signed ≠ text)) := by
  refine ⟨?_, ?_, ?_⟩
  · intro labels others short short'
    exact serverAdmissionLabelsCanonical_eq_iff short short'
  · intro proof other first second signed read read' short short' written written'
    rw [webttyServerAdmissionTranscript, read, Option.map_some] at written
    rw [webttyServerAdmissionTranscript, read', Option.map_some] at written'
    exact ServerAdmissionProof.transcript_injective short short'
      (Option.some.inj (written.trans written'.symm))
  · intro proof signed written
    obtain ⟨read, -, rfl⟩ := Option.map_eq_some_iff.mp written
    have head := read.head_transcript
    refine ⟨?_, ?_, ?_⟩
    · intro transcript errorCode same
      rw [same, ClientProofTranscript.head_canonical] at head
      cases head
    · intro transcript errorCode same
      rw [same, ServerProofTranscript.head_canonical] at head
      cases head
    · intro dump members text object same
      rw [same, head_object object] at head
      cases head

end Rstream.Webtty.Cli
