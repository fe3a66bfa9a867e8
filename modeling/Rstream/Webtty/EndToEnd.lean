import Rstream.Webtty.Client.Authentication
import Rstream.Webtty.Server.Output

/-!
# The end-to-end mode

With a payload crypto, both ends encrypt what they read from their terminal. A session
refuses `Data` that is neither encrypted nor the end of a stream; the client writes it to
the local terminal. So the session never falls back to plaintext, and the client does not
as long as its peer sends it none (`no_plaintext`).
-/

namespace Rstream.Webtty

open List
open IoRstrm (ErrorCode)
open Library
open Server (DataPayload DataType Message ProofPrimitives)

/-- A payload is the result of a successful encryption for the stream. -/
def Encrypted (prims : ProofPrimitives) (crypto : PayloadCrypto) (stream : PayloadStream)
    (payload : DataPayload) : Prop :=
  ∃ bytes nonce encrypted errorCode, payload = .encryptedData encrypted ∧
    errorCode.failed = false ∧
    crypto.encrypt prims.toPrimitives nonce stream bytes = (encrypted, errorCode)

/-- Bytes are the result of a successful decryption, for the stream, of a payload that was
received. -/
def Decrypted (prims : ProofPrimitives) (received : DataPayload → Prop) (crypto : PayloadCrypto)
    (stream : PayloadStream) (bytes : Bytes) : Prop :=
  ∃ encrypted errorCode, received (.encryptedData encrypted) ∧ errorCode.failed = false ∧
    crypto.decrypt prims.toPrimitives stream encrypted [] = (bytes, errorCode)

theorem Decrypted.mono {prims : ProofPrimitives} {crypto : PayloadCrypto}
    {received more : DataPayload → Prop} {stream : PayloadStream} {bytes : Bytes}
    (decrypted : Decrypted prims received crypto stream bytes)
    (kept : ∀ payload, received payload → more payload) :
    Decrypted prims more crypto stream bytes := by
  obtain ⟨encrypted, errorCode, mem, succeeded, made⟩ := decrypted
  exact ⟨encrypted, errorCode, kept _ mem, succeeded, made⟩

/-! ## The session -/

namespace Server

/-- What a session has before it is connected: neither output nor input, and nothing that reads
the child. -/
def View.Blank (v : View) : Prop :=
  (∀ message ∈ v.sent, message.isData = false) ∧ v.input = [] ∧ v.outputReads = [] ∧
    ∀ loop ∈ v.sends, loop.neutral = true

/-- Null or connecting. -/
def View.Early (v : View) : Prop := v.state = .null ∨ v.state = .connecting

/-- A session is blank until it is connected; its output is encrypted and its input decrypted with
the payload crypto that it has. -/
def View.Confined (prims : ProofPrimitives) (heard : DataPayload → Prop) (v : View) : Prop :=
  (v.Early → v.Blank) ∧
  (∀ type payload, .data type payload ∈ v.sent → payload = .eos ∨
    ∃ stream : OutputStream, stream.dataType = type ∧ Sealed prims v.payloadCrypto stream payload) ∧
  ∀ bytes, some bytes ∈ v.input → Unsealed prims heard v.payloadCrypto bytes

variable {prims : ProofPrimitives} {heard : DataPayload → Prop}

variable {v w : View} {message : Message} {index : Nat} {stream : OutputStream}

/-- A message that is no output is handed over. -/
theorem View.Confined.append (inv : v.Confined prims heard) (other : message.isData = false)
    (blank : w.Early → w.Blank) (sent : w.sent = v.sent ++ [message])
    (crypto : w.payloadCrypto = v.payloadCrypto) (input : w.input = v.input) :
    w.Confined prims heard := by
  refine ⟨blank, fun type payload mem => ?_, fun bytes mem => ?_⟩
  · rw [sent] at mem
    rw [crypto]
    rcases mem_append.mp mem with old | new
    · exact inv.2.1 type payload old
    · rw [← mem_singleton.mp new] at other
      cases other
  · rw [input] at mem
    rw [crypto]
    exact inv.2.2 bytes mem

theorem View.Blank.append {loop : Loop} (blank : v.Blank) (other : message.isData = false)
    (outside : loop.neutral = true) :
    View.Blank { v with sends := v.sends ++ [loop], sent := v.sent ++ [message] } := by
  obtain ⟨quiet, none, idle, neutral⟩ := blank
  refine ⟨fun candidate mem => ?_, none, idle, fun candidate mem => ?_⟩
  · rcases mem_append.mp mem with old | new
    · exact quiet candidate old
    · rw [mem_singleton.mp new]
      exact other
  · rcases mem_append.mp mem with old | new
    · exact neutral candidate old
    · rw [mem_singleton.mp new]
      exact outside

theorem View.Early.false_of_connected (early : v.Early) (connected : v.state = .connected) :
    False := by
  rcases early with state | state
  · cases state.symm.trans connected
  · cases state.symm.trans connected

/-- A session that reads the child is not blank. -/
theorem not_early_of_read (inv : v.Confined prims heard)
    (taken : v.outputReads[index]? = some stream) : ¬ v.Early := by
  intro early
  rw [(inv.1 early).2.2.1] at taken
  cases taken

theorem not_early_of_send (inv : v.Confined prims heard)
    (taken : v.sends[index]? = some stream.loop) : ¬ v.Early := by
  intro early
  have neutral := (inv.1 early).2.2.2 _ (mem_of_getElem? taken)
  cases stream with
  | stdOut | stdErr => cases neutral

theorem Effect.confined (effect : Effect prims heard v w) (inv : v.Confined prims heard) :
    w.Confined prims heard := by
  cases effect with
  | dropSend index =>
    refine ⟨fun early => ?_, inv.2⟩
    obtain ⟨quiet, none, idle, neutral⟩ := inv.1 early
    exact ⟨quiet, none, idle, fun loop mem => neutral loop (mem_of_mem_eraseIdx mem)⟩
  | dropRead index =>
    refine ⟨fun early => ?_, inv.2⟩
    obtain ⟨quiet, none, idle, neutral⟩ := inv.1 early
    refine ⟨quiet, none, ?_, neutral⟩
    change v.outputReads.eraseIdx index = []
    rw [idle]
    rfl
  | begin null => exact ⟨fun _ => inv.1 (.inl null), inv.2⟩
  | close running | spoil activeStreams running => exact ⟨(fun early => nomatch early), inv.2⟩
  | announce running plain outside =>
    rename_i message loop
    have other : message.isData = false := by
      cases message with
      | data type payload => cases plain
      | _ => rfl
    exact inv.append other (fun early => (inv.1 early).append other outside) rfl rfl rfl
  | report errorCode running =>
    exact inv.append (View.isData_errorMessage errorCode).1 (fun early => nomatch early) rfl rfl rfl
  | finish code connected drained =>
    exact inv.append rfl (fun early => nomatch early) rfl rfl rfl
  | prepare backend connecting | complete errorCode handler => exact inv
  | key payloadCrypto connecting =>
    -- Before the session is connected there is nothing to encrypt or decrypt.
    have blank := inv.1 (.inr connecting)
    refine ⟨fun _ => blank, fun type payload mem => ?_, fun bytes mem => ?_⟩
    · cases blank.1 _ mem
    · rw [blank.2.1] at mem
      cases mem
  | opened connecting => exact inv.append rfl (fun early => nomatch early) rfl rfl rfl
  | resume taken =>
    have late := not_early_of_send inv taken
    exact ⟨fun early => absurd early late, inv.2⟩
  | output running taken encrypted =>
    have late := not_early_of_read inv taken
    refine ⟨fun early => absurd early late, fun type payload mem => ?_, inv.2.2⟩
    rcases mem_append.mp mem with old | new
    · exact inv.2.1 type payload old
    · cases mem_singleton.mp new
      exact .inr ⟨_, rfl, encrypted⟩
  | endStream running taken =>
    have late := not_early_of_read inv taken
    refine ⟨fun early => absurd early late, fun type payload mem => ?_, inv.2.2⟩
    rcases mem_append.mp mem with old | new
    · exact inv.2.1 type payload old
    · cases mem_singleton.mp new
      exact .inl rfl
  | write connected decrypted =>
    refine ⟨fun early => (View.Early.false_of_connected early connected).elim, inv.2.1,
      fun bytes mem => ?_⟩
    rcases mem_append.mp mem with old | new
    · exact inv.2.2 bytes old
    · exact decrypted bytes (mem_singleton.mp new).symm

/-- The payloads that a list of events brings. -/
def Session.heardIn (events : List (Event × World)) (payload : DataPayload) : Prop :=
  ∃ input ∈ events, hears input.1 payload

theorem confined_of_exec {settings : Settings} {events : List (Event × World)} {s : Session}
    (executed : exec (Session.step prims settings) {} events = some s) :
    s.view.Confined prims (Session.heardIn events) := by
  have run : Run (Session.step prims settings) (fun _ input => ∀ payload,
      Session.hears input.1 payload → Session.heardIn events payload) {} s := by
    refine .of_exec (goodAlong_of_forall _ ?_ _) executed
    intro input mem _ payload hears
    exact ⟨input, mem, hears⟩
  refine Session.view_invariant_of_run run ⟨fun _ => ?_, ?_, ?_⟩ Effect.confined id
  · exact ⟨fun _ mem => absurd mem not_mem_nil, rfl, rfl,
      fun _ mem => absurd mem not_mem_nil⟩
  · exact fun _ _ mem => absurd mem not_mem_nil
  · exact fun _ mem => absurd mem not_mem_nil

end Server

/-! ## The client -/

namespace Client

/-- A payload that is neither encrypted nor the end of a stream. -/
def isPlain : DataPayload → Bool
  | .notSet | .data _ => true
  | .eos | .encryptedData _ => false

/-- A peer that sends no plaintext for the local output to a client with a payload crypto. -/
def encryptedOutput (settings : Settings) : Gate := fun _ message =>
  match message with
  | .data type payload => settings.payloadCrypto.isSome = true →
      (Impl.localStream type).isSome = true → isPlain payload = false
  | _ => True

instance encryptedOutput.decidable (settings : Settings) (sent : List Message) :
    (message : Incoming) → Decidable (encryptedOutput settings sent message)
  | .data _ _ => inferInstanceAs (Decidable (_ = true → _ = true → _ = false))
  | .serverHello _ | .ack _ | .error | .protocolError _ | .close _ | .heartbeat | .other =>
    isTrue trivial

/-- The payloads that the client has read for a local stream. -/
def Impl.receivedFor (s : Impl) (stream : StdfdType) (payload : DataPayload) : Prop :=
  ∃ type, localStream type = some stream ∧ (type, payload) ∈ s.received

/-- The local input that was sent is encrypted, and what is written to the local output was
decrypted. -/
def Impl.Confined (prims : ProofPrimitives) (crypto : PayloadCrypto) (s : Impl) : Prop :=
  (∀ type payload, .data type payload ∈ s.sent →
    type = .stdIn ∧ (payload = .eos ∨ Encrypted prims crypto .stdIn payload)) ∧
  (∀ stream bytes, (stream, bytes) ∈ s.writes →
    Decrypted prims (s.receivedFor stream) crypto stream.payloadStream bytes) ∧
  ∀ stream piece, (stream, piece) ∈ s.written → ∃ bytes,
    Decrypted prims (s.receivedFor stream) crypto stream.payloadStream bytes ∧ piece <+: bytes

variable {prims : ProofPrimitives} {settings : Settings} {crypto : PayloadCrypto}

variable {type : DataType} {payload : DataPayload} {s : Impl}

theorem encrypted_of_typed (keyed : settings.payloadCrypto = some crypto)
    (typed : Typed prims settings (.data type payload)) :
    type = .stdIn ∧ (payload = .eos ∨ Encrypted prims crypto .stdIn payload) := by
  cases typed with
  | data bytes world errorCode made succeeded =>
    simp only [Impl.inputPayload, keyed, Prod.mk.injEq] at made
    obtain ⟨rfl, rfl⟩ := made
    exact ⟨rfl, .inr ⟨bytes, world.payloadNonce, _, _, rfl, succeeded, rfl⟩⟩
  | eos => exact ⟨rfl, .inl rfl⟩

theorem decrypted_of_content (keyed : settings.payloadCrypto = some crypto) {stream : StdfdType}
    {bytes : Bytes} (passes : (Impl.localStream type).isSome = true → isPlain payload = false)
    (mem : (type, payload) ∈ s.received)
    (full : content prims settings (type, payload) = some (stream, bytes)) :
    Decrypted prims (s.receivedFor stream) crypto stream.payloadStream bytes := by
  cases known : Impl.localStream type with
  | none =>
    simp only [content, known] at full
    cases full
  | some local_ =>
    have sealed_ := passes (known ▸ rfl)
    cases payload with
    | notSet | data bytes => cases sealed_
    | eos =>
      simp only [content, known] at full
      cases full
    | encryptedData encrypted =>
      simp only [content, known, keyed] at full
      obtain ⟨succeeded, ⟨⟩⟩ := Option.ite_none_left_eq_some.mp full
      exact ⟨encrypted, _, ⟨type, known, mem⟩, Bool.eq_false_iff.mpr succeeded, rfl⟩

/-- A message that carries no local input is handed over. -/
theorem Impl.Confined.append {message : Message} {handler : SendHandler}
    (inv : s.Confined prims crypto) (other : ∀ type payload, message = .data type payload →
      type = .stdIn ∧ (payload = .eos ∨ Encrypted prims crypto .stdIn payload)) :
    (s.asyncSend message handler).Confined prims crypto := by
  refine ⟨fun type payload mem => ?_, inv.2⟩
  rcases mem_append.mp mem with old | new
  · exact inv.1 type payload old
  · exact other type payload (mem_singleton.mp new).symm

theorem Move.confined (keyed : settings.payloadCrypto = some crypto) {t : Impl}
    (move : Move prims settings (encryptedOutput settings) s t) (inv : s.Confined prims crypto) :
    t.Confined prims crypto := by
  cases move with
  | answer hello value world reads =>
    exact Impl.Confined.append (s := { s with serverHello := some hello, reads }) inv nofun
  | open_ value world connects handshakes reads =>
    exact Impl.Confined.append (s := { s with connects, handshakes, reads }) inv nofun
  | announce handler up plain =>
    refine inv.append fun type payload same => ?_
    subst same
    rcases plain with plain | plain <;> cases plain
  | type loop connected typed =>
    refine inv.append fun type payload same => ?_
    subst same
    exact encrypted_of_typed keyed typed
  | deliver reads running passes bounded =>
    rename_i type payload
    have kept : ∀ stream earlier, s.receivedFor stream earlier →
        ∃ candidate, Impl.localStream candidate = some stream ∧
          (candidate, earlier) ∈ s.received ++ [(type, payload)] := by
      rintro stream earlier ⟨candidate, known, mem⟩
      exact ⟨candidate, known, mem_append_left _ mem⟩
    refine ⟨inv.1, fun stream bytes mem => ?_, fun stream piece mem => ?_⟩
    · rcases mem_append.mp mem with old | new
      · exact (inv.2.1 stream bytes old).mono (kept stream)
      · exact decrypted_of_content keyed (passes (keyed ▸ rfl))
          (mem_append_right _ (mem_singleton.mpr rfl)) (Option.mem_toList.mp new)
    · obtain ⟨bytes, decrypted, isPrefix⟩ := inv.2.2 stream piece mem
      exact ⟨bytes, decrypted.mono (kept stream), isPrefix⟩
  | wrote count reads taken spent =>
    refine ⟨inv.1, fun stream bytes mem => inv.2.1 stream bytes (mem_of_mem_eraseIdx mem),
      fun stream piece mem => ?_⟩
    rcases mem_append.mp mem with old | new
    · exact inv.2.2 stream piece old
    · cases mem_singleton.mp new
      have decrypted := inv.2.1 _ _ (mem_of_getElem? taken)
      exact ⟨_, decrypted, take_prefix _ _⟩
  | barrier cancelled =>
    obtain ⟨handler, completions, same⟩ := onQueueCancelled_frame
      { s with queueCancels := s.queueCancels - 1 }
    rw [same]
    exact inv
  | _ => exact inv

end Client

/-- A session with a payload crypto sends no `Data` but ends of streams and what it encrypted for
the stream, and writes to its child only what it decrypted from payloads that it received. The same
holds of a client with a payload crypto, in every run in which it reads no plaintext for its local
output. -/
theorem no_plaintext (prims : ProofPrimitives) :
    (∀ (settings : Server.Settings) (events : List (Server.Event × Server.World))
        (s : Server.Session) (crypto : PayloadCrypto),
      exec (Server.Session.step prims settings) {} events = some s → s.payloadCrypto = some crypto →
        (∀ type payload, .data type payload ∈ s.sent → payload = .eos ∨
          ∃ stream : Server.OutputStream, stream.dataType = type ∧
            Encrypted prims crypto stream.payloadStream payload) ∧
        ∀ bytes, some bytes ∈ s.input →
          Decrypted prims (Server.Session.heardIn events) crypto .stdIn bytes) ∧
    ∀ (settings : Client.Settings) (s : Client.Impl) (crypto : PayloadCrypto),
      settings.payloadCrypto = some crypto →
      Run (Client.Impl.step prims settings)
        (Client.Impl.Passes (Client.encryptedOutput settings)) {} s →
        (∀ type payload, .data type payload ∈ s.sent →
          type = .stdIn ∧ (payload = .eos ∨ Encrypted prims crypto .stdIn payload)) ∧
        (∀ stream bytes, (stream, bytes) ∈ s.writes →
          Decrypted prims (s.receivedFor stream) crypto stream.payloadStream bytes) ∧
        ∀ stream piece, (stream, piece) ∈ s.written → ∃ bytes,
          Decrypted prims (s.receivedFor stream) crypto stream.payloadStream bytes ∧
            piece <+: bytes := by
  constructor
  · intro settings events s crypto executed keyed
    obtain ⟨-, output, input⟩ := Server.confined_of_exec executed
    refine ⟨fun type payload mem => ?_, fun bytes mem => input bytes mem crypto keyed⟩
    rcases output type payload mem with eos | ⟨stream, same, encrypted⟩
    · exact .inl eos
    · refine .inr ⟨stream, same, ?_⟩
      rw [Server.Sealed.eq_def] at encrypted
      change s.view.payloadCrypto = some crypto at keyed
      rw [keyed] at encrypted
      exact encrypted
  · intro settings s crypto keyed run
    refine Client.Impl.move_invariant run ⟨?_, ?_, ?_⟩ (Client.Move.confined keyed)
    · exact fun _ _ mem => absurd mem not_mem_nil
    · exact fun _ _ mem => absurd mem not_mem_nil
    · exact fun _ _ mem => absurd mem not_mem_nil

/-- The payload crypto of both ends. -/
def sharedCrypto : PayloadCrypto :=
  ⟨.aes256Gcm, List.replicate 32 7, List.replicate 16 7, [], .hpkeX25519HkdfSha256Aes256Gcm, []⟩

/-- What either end sends for a text. -/
def sealedText (stream : PayloadStream) (text : Bytes) : DataPayload :=
  .encryptedData (sharedCrypto.encrypt Server.sampleProofPrims.toPrimitives
    (some (List.replicate 12 3)) stream text).1

/-- The client types a line, and the child answers. -/
def encryptedSessionRun : List (Server.Event × Server.World) :=
  let world := { Server.sampleWorld with payloadNonce := some (List.replicate 12 3) }
  [(.run, Server.sampleWorld), Server.sampleOpened,
    (.received .none (some (.data .stdIn (sealedText .stdIn [108, 115]))), world),
    (.outputRead 0 (.data [104, 105]), world)]

/-- The session at the end of the run. -/
def encryptedSession : Server.Session :=
  (exec (Server.Session.step Server.sampleProofPrims Server.sampleSettings) {}
    encryptedSessionRun).getD {}

/-- A client that shares the payload crypto. -/
def keyedClient : Client.Settings :=
  { Client.Impl.knownServer with
    payloadCrypto := some sharedCrypto, endpointIdentity := some Server.sampleIdentity }

/-- The server says hello and acknowledges, sends output, and the client writes it. -/
def outputRun (payload : DataPayload) : List (Client.Event × Client.World) :=
  [(.run, {}), (.resolved .none, {}), (.connected .none, {}),
    (.received .none (some (.serverHello Client.Impl.signedHello)), {}),
    (.received .none (some (.ack [])), {}), (.received .none (some (.data .stdOut payload)), {}),
    (.written 0 2 .none, {})]

/-- The client after output. -/
def outputClient (payload : DataPayload) : Client.Impl :=
  (exec (Client.Impl.step Server.sampleProofPrims keyedClient) {} (outputRun payload)).getD {}

theorem bothEnds_encrypted :
    (encryptedSession.input = [some [108, 115]] ∧
      Decrypted Server.sampleProofPrims (Server.Session.heardIn encryptedSessionRun) sharedCrypto
        .stdIn [108, 115] ∧
      .data .stdOut (sealedText .stdOut [104, 105]) ∈ encryptedSession.sent) ∧
    ∃ bytes, Decrypted Server.sampleProofPrims
        ((outputClient (sealedText .stdOut [104, 105])).receivedFor .stdOut) sharedCrypto .stdOut
        bytes ∧ [104, 105] <+: bytes := by
  obtain ⟨session, client⟩ := no_plaintext Server.sampleProofPrims
  have executed : exec (Server.Session.step Server.sampleProofPrims Server.sampleSettings) {}
      encryptedSessionRun = some encryptedSession := by
    rw [encryptedSession, ← Option.get_eq_getD]
    exact (Option.some_get (by decide +kernel)).symm
  have input : encryptedSession.input = [some [108, 115]] := by decide +kernel
  have run : Run (Client.Impl.step Server.sampleProofPrims keyedClient)
      (Client.Impl.Passes (Client.encryptedOutput keyedClient)) {}
      (outputClient (sealedText .stdOut [104, 105])) :=
    .of_exec_getD _ (by decide +kernel) (by decide +kernel)
  refine ⟨⟨input, ?_, by decide +kernel⟩, ?_⟩
  · refine (session Server.sampleSettings _ _ sharedCrypto executed (by decide +kernel)).2 _ ?_
    rw [input]
    exact mem_singleton.mpr rfl
  · refine (client keyedClient _ sharedCrypto rfl run).2.2 .stdOut _ ?_
    have written : (outputClient (sealedText .stdOut [104, 105])).written =
        [(.stdOut, [104, 105])] := by decide +kernel
    rw [written]
    exact mem_singleton.mpr rfl

set_option maxRecDepth 4000 in
/-- The client writes output that was never encrypted. -/
theorem plainOutput_written :
    ∃ s, Reaches (Client.Impl.step Server.sampleProofPrims keyedClient) {} s ∧
      s.written = [(.stdOut, [104, 105])] ∧ ∀ bytes, ¬ Decrypted Server.sampleProofPrims
        (s.receivedFor .stdOut) sharedCrypto .stdOut bytes := by
  refine ⟨outputClient (.data [104, 105]), .of_exec_getD _ (by decide), by decide, ?_⟩
  rintro bytes ⟨encrypted, errorCode, ⟨type, -, mem⟩, -⟩
  have received : (outputClient (.data [104, 105])).received = [(.stdOut, .data [104, 105])] := by
    decide
  rw [received] at mem
  cases mem_singleton.mp mem

end Rstream.Webtty
