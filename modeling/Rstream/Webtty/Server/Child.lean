import Rstream.Webtty.Server.Output
import Rstream.Webtty.Server.Upgrade

/-!
# A session and its child

The child of a session with pipes writes to its two outputs, closes them and its input, and
exits; it leaves no descendants, so an exit closes all it holds. A read of an output yields
what is in its pipe and ends when the pipe is empty and closed, `recover_exit` answers what
the child did, and a write to the input of the child fails only when there is no reader or
when the session has closed it.
-/

namespace Rstream.Webtty.Server

open IoRstrm (ErrorCode)

def brokenPipe : ErrorCode := ⟨32, .system⟩

/-- The child of a session. -/
structure Child where
  /-- The child reads its input. -/
  stdinReader : Bool := true
  /-- The outputs the child has not closed. -/
  outputs : OutputStream → Bool := fun _ => true
  /-- What the child wrote and the session has not read. -/
  pipes : OutputStream → Bytes := fun _ => []
  /-- What the child wrote. -/
  wrote : OutputStream → Bytes := fun _ => []
  exitCode : Option Int := none

namespace Child

def writes (stream : OutputStream) (bytes : Bytes) (c : Child) : Child :=
  { c with
    pipes := Function.update c.pipes stream (c.pipes stream ++ bytes)
    wrote := Function.update c.wrote stream (c.wrote stream ++ bytes) }

def closes (stream : OutputStream) (c : Child) : Child :=
  { c with outputs := Function.update c.outputs stream false }

def exits (code : Int) (c : Child) : Child :=
  { c with stdinReader := false, outputs := fun _ => false, exitCode := some code }

/-- The session reads bytes of an output. -/
def isRead (stream : OutputStream) (bytes : Bytes) (c : Child) : Child :=
  { c with pipes := Function.update c.pipes stream ((c.pipes stream).drop bytes.length) }

/-- `recover_exit` finds the exit of the child, at once or later. -/
def Answers (c : Child) (world : World) : Prop :=
  world.recoverExit.2 = .none ∧ (world.recoverExit.1 = true → c.exitCode = some world.exitCode)

instance (c : Child) (world : World) : Decidable (c.Answers world) :=
  inferInstanceAs (Decidable (_ ∧ _))

/-- The pipes yield the result of a read. -/
def Yields (c : Child) (stream : OutputStream) : OutputRead → Prop
  | .data bytes => bytes <+: c.pipes stream
  | .endOfStream => c.pipes stream = [] ∧ c.outputs stream = false
  | .ioError _ | .failed _ => False

instance (c : Child) (stream : OutputStream) : (result : OutputRead) →
    Decidable (c.Yields stream result)
  | .data bytes => inferInstanceAs (Decidable (bytes <+: c.pipes stream))
  | .endOfStream => inferInstanceAs (Decidable (_ ∧ _))
  | .ioError _ => inferInstanceAs (Decidable False)
  | .failed _ => inferInstanceAs (Decidable False)

end Child

/-- A session and its child. -/
structure Attended where
  session : Session := {}
  child : Child := {}

/-- What the child does, and the handlers of the session. -/
inductive Happening where
  | writes (stream : OutputStream) (bytes : Bytes)
  | closes (stream : OutputStream)
  | closesStdin
  | exits (code : Int)
  | handler (event : Event) (world : World)

namespace Attended

/-- The child does what a completed operation of the session on its pipes needs. -/
def Admits (a : Attended) : Event → Prop
  | .outputRead index result =>
    ∀ stream, a.session.outputReads[index]? = some stream → a.child.Yields stream result
  | .inputWritten errorCode => errorCode.failed = true →
      (errorCode = brokenPipe ∧ a.child.stdinReader = false) ∨ none ∈ a.session.input
  | _ => True

instance (a : Attended) : (event : Event) → Decidable (a.Admits event)
  | .outputRead index result =>
    match found : a.session.outputReads[index]? with
    | none => isTrue fun _ same => nomatch found.symm.trans same
    | some _ => decidable_of_iff (a.child.Yields _ result)
        ⟨fun yields _ same => Option.some.inj (found.symm.trans same) ▸ yields,
          fun yields => yields _ found⟩
  | .inputWritten _ => inferInstanceAs (Decidable (_ → _))
  | .run | .cancel | .timer | .heartbeat | .httpRead _ | .httpWritten _ | .websocketAccepted _
  | .websocketClosed | .queueCancelled | .received _ _ | .sent _ _ | .expireChildExit
  | .childExitTimer | .expireTermination | .terminationTimer => inferInstanceAs (Decidable True)

/-- What a read takes from the pipes. -/
def childAfter (a : Attended) : Event → Child
  | .outputRead index (.data bytes) =>
    match a.session.outputReads[index]? with
    | some stream => a.child.isRead stream bytes
    | none => a.child
  | _ => a.child

/-- A step of a session and its child; there is a child once the session has started it. -/
def step (prims : ProofPrimitives) (settings : Settings) (a : Attended) :
    Happening → Option Attended
  | .writes stream bytes =>
    if a.session.child ∧ a.child.exitCode = none ∧ a.child.outputs stream then
      some { a with child := a.child.writes stream bytes }
    else none
  | .closes stream =>
    if a.session.child ∧ a.child.exitCode = none then
      some { a with child := a.child.closes stream }
    else none
  | .closesStdin =>
    if a.session.child ∧ a.child.exitCode = none then
      some { a with child := { a.child with stdinReader := false } }
    else none
  | .exits code =>
    if a.session.child ∧ a.child.exitCode = none then
      some { a with child := a.child.exits code }
    else none
  | .handler event world =>
    if a.child.Answers world ∧ a.Admits event then
      (a.session.step prims settings (event, world)).map fun session =>
        { session, child := a.childAfter event }
    else none

end Attended

/-! ## What is delivered -/

/-- A payload holds bytes of an output, encrypted if the session has a payload crypto. -/
def Carries (prims : ProofPrimitives) (payloadCrypto : Option PayloadCrypto)
    (stream : OutputStream) (payload : DataPayload) (bytes : Bytes) : Prop :=
  match payloadCrypto with
  | none => payload = .data bytes
  | some crypto => ∃ nonce encrypted errorCode, payload = .encryptedData encrypted ∧
      errorCode.failed = false ∧
      crypto.encrypt prims.toPrimitives nonce stream.payloadStream bytes = (encrypted, errorCode)

/-- The payloads of the messages with output of a stream, but its end. -/
def pieces (stream : OutputStream) (sent : List Message) : List DataPayload :=
  sent.filterMap fun
    | .data type payload =>
      if type = stream.dataType ∧ payload ≠ .eos then some payload else none
    | _ => none

/-- The messages with output of a stream hold these bytes. -/
def Holds (prims : ProofPrimitives) (payloadCrypto : Option PayloadCrypto)
    (stream : OutputStream) (sent : List Message) (bytes : Bytes) : Prop :=
  ∃ chunks, List.Forall₂ (Carries prims payloadCrypto stream) (pieces stream sent) chunks ∧
    chunks.flatten = bytes

/-- A `Close` with the exit code of the child was handed to the queue, after messages that hold
exactly what the child wrote. -/
def Delivered (prims : ProofPrimitives) (a : Attended) : Prop :=
  ∃ before code after, a.session.sent = before ++ .close code :: after ∧
    a.child.exitCode = some code ∧
    ∀ stream, Holds prims a.session.payloadCrypto stream before (a.child.wrote stream)

/-! ### The pieces of an output -/

section

variable {prims : ProofPrimitives} {payloadCrypto : Option PayloadCrypto}
  {stream : OutputStream} {sent : List Message} {bytes : Bytes}

theorem pieces_append (stream : OutputStream) (sent later : List Message) :
    pieces stream (sent ++ later) = pieces stream sent ++ pieces stream later :=
  List.filterMap_append

variable {message : Message} {payload : DataPayload}

theorem Holds.snoc (holds : Holds prims payloadCrypto stream sent bytes)
    (other : pieces stream [message] = []) :
    Holds prims payloadCrypto stream (sent ++ [message]) bytes := by
  obtain ⟨chunks, carried, flat⟩ := holds
  refine ⟨chunks, ?_, flat⟩
  rw [pieces_append, other, List.append_nil]
  exact carried

/-- One more piece. -/
theorem Holds.piece (holds : Holds prims payloadCrypto stream sent bytes) {chunk : Bytes}
    (piece : pieces stream [message] = [payload])
    (carries : Carries prims payloadCrypto stream payload chunk) :
    Holds prims payloadCrypto stream (sent ++ [message]) (bytes ++ chunk) := by
  obtain ⟨chunks, carried, flat⟩ := holds
  refine ⟨chunks ++ [chunk], ?_, ?_⟩
  · rw [pieces_append, piece]
    exact List.rel_append carried (.cons carries .nil)
  · rw [List.flatten_append, flat, List.flatten_singleton]

/-- Before the first output there is nothing to hold. -/
theorem holds_nil (noData : ∀ message ∈ sent, message.isData = false) :
    Holds prims payloadCrypto stream sent [] := by
  have none : pieces stream sent = [] := by
    apply List.filterMap_eq_nil_iff.mpr
    intro message mem
    have plain := noData message mem
    cases message with
    | data type payload => cases plain
    | _ => rfl
  refine ⟨[], ?_, rfl⟩
  rw [none]
  exact .nil

theorem pieces_of_not_isData (plain : message.isData = false) : pieces stream [message] = [] := by
  cases message with
  | data type payload => cases plain
  | _ => rfl

theorem pieces_eos (stream other : OutputStream) : pieces stream [other.eos] = [] := by
  simp [pieces, OutputStream.eos]

theorem pieces_other {other : OutputStream} (apart : other ≠ stream) (payload : DataPayload) :
    pieces stream [.data other.dataType payload] = [] := by
  have types : other.dataType ≠ stream.dataType :=
    fun same => apart (OutputStream.dataType_injective same)
  simp [pieces, types]

theorem carries_ne_eos (carries : Carries prims payloadCrypto stream payload bytes) :
    payload ≠ .eos := by
  rintro rfl
  rw [Carries.eq_def] at carries
  split at carries
  · cases carries
  · obtain ⟨_, _, _, other, -⟩ := carries
    cases other

theorem pieces_same (piece : payload ≠ .eos) :
    pieces stream [.data stream.dataType payload] = [payload] := by
  simp [pieces, piece]

/-- What `on_read_stdfd` makes of the output holds it. -/
theorem carries_outputPayload {world : World} {s : Session}
    (succeeded : (s.outputPayload prims world stream bytes).2.failed = false) :
    Carries prims s.payloadCrypto stream (s.outputPayload prims world stream bytes).1 bytes := by
  rw [Session.outputPayload] at succeeded ⊢
  rw [Carries.eq_def]
  cases crypto : s.payloadCrypto with
  | none => rfl
  | some crypto' =>
    rw [crypto] at succeeded
    exact ⟨world.payloadNonce, _, _, rfl, succeeded, rfl⟩

end

end Rstream.Webtty.Server
