import Rstream.Library.Counting
import Rstream.IoRstrm.Socket.State

/-!
# What a step of the socket does

`WellFormed` is what every reachable state of the socket satisfies: the socket is
connecting exactly when `m_connect_op` is set, that operation has exactly one step in
flight and no other operation has one, and an operation that is not completed is the
current one or waits for its turn on the strand.

From a well-formed state a step does one of the things that `Effect` lists
(`step_cases`).
-/

namespace Rstream.IoRstrm

open List
open Function (update update_eq_self update_idem update_self)

/-- The step that follows. -/
def ConnectStep.next : ConnectStep → Option ConnectStep
  | .resolveHost => some .connect
  | .connect => some .handshake
  | .handshake => none

/-- The work starts a connect operation. -/
def SocketWork.connects (op : Nat) : SocketWork → Bool
  | .asyncConnectInternal _ _ other => op = other
  | _ => false

/-- The output is the invocation of the handler of a connect operation. -/
def SocketOutput.completes (op : Nat) : SocketOutput → Bool
  | .completed other _ => op = other
  | _ => false

/-- The output is a close or a cancellation of an operation. -/
def SocketOutput.stops (op : Nat) : SocketOutput → Bool
  | .closing current => current = some op
  | .cancelling other => op = other
  | _ => false

namespace Socket

/-- The step whose completion an event is. -/
def Event.delivers : Event → Option (ConnectStep × Nat)
  | .resolved op _ _ => some (.resolveHost, op)
  | .connected op _ => some (.connect, op)
  | .handshook op _ => some (.handshake, op)
  | _ => none

variable {s t : Socket}

/-- How often the handler of a connect operation was invoked. -/
def invocations (s : Socket) (op : Nat) : Nat := s.log.countP (SocketOutput.completes op)

/-- How often a connect operation waits for its turn. -/
def queued (s : Socket) (op : Nat) : Nat := s.tasks.countP (SocketWork.connects op)

/-- A close or a cancellation has run for an operation. -/
def Stopped (s : Socket) (op : Nat) : Prop := s.log.any (SocketOutput.stops op) = true

/-- The account of one operation. -/
structure Sound (s : Socket) (op : Nat) : Prop where
  unused : s.nextOp ≤ op → s.ops op = {}
  invoked : s.invocations op = if (s.ops op).completed then 1 else 0
  once : s.queued op ≤ 1
  ready : 0 < s.queued op → op < s.nextOp ∧ s.connectOp ≠ some op ∧
    ((s.ops op).completed = true → (s.ops op).cancelled = true)
  current : s.connectOp = some op →
    op < s.nextOp ∧ (s.ops op).completed = false ∧ (s.ops op).started = true
  awaited : op < s.nextOp → (s.ops op).completed = false →
    s.connectOp = some op ∨ 0 < s.queued op
  cancels : .cancelConnect op ∈ s.tasks → (s.ops op).cancelled = true
  refused : (s.ops op).initiationError.failed = true → (s.ops op).reserved = false
  stopped : (s.ops op).completed = false → s.Stopped op →
    s.connectOp = some op ∧ (s.ops op).terminalError = .operationAborted

structure WellFormed (s : Socket) : Prop where
  sound : ∀ op, s.Sound op
  connecting : s.state = .connecting ↔ s.connectOp.isSome = true
  single : ∀ op, s.connectOp = some op → ∃ step, s.inFlight = [(step, op)]
  idle : s.connectOp = none → s.inFlight = []

/-! ## Effects -/

/-- The work a step takes from the strand and the history that it adds. -/
def take (index : Nat) (outputs : List SocketOutput) (s : Socket) : Socket :=
  { s with tasks := s.tasks.eraseIdx index, log := s.log ++ outputs }

/-- An operation that is not the current one is completed. -/
def refuse (op : Nat) (errorCode : ErrorCode) (s : Socket) : Socket :=
  (s.releaseConnectReservation op).completeConnect op errorCode

/-- The current operation begins to connect. -/
def begin (type : SocketType) (endpoint : Endpoint) (op : Nat) (s : Socket) : Socket :=
  { s with type, endpoint, connectOp := some op, state := .connecting }.doResolveHost op

/-- The current operation is to end when its step completes. -/
def stop (op : Nat) (s : Socket) : Socket :=
  { s with
    ops := update s.ops op { s.ops op with terminalError := .operationAborted }
    endpoint := {}
    isStateNonNull := false
    remoteEndpoint := none }

/-- The socket is without a connection. -/
def hangUp (s : Socket) : Socket :=
  { s with state := .null, endpoint := {}, isStateNonNull := false, remoteEndpoint := none }

/-- The current operation is over. -/
def finish (op : Nat) (s : Socket) : Socket :=
  { s with
    connectOp := none
    inFlight := []
    ops := update s.ops op { s.ops op with started := false, completed := true } }

/-- What a step of a well-formed socket does. -/
inductive Effect (s : Socket) : Event → Socket → Prop where
  | settings (settings : SettingsSocket) : Effect s (.settings settings) (s.setSettings settings)
  | asyncConnect (type : SocketType) (endpoint : Endpoint) :
      Effect s (.asyncConnect type endpoint) (s.asyncConnect type endpoint)
  | close : Effect s .close s.close
  | cancel {op : Nat} (known : op < s.nextOp) : Effect s (.cancel op) (s.cancel op)
  /-- A close without a connection, or a cancellation that comes too late. -/
  | ignored {index : Nat} {work : SocketWork} {output : SocketOutput}
      (taken : s.tasks[index]? = some work)
      (late : work = .closeInternal ∧ output = .closing none ∧ s.state = .null ∨
        ∃ op, work = .cancelConnect op ∧ output = .cancelling op ∧
          (s.ops op).completed = true) :
      Effect s (.run index) (s.take index [output])
  /-- An operation is completed with an error before it has begun. -/
  | refused {index op : Nat} {work : SocketWork} {outputs : List SocketOutput}
      {errorCode : ErrorCode} (taken : s.tasks[index]? = some work)
      (own : (∃ type endpoint, work = .asyncConnectInternal type endpoint op ∧ outputs = []) ∨
        work = .cancelConnect op ∧ outputs = [.cancelling op] ∧ (s.ops op).completed = false)
      (absent : s.connectOp ≠ some op) (failed : errorCode.failed = true) :
      Effect s (.run index) ((s.take index outputs).refuse op errorCode)
  | begun {index op : Nat} {type : SocketType} {endpoint : Endpoint}
      (taken : s.tasks[index]? = some (.asyncConnectInternal type endpoint op))
      (pending : (s.ops op).completed = false) (reserved : (s.ops op).reserved = true)
      (null : s.state = .null) :
      Effect s (.run index) ((s.take index []).begin type endpoint op)
  | stopped {index op : Nat} {work : SocketWork} {output : SocketOutput}
      (taken : s.tasks[index]? = some work)
      (own : work = .closeInternal ∧ output = .closing (some op) ∨
        work = .cancelConnect op ∧ output = .cancelling op)
      (current : s.connectOp = some op) :
      Effect s (.run index) ((s.take index [output, .closeTransport]).stop op)
  | closed {index : Nat} (taken : s.tasks[index]? = some .closeInternal)
      (connected : s.state = .connected) :
      Effect s (.run index) (s.take index [.closing none, .closeTransport]).hangUp
  | proceeded {event : Event} {op : Nat} {step next : ConnectStep} {outputs : List SocketOutput}
      (delivered : event.delivers = some (step, op)) (current : s.connectOp = some op)
      (inFlight : s.inFlight = [(step, op)]) (follows : step.next = some next)
      (clear : (s.ops op).terminalError.failed = false)
      (quiet : ∀ output ∈ outputs, ∃ handshake, output = .handshake op handshake) :
      Effect s event { s with inFlight := [(next, op)], log := s.log ++ outputs }
  | failed {event : Event} {op : Nat} {step : ConnectStep} {errorCode : ErrorCode}
      (delivered : event.delivers = some (step, op)) (current : s.connectOp = some op)
      (inFlight : s.inFlight = [(step, op)]) (failed : errorCode.failed = true)
      (recorded : (s.ops op).terminalError.failed = true →
        errorCode = (s.ops op).terminalError) :
      Effect s event
        { (s.finish op).hangUp with log := s.log ++ [.completed op errorCode, .closeTransport] }
  | connected {op : Nat} {errorCode : ErrorCode} (current : s.connectOp = some op)
      (inFlight : s.inFlight = [(.handshake, op)]) (succeeded : errorCode.failed = false)
      (clear : (s.ops op).terminalError.failed = false) (endpoint : Endpoint) :
      Effect s (.handshook op errorCode)
        { s.finish op with
          state := .connected
          endpoint := endpoint
          remoteEndpoint := some endpoint
          log := s.log ++ [.completed op .none] }

/-! ## Completing and closing -/

theorem completeConnect_of_completed {op : Nat} (completed : (s.ops op).completed = true)
    (errorCode : ErrorCode) : s.completeConnect op errorCode = s :=
  if_pos completed

theorem completeConnect_of_pending {op : Nat} (pending : (s.ops op).completed = false)
    (errorCode : ErrorCode) :
    s.completeConnect op errorCode =
      { s with
        ops := update s.ops op { s.ops op with completed := true }
        log := s.log ++ [.completed op errorCode]
        connectOp := if s.connectOp = some op then none else s.connectOp } :=
  if_neg (by rw [pending]; exact Bool.false_ne_true)

/-- `on_close` while a step of the current operation is in flight. -/
theorem onClose_of_started {op : Nat} (current : s.connectOp = some op)
    (started : (s.ops op).started = true) (errorCode : ErrorCode)
    (aborted : errorCode = .none ∨ errorCode = .operationAborted) :
    s.onClose errorCode = { s.stop op with log := s.log ++ [.closeTransport] } := by
  have recorded : (if errorCode.failed = true then errorCode else .operationAborted) =
      ErrorCode.operationAborted := by
    rcases aborted with rfl | rfl <;> rfl
  rw [onClose, current]
  simp only [started, if_true, recorded]
  rfl

theorem onClose_of_none (absent : s.connectOp = none) (errorCode : ErrorCode) :
    s.onClose errorCode = { s.hangUp with log := s.log ++ [.closeTransport] } := by
  simp only [onClose, absent, hangUp, emit]

/-- The state in which a completion handler decides: no step is in flight. -/
def resting (op : Nat) (s : Socket) : Socket :=
  { s with inFlight := [], ops := update s.ops op { s.ops op with started := false } }

/-- `on_error` for the current operation, in a completion handler. -/
theorem onError_resting {op : Nat} (current : s.connectOp = some op)
    (pending : (s.ops op).completed = false) {errorCode : ErrorCode}
    (failed : errorCode.failed = true) :
    (s.resting op).onError errorCode =
      { (s.finish op).hangUp with
        log := s.log ++ [.completed op errorCode, .closeTransport] } := by
  rw [onError, if_pos failed, onClose]
  simp only [resting, current, update_self, Bool.false_eq_true, if_false, failed, if_true]
  rw [completeConnect_of_pending (by simp only [update_self, pending])]
  simp only [update_self, update_idem, if_true, emit, finish, hangUp,
    append_assoc, singleton_append]

/-- A step that starts in a completion handler. -/
theorem start_resting {op : Nat} (started : (s.ops op).started = true) (next : ConnectStep) :
    (s.resting op).start next op = { s with inFlight := [(next, op)] } := by
  have same : update s.ops op { s.ops op with started := true } = s.ops := by
    rw [← started]
    exact update_eq_self op s.ops
  simp only [start, resting, update_self, update_idem, nil_append]
  rw [same]

theorem onStarted_resting {op : Nat} (current : s.connectOp = some op)
    (pending : (s.ops op).completed = false) :
    ∃ endpoint, (s.resting op).onStarted op =
      { s.finish op with
        state := .connected
        endpoint := endpoint
        remoteEndpoint := some endpoint
        log := s.log ++ [.completed op .none] } := by
  refine ⟨{ s.endpoint with secret := none }, ?_⟩
  rw [onStarted, completeConnect_of_pending (by simp only [resting, update_self, pending])]
  simp only [resting, update_self, update_idem, current, if_true, finish]

/-! ## The cases of a step -/

namespace WellFormed

variable {op index : Nat} {step : ConnectStep} {event : Event}

section

variable (wellFormed : s.WellFormed)

include wellFormed

/-- A step in flight is the only one, and belongs to the current operation. -/
theorem inFlight_eq (mem : (step, op) ∈ s.inFlight) :
    s.connectOp = some op ∧ s.inFlight = [(step, op)] := by
  cases current : s.connectOp with
  | none =>
    rw [wellFormed.idle current] at mem
    cases mem
  | some other =>
    obtain ⟨last, only⟩ := wellFormed.single other current
    rw [only, mem_singleton] at mem
    cases mem
    exact ⟨rfl, only⟩

/-- What the completion handlers have in common, for the step in flight. -/
theorem onStep_eq (current : s.connectOp = some op)
    (proceed : Socket → Socket) :
    ({ s with inFlight := [] } : Socket).onStep op proceed =
      if (s.ops op).terminalError.failed then (s.resting op).onError (s.ops op).terminalError
      else proceed (s.resting op) := by
  have connecting : s.state = .connecting := by
    rw [wellFormed.connecting, current]
    rfl
  rw [onStep]
  change (if ((s.resting op).ops op).terminalError.failed then
      (s.resting op).onError ((s.resting op).ops op).terminalError
    else if s.state ≠ .connecting ∨ s.connectOp ≠ some op then
      (s.resting op).completeConnect op .operationAborted
    else proceed (s.resting op)) = _
  have terminal : ((s.resting op).ops op).terminalError = (s.ops op).terminalError := by
    simp only [resting, update_self]
  rw [terminal, connecting, current, if_neg (by simp : ¬ (SocketState.connecting ≠ .connecting ∨
    some op ≠ some op))]

theorem deliver_cases {proceed : Socket → Socket}
    (delivered : event.delivers = some (step, op))
    (taken : s.deliver step op (onStep op proceed) = some t)
    (proceeds : (s.ops op).terminalError.failed = false → s.connectOp = some op →
      s.inFlight = [(step, op)] → Effect s event (proceed (s.resting op))) : Effect s event t := by
  rw [deliver] at taken
  split at taken
  · rename_i mem
    obtain ⟨current, only⟩ := wellFormed.inFlight_eq mem
    have erased : s.inFlight.erase (step, op) = [] := by
      rw [only, erase_cons_head]
    rw [erased, wellFormed.onStep_eq current proceed] at taken
    have pending := ((wellFormed.sound op).current current).2.1
    cases terminal : (s.ops op).terminalError.failed with
    | true =>
      rw [terminal, if_pos rfl, onError_resting current pending terminal] at taken
      cases taken
      exact .failed delivered current only terminal fun _ => rfl
    | false =>
      rw [terminal, if_neg Bool.false_ne_true] at taken
      cases taken
      exact proceeds terminal current only
  · cases taken

theorem effect_onError {errorCode : ErrorCode}
    (delivered : event.delivers = some (step, op)) (current : s.connectOp = some op)
    (only : s.inFlight = [(step, op)]) (clear : (s.ops op).terminalError.failed = false)
    (failed : errorCode.failed = true) : Effect s event ((s.resting op).onError errorCode) := by
  rw [onError_resting current ((wellFormed.sound op).current current).2.1 failed]
  refine .failed delivered current only failed fun terminal => ?_
  rw [clear] at terminal
  cases terminal

end

theorem queued_pos {work : SocketWork} (taken : s.tasks[index]? = some work)
    (connects : work.connects op = true) : 0 < s.queued op :=
  countP_pos_iff.mpr ⟨work, Library.mem_of_taken taken, connects⟩

theorem take_nil (index : Nat) (s : Socket) :
    s.take index [] = { s with tasks := s.tasks.eraseIdx index } := by
  rw [take, append_nil]

/-- Nothing is released without a reservation or outside `state::null`. -/
theorem releaseConnectReservation_eq (kept : (s.ops op).reserved = false ∨ s.state ≠ .null) :
    s.releaseConnectReservation op = s :=
  if_pos kept

section

variable (wellFormed : s.WellFormed)

include wellFormed

theorem asyncConnectInternal_cases {type : SocketType}
    {endpoint : Endpoint} (taken : s.tasks[index]? = some (.asyncConnectInternal type endpoint op))
    :
    Effect s (.run index) ((s.take index []).asyncConnectInternal type endpoint op) := by
  obtain ⟨-, absent, completed⟩ := (wellFormed.sound op).ready (queued_pos taken (decide_eq_true rfl))
  have refused : ∀ errorCode : ErrorCode, errorCode.failed = true →
      Effect s (.run index) ((s.take index []).refuse op errorCode) :=
    fun errorCode failed => .refused taken (.inl ⟨type, endpoint, rfl, rfl⟩) absent failed
  have unreleased : (s.ops op).reserved = false ∨ s.state ≠ .null → ∀ errorCode,
      (s.take index []).completeConnect op errorCode = (s.take index []).refuse op errorCode := by
    intro kept errorCode
    rw [refuse, releaseConnectReservation_eq (s := s.take index []) kept]
  rw [asyncConnectInternal]
  split
  · exact refused .operationAborted rfl
  · rename_i live
    split
    · rename_i failed
      rw [unreleased (.inl ((wellFormed.sound op).refused failed))]
      exact refused _ failed
    · split
      · rename_i kept
        rw [unreleased kept]
        exact refused _ rfl
      · rename_i admitted
        rw [not_or, Bool.not_eq_false, not_not] at admitted
        have pending : (s.ops op).completed = false := by
          rw [← Bool.not_eq_true]
          exact fun done => live (completed done)
        exact .begun taken pending admitted.1 admitted.2

theorem cancelConnect_cases
    (taken : s.tasks[index]? = some (.cancelConnect op)) :
    Effect s (.run index) ((s.take index [.cancelling op]).cancelConnect op) := by
  have cancelled := (wellFormed.sound op).cancels (Library.mem_of_taken taken)
  rw [cancelConnect]
  split
  · rename_i past
    rcases past with live | completed
    · exact absurd (live.symm.trans cancelled) Bool.false_ne_true
    · exact .ignored taken (.inr ⟨op, rfl, rfl, completed⟩)
  · rename_i pending
    rw [not_or, Bool.not_eq_true ((take _ _ _).ops op).completed] at pending
    split
    · rename_i current
      have started := ((wellFormed.sound op).current current).2.2
      rw [onClose_of_started current started _ (.inr rfl)]
      have effect := Effect.stopped taken (.inr ⟨rfl, rfl⟩) current
      simpa only [take, stop, append_assoc, singleton_append] using effect
    · rename_i absent
      exact .refused taken (.inr ⟨rfl, rfl, pending.2⟩) absent rfl

theorem closeInternal_cases
    (taken : s.tasks[index]? = some .closeInternal) :
    Effect s (.run index) (s.take index [.closing s.connectOp]).closeInternal := by
  rw [closeInternal]
  cases current : s.connectOp with
  | none =>
    split
    · rename_i open'
      have connected : s.state = .connected := by
        cases state : s.state with
        | null => exact absurd state open'
        | connecting =>
          have held := wellFormed.connecting.mp state
          rw [current] at held
          cases held
        | connected => rfl
      rw [onClose_of_none (s := s.take index [.closing none]) current]
      have effect := Effect.closed taken connected
      simpa only [take, hangUp, append_assoc, singleton_append] using effect
    · rename_i null
      exact .ignored taken (.inl ⟨rfl, rfl, not_not.mp null⟩)
  | some op =>
    have connecting : s.state = .connecting := by
      rw [wellFormed.connecting, current]
      rfl
    have open' : (s.take index [.closing (some op)]).state ≠ .null := by
      rw [show (s.take index [.closing (some op)]).state = s.state from rfl, connecting]
      exact nofun
    rw [if_pos open']
    have started := ((wellFormed.sound op).current current).2.2
    rw [onClose_of_started (s := s.take index [.closing (some op)]) current started _ (.inl rfl)]
    have effect := Effect.stopped taken (.inl ⟨rfl, rfl⟩) current
    simpa only [take, stop, append_assoc, singleton_append] using effect

theorem perform_cases {work : SocketWork}
    (taken : s.tasks[index]? = some work) :
    Effect s (.run index) (({ s with tasks := s.tasks.eraseIdx index } : Socket).perform work) := by
  cases work with
  | asyncConnectInternal type endpoint op =>
    rw [perform, ← take_nil]
    exact wellFormed.asyncConnectInternal_cases taken
  | cancelConnect op => exact wellFormed.cancelConnect_cases taken
  | closeInternal => exact wellFormed.closeInternal_cases taken

/-- **What a step does.** -/
theorem step_cases (taken : s.step event = some t) :
    Effect s event t := by
  cases event with
  | settings settings =>
    cases taken
    exact .settings settings
  | asyncConnect type endpoint =>
    cases taken
    exact .asyncConnect type endpoint
  | close =>
    cases taken
    exact .close
  | cancel op =>
    rw [step] at taken
    split at taken
    · rename_i known
      cases taken
      exact .cancel known
    · cases taken
  | run index =>
    rw [step] at taken
    split at taken
    · cases taken
    · rename_i work found
      cases taken
      exact wellFormed.perform_cases found
  | resolved op errorCode resultsEmpty =>
    rw [step, onDoResolveHost] at taken
    refine wellFormed.deliver_cases rfl taken fun clear current only => ?_
    dsimp only
    generalize (if errorCode.failed = false ∧ resultsEmpty = true then
      Error.Code.noValidEndpoint.toErrorCode else errorCode) = cause
    split
    · rename_i failed
      exact wellFormed.effect_onError rfl current only clear failed
    · rw [doConnect, start_resting ((wellFormed.sound op).current current).2.2]
      have effect : Effect s (.resolved op errorCode resultsEmpty)
          { s with inFlight := [(.connect, op)], log := s.log ++ [] } :=
        .proceeded rfl current only rfl clear fun _ mem => absurd mem not_mem_nil
      rwa [append_nil] at effect
  | connected op errorCode =>
    rw [step, onConnect] at taken
    refine wellFormed.deliver_cases rfl taken fun clear current only => ?_
    split
    · rename_i failed
      exact wellFormed.effect_onError rfl current only clear failed
    · rw [doHandshake, start_resting ((wellFormed.sound op).current current).2.2]
      have quiet : ∀ output ∈ [SocketOutput.handshake op (s.resting op).makeHandshake],
          ∃ handshake, output = .handshake op handshake := by
        intro output mem
        exact ⟨(s.resting op).makeHandshake, mem_singleton.mp mem⟩
      exact .proceeded rfl current only rfl clear quiet
  | handshook op errorCode =>
    rw [step, onHandshake] at taken
    refine wellFormed.deliver_cases rfl taken fun clear current only => ?_
    split
    · rename_i failed
      exact wellFormed.effect_onError rfl current only clear failed
    · rename_i succeeded
      obtain ⟨endpoint, same⟩ := onStarted_resting current ((wellFormed.sound op).current current).2.1
      rw [same]
      exact .connected current only (Bool.not_eq_true _ ▸ succeeded) clear endpoint

end

end WellFormed

end Socket

end Rstream.IoRstrm
