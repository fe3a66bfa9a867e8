import Rstream.IoRstrm.Error
import Rstream.Library.Runs

/-!
# The nperf client

`client::impl::base` opens a number of sessions, runs them when all of them are open, and
closes when all of them are closed. The sessions are in a map from their number to their
state. Several functions traverse that map and call `set_session_state` for the sessions
they meet, and `set_session_state` may close the client, which clears the map.

The numbers in the map are `0`, `1`, and so on, so the map is the list of the states. A
traversal is recorded as `stale` when the map was cleared by the call it made for a
session: the iterator it goes on with is not valid any more. A call for a number the map
does not have is recorded as `missing`.

A session is represented by its operation in flight, which may complete at any time and
with any error; to cancel a session is to ask for that. The completions are posted, so no
function of a session calls back into the client before it returns. The metrics callback
of the caller is taken to return without calling into the client.
-/

namespace Rstream.Nperf

open IoRstrm

namespace Error

inductive Code where
  | success | invalidState | noValidEndpoint | operationAborted | operationTimeout
  | protocolError | unexpectedClose | invalidArgument
  deriving DecidableEq, Repr

/-- The integer of a code. -/
def Code.toInt : Code → Int
  | .success => 0
  | .invalidState => 1
  | .noValidEndpoint => 2
  | .operationAborted => 3
  | .operationTimeout => 4
  | .protocolError => 5
  | .unexpectedClose => 6
  | .invalidArgument => 7

/-- `make_error_code`. -/
def Code.toErrorCode (code : Code) : ErrorCode :=
  ⟨code.toInt, .other "rstream::nperf::error::category"⟩

instance : Coe Code ErrorCode := ⟨Code.toErrorCode⟩

end Error

inductive SessionState where
  | null | opening | opened | running | closed
  deriving DecidableEq, Repr

inductive State where
  | null | connecting | connected | disconnecting | disconnected
  deriving DecidableEq, Repr

inductive MetricsType where
  | connection | handshake | others
  deriving DecidableEq, Repr

/-- What the client tells its caller: metrics, or the end of the run. -/
inductive Notice where
  | metrics (type : MetricsType) (isFinal : Bool)
  | completed (cause : ErrorCode)
  deriving DecidableEq, Repr

/-- `settings_client`, as far as `base` reads it. -/
structure SettingsClient where
  timeoutsMaxTimeMs : Nat
  timeoutsOpenCloseMs : Nat
  maxPing : Nat
  periodMetricsMs : Nat
  sessions : Nat
  maxDataBytes : Nat
  deriving DecidableEq, Repr

/-- `client::impl::base` and what is in flight around it. -/
structure Base where
  settings : SettingsClient
  state : State := .null
  /-- `m_callbacks.m_on_metrics_cb` is set. -/
  onMetricsCb : Bool := false
  handler : Bool := false
  errorCode : ErrorCode := .none
  sessions : List SessionState := []
  pingSampleUs : List UInt64 := []
  measuredBytes : UInt64 := 0
  /-- The resolver has an operation in flight. -/
  resolving : Bool := false
  /-- The sessions with an open in flight. -/
  opens : List Nat := []
  /-- The sessions with a run in flight. -/
  runs : List Nat := []
  /-- The state timers that are armed, with their causes. -/
  stateTimers : List ErrorCode := []
  /-- The metrics timer is armed. -/
  metricsTimer : Bool := false
  /-- What the caller was told. -/
  notices : List Notice := []
  /-- What the handlers of further runs were invoked with. -/
  refusals : List ErrorCode := []
  /-- A traversal went on after the map was cleared under it. -/
  stale : Bool := false
  /-- A session was looked up that is not in the map. -/
  missing : Bool := false
  deriving DecidableEq, Repr

namespace Base

/-- `set_state`; the timers armed before are completed by the signal. -/
def setState (state : State) (s : Base) : Base :=
  { s with state, stateTimers := [], metricsTimer := false }

def armStateTimer (timeoutMs : Nat) (errorCode : ErrorCode) (s : Base) : Base :=
  if timeoutMs = 0 then s else { s with stateTimers := s.stateTimers ++ [errorCode] }

def armMetricsTimer (s : Base) : Base :=
  if s.settings.periodMetricsMs = 0 then s else { s with metricsTimer := true }

/-- `m_callbacks.m_on_metrics_cb(get_metrics(type))`, if the callback is set. -/
def notifyMetrics (type : MetricsType) (s : Base) : Base :=
  if s.onMetricsCb then
    { s with
      notices := s.notices ++
        [.metrics type (type ≠ .others ∨ s.state = .disconnected)] }
  else s

def transpond (s : Base) : Base := s.notifyMetrics .others

def onClose (errorCode : ErrorCode) (s : Base) : Base :=
  if s.state = .null ∨ s.state = .disconnected then s
  else
    let cause := if s.errorCode.failed then s.errorCode else errorCode
    let s := { s.setState .disconnected with sessions := [] }
    let s := if cause.failed then s else s.notifyMetrics .others
    { s with
      onMetricsCb := false
      notices := if s.handler then s.notices ++ [.completed cause] else s.notices
      handler := false }

/-- A traversal of the map that calls `body` for the sessions it meets. -/
def traverse (body : Nat → Base → Base) : List Nat → Base → Base
  | [], s => s
  | sessionId :: rest, s =>
    let t := body sessionId s
    if t.sessions = [] then { t with stale := true } else traverse body rest t

/-- The type of `set_session_state`. -/
abbrev SetSessionState := Nat → SessionState → ErrorCode → Base → Base

/-- `do_close`, which calls `set_session_state`. -/
def doClose (setSessionState : SetSessionState) (errorCode : ErrorCode) (s : Base) : Base :=
  if s.state ≠ .connecting ∧ s.state ≠ .connected then s
  else if s.sessions = [] then s.onClose errorCode
  else
    let s := s.setState .disconnecting
    let s := if errorCode.failed ∧ ¬ s.errorCode.failed then { s with errorCode } else s
    let s := s.armStateTimer s.settings.timeoutsOpenCloseMs .none
    traverse (fun sessionId s =>
      if s.sessions[sessionId]? = some .opened then setSessionState sessionId .closed .none s
      else s) (List.range s.sessions.length) s

def cancelInternal (setSessionState : SetSessionState) (errorCode : ErrorCode) (s : Base) : Base :=
  if s.state = .null ∨ s.state = .disconnected then s
  else if s.state = .connecting ∨ s.state = .connected then s.doClose setSessionState errorCode
  else s.onClose errorCode

def doRun (setSessionState : SetSessionState) (s : Base) : Base :=
  let s := { s with measuredBytes := 0 }
  let s := (s.armStateTimer s.settings.timeoutsMaxTimeMs .none).armMetricsTimer
  traverse (fun sessionId s =>
    let s := setSessionState sessionId .running .none s
    { s with runs := s.runs ++ [sessionId] }) (List.range s.sessions.length) s

/-- `on_open` without a session: all of them are open. -/
def onOpenAll (setSessionState : SetSessionState) (s : Base) : Base :=
  let s := s.setState .connected
  let s := (s.notifyMetrics .connection).notifyMetrics .handshake
  s.doRun setSessionState

/-- The body of `set_session_state`; `setSessionState` stands for the calls of itself that
the functions it calls make. -/
def setSessionStateWith (setSessionState : SetSessionState) (sessionId : Nat)
    (state : SessionState) (cause : ErrorCode) (s : Base) : Base :=
  if s.state = .null ∨ s.state = .disconnected then s
  else if s.sessions.length ≤ sessionId then { s with missing := true }
  else
    let s := { s with sessions := s.sessions.set sessionId state }
    if ∀ session ∈ s.sessions, session = .closed then s.onClose cause
    else if (s.state = .connecting ∨ s.state = .connected) ∧ state = .closed then
      s.cancelInternal setSessionState cause
    else if s.state = .connecting ∧ ∀ session ∈ s.sessions, session = .opened then
      s.onOpenAll setSessionState
    else s

/-- `set_session_state`, with calls of itself nested to a depth. -/
def setSessionStateTo : Nat → SetSessionState
  | 0 => fun _ _ _ s => s
  | depth + 1 => setSessionStateWith (setSessionStateTo depth)

/-- `set_session_state`; it never calls itself to a greater depth. -/
def setSessionState : SetSessionState := setSessionStateTo 2

def doOpen (s : Base) : Base :=
  let s := { s with sessions := List.replicate s.settings.sessions .null }
  traverse (fun sessionId s =>
    let s := setSessionState sessionId .opening .none s
    { s with opens := s.opens ++ [sessionId] }) (List.range s.sessions.length) s

def onError (errorCode : ErrorCode) (s : Base) : Base :=
  if errorCode.failed then s.onClose errorCode else s

def onDoResolveHost (errorCode : ErrorCode) (s : Base) : Base :=
  if s.state ≠ .connecting then s
  else if errorCode.failed then s.onError errorCode
  else s.doOpen

/-- `on_open` of a session. -/
def onOpen (sessionId : Nat) (errorCode : ErrorCode) (s : Base) : Base :=
  if s.state ≠ .connecting ∧ s.state ≠ .disconnecting then s
  else
    setSessionState sessionId
      (if errorCode.failed ∨ s.state = .disconnecting then .closed else .opened) errorCode s

def onRun (sessionId : Nat) (errorCode : ErrorCode) (s : Base) : Base :=
  if s.state ≠ .connected ∧ s.state ≠ .disconnecting then s
  else setSessionState sessionId .closed errorCode s

def onPingUs (pingUs : UInt64) (s : Base) : Base :=
  if s.state ≠ .connected then s
  else
    let s := { s with pingSampleUs := s.pingSampleUs ++ [pingUs] }
    if s.settings.maxPing ≠ 0 ∧ s.settings.maxPing ≤ s.pingSampleUs.length then
      s.cancelInternal setSessionState .none
    else s

def onBytesTransferred (bytesTransferred : UInt64) (s : Base) : Base :=
  if s.state ≠ .connected then s
  else
    let s := { s with measuredBytes := s.measuredBytes + bytesTransferred }
    if s.settings.maxDataBytes ≠ 0 ∧ s.settings.maxDataBytes ≤ s.measuredBytes.toNat then
      s.cancelInternal setSessionState .none
    else s

/-- `async_run_internal` and `do_resolve_host`. -/
def asyncRunInternal (onMetricsCb : Bool) (s : Base) : Base :=
  if s.state ≠ .null then
    { s with refusals := s.refusals ++ [Error.Code.invalidState.toErrorCode] }
  else
    let s := setState .connecting { s with onMetricsCb, handler := true }
    let s := s.armStateTimer s.settings.timeoutsOpenCloseMs Error.Code.operationTimeout
    { s with resolving := true }

/-- What can happen to the client. -/
inductive Event where
  | asyncRun (onMetricsCb : Bool)
  | cancel
  | resolved (errorCode : ErrorCode)
  /-- The open or the run of a session completes. -/
  | opened (sessionId : Nat) (errorCode : ErrorCode)
  | ran (sessionId : Nat) (errorCode : ErrorCode)
  | pingUs (pingUs : UInt64)
  | bytesTransferred (bytesTransferred : UInt64)
  | stateTimeout (timer : Nat)
  | metricsTimeout
  deriving DecidableEq

/-- One event. -/
def step (s : Base) : Event → Option Base
  | .asyncRun onMetricsCb => some (s.asyncRunInternal onMetricsCb)
  | .cancel => some (s.cancelInternal setSessionState Error.Code.operationAborted)
  | .resolved errorCode =>
    if s.resolving then some (onDoResolveHost errorCode { s with resolving := false }) else none
  | .opened sessionId errorCode =>
    if sessionId ∈ s.opens then
      some (onOpen sessionId errorCode { s with opens := s.opens.erase sessionId })
    else none
  | .ran sessionId errorCode =>
    if sessionId ∈ s.runs then
      some (onRun sessionId errorCode { s with runs := s.runs.erase sessionId })
    else none
  | .pingUs pingUs => some (s.onPingUs pingUs)
  | .bytesTransferred bytesTransferred => some (s.onBytesTransferred bytesTransferred)
  | .stateTimeout timer =>
    match s.stateTimers[timer]? with
    | none => none
    | some cause =>
      some (cancelInternal setSessionState cause
        { s with stateTimers := s.stateTimers.eraseIdx timer })
  | .metricsTimeout => if s.metricsTimer then some s.transpond else none

end Base

end Rstream.Nperf
