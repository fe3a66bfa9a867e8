import Rstream.Webtty.Server.Session

/-!
# The server

`server::impl` listens, makes a session for every connection and owns it until the session
has invoked its run handler. The server runs on its strand and each session on its own:
what the server dispatches to a session (`async_run`, `cancel`) is run in order by the
strand of the session, and the run handler of a session is dispatched to the strand of
the server (`on_session_closed`).

A session is known to the server by its id. `m_sessions` is a map, so a connection whose
session gets the id of another one is not added. The sessions themselves are numbered in
the order in which they are made; the numbers in `sessions` and `closed` stand for the
pointers, and no function compares them.
-/

namespace Rstream.Webtty.Server

open IoRstrm (ErrorCode)

/-- `server::impl::state`. -/
inductive ServerState where
  | null | starting | started | stopping | stopped
  deriving DecidableEq, Repr

/-- What the server dispatches to the strand of a session. -/
inductive SessionTask where
  | run | cancel
  deriving DecidableEq, Repr

def SessionTask.event : SessionTask → Event
  | .run => .run
  | .cancel => .cancel

/-- The events of a session that are not dispatched by the server. -/
def Event.internal : Event → Bool
  | .run | .cancel => false
  | _ => true

/-- A session with what is dispatched to its strand. -/
structure Hosted where
  id : Bytes
  session : Session := {}
  tasks : List SessionTask := [.run]

/-- `server::impl`, and what is in flight around it. -/
structure Impl where
  state : ServerState := .null
  handler : Bool := false
  errorCode : ErrorCode := .none
  /-- `m_sessions`. -/
  sessions : List (Bytes × Nat) := []
  /-- Armed state timers. -/
  timers : Nat := 0
  resolves : Nat := 0
  accepts : Nat := 0
  /-- The sessions that were made. -/
  hosted : List Hosted := []
  /-- The run handlers of sessions that are dispatched to the strand of the server. -/
  closed : List (Bytes × Nat) := []
  /-- The run handlers that were stored and invoked. -/
  completions : List ErrorCode := []
  /-- The run handlers that were refused. -/
  refusals : List ErrorCode := []
  /-- The sessions that were taken from `m_sessions`. -/
  removals : List Nat := []

namespace Impl

variable (settings : Settings) (world : World)

def setState (state : ServerState) (s : Impl) : Impl := { s with state, timers := 0 }

def armStateTimer (timeout : UInt32) (s : Impl) : Impl :=
  if timeout = 0 then s else { s with timers := s.timers + 1 }

def cancelSession (s : Impl) (entry : Bytes × Nat) : Impl :=
  { s with hosted := s.hosted.modify entry.2 fun hosted =>
      { hosted with tasks := hosted.tasks ++ [.cancel] } }

/-- The loop that cancels the sessions. -/
def cancelSessions (s : Impl) : Impl := s.sessions.foldl cancelSession s

def onClose (errorCode : ErrorCode) (s : Impl) : Impl :=
  if s.state = .null ∨ s.state = .stopped then s
  else
    let cause := if s.errorCode.failed then s.errorCode else errorCode
    if s.sessions.isEmpty = false then
      let s := { s with
        errorCode := if cause.failed ∧ s.errorCode.failed = false then cause else s.errorCode }
      let s := if s.state ≠ .stopping then s.setState .stopping else s
      s.cancelSessions
    else
      let s := s.setState .stopped
      if s.handler then
        { s with handler := false, completions := s.completions ++ [cause] }
      else s

def doClose (errorCode : ErrorCode) (s : Impl) : Impl :=
  if s.state ≠ .started then s
  else
    let s := { s with
      errorCode := if errorCode.failed ∧ s.errorCode.failed = false then errorCode
        else s.errorCode }.setState .stopping
    if s.sessions.isEmpty then s.onClose errorCode else s.cancelSessions

def onError (errorCode : ErrorCode) (s : Impl) : Impl :=
  if errorCode.failed = false then s
  else if s.state = .started then s.doClose errorCode
  else s.onClose errorCode

def cancelInternal (s : Impl) : Impl :=
  match s.state with
  | .started => s.doClose .none
  | .starting => s.onClose .none
  | .null | .stopping | .stopped => s

/-- Why a server in login mode cannot start. -/
def loginError : ErrorCode :=
  match settings.executionMode with
  | .spawn => .none
  | .login =>
    match settings.defaultUsername with
    | none => if settings.allowClientUser then .none else Error.Code.loginUserRequired
    | some username => (world.getUserInfo (some username)).2

def asyncRunInternal (s : Impl) : Impl :=
  if s.state ≠ .null then
    { s with refusals := s.refusals ++ [Error.Code.invalidState.toErrorCode] }
  else if (loginError settings world).failed then
    { s with refusals := s.refusals ++ [loginError settings world] }
  else
    let s := ({ s with handler := true }.setState .starting).armStateTimer settings.timeoutStart
    { s with resolves := s.resolves + 1 }

def doAccept (s : Impl) : Impl :=
  if s.state ≠ .started then s else { s with accepts := s.accepts + 1 }

def onStarted (s : Impl) : Impl :=
  if s.state ≠ .starting then s else (s.setState .started).doAccept

/-- `on_do_resolve_host`; the last argument is what `open`, `bind` and `listen` yield. -/
def onDoResolveHost (errorCode : ErrorCode) (found : Bool) (listening : ErrorCode) (s : Impl) :
    Impl :=
  if s.state ≠ .starting then s
  else
    let cause := if errorCode.failed then errorCode
      else if found then listening else Error.Code.serverError
    if cause.failed then s.onError cause else s.onStarted

/-- A new session, in `on_accept`. -/
def addSession (id : Bytes) (s : Impl) : Impl :=
  { s with
    hosted := s.hosted ++ [{ id }]
    sessions := if id ∈ s.sessions.map Prod.fst then s.sessions
      else s.sessions ++ [(id, s.hosted.length)] }

/-- `on_accept`; the id is what `generate_session_id` returns. -/
def onAccept (errorCode : ErrorCode) (id : Bytes) (s : Impl) : Impl :=
  if s.state ≠ .started then s
  else if errorCode.failed then s.onError errorCode
  else (s.addSession id).doAccept

def onSessionClosed (id : Bytes) (s : Impl) : Impl :=
  let s := { s with
    sessions := s.sessions.filter fun entry => decide (entry.1 ≠ id)
    removals := s.removals ++ (s.sessions.filter fun entry => decide (entry.1 = id)).map Prod.snd }
  if s.state = .stopping ∧ s.sessions.isEmpty then s.onClose .none else s

/-- A session takes a step; its run handler is dispatched to the server. -/
def stepSession (prims : ProofPrimitives) (number : Nat) (hosted : Hosted) (event : Event)
    (tasks : List SessionTask) (s : Impl) : Option Impl :=
  (hosted.session.step prims { settings with sessionId := hosted.id } (event, world)).map
    fun session => { s with
      hosted := s.hosted.set number { hosted with session, tasks }
      closed := s.closed ++ List.replicate
        (session.completions.length - hosted.session.completions.length) (hosted.id, number) }

end Impl

/-- The handlers that run on the strands of the server and of its sessions. -/
inductive ServerEvent where
  | run
  | cancel
  | timer
  | resolved (errorCode : ErrorCode) (found : Bool) (listening : ErrorCode)
  | accepted (errorCode : ErrorCode) (id : Bytes)
  | dispatched (number : Nat)
  | session (number : Nat) (event : Event)
  | sessionClosed (index : Nat)

/-- A step of the server or of one of its sessions. -/
def Impl.step (prims : ProofPrimitives) (settings : Settings) (s : Impl)
    (input : ServerEvent × World) : Option Impl :=
  let world := input.2
  match input.1 with
  | .run => some (s.asyncRunInternal settings world)
  | .cancel => some s.cancelInternal
  | .timer =>
    if s.timers = 0 then none
    else some ({ s with timers := s.timers - 1 }.onError Error.Code.operationTimeout)
  | .resolved errorCode found listening =>
    if s.resolves = 0 then none
    else some ({ s with resolves := s.resolves - 1 }.onDoResolveHost errorCode found listening)
  | .accepted errorCode id =>
    if s.accepts = 0 then none
    else some ({ s with accepts := s.accepts - 1 }.onAccept errorCode id)
  | .dispatched number =>
    match s.hosted[number]? with
    | none => none
    | some hosted =>
      match hosted.tasks with
      | [] => none
      | task :: tasks => s.stepSession settings world prims number hosted task.event tasks
  | .session number event =>
    match s.hosted[number]? with
    | none => none
    | some hosted =>
      if event.internal then
        s.stepSession settings world prims number hosted event hosted.tasks
      else none
  | .sessionClosed index =>
    match s.closed[index]? with
    | none => none
    | some (id, _) =>
      some ({ s with closed := s.closed.eraseIdx index }.onSessionClosed id)

end Rstream.Webtty.Server
