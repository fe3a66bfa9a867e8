import Rstream.IoRstrm.Client.Completions

/-!
# Isolation between connections

Two ways in which an earlier connection could reach into a later one. The
handlers of the strand carry the generation they were started under; a handler of
an earlier connection carries an earlier generation, so its check fails and it
does nothing. The range connect does not run on the strand and shares `m_socket`
with the client. It stops when an attempt succeeds or is aborted; resumed in any
other way after its connection has ended it goes on to use the socket of whatever
connection there is by then. The second part says what holds of the runs in which
that does not happen, and shows a run in which it does.
-/

namespace Rstream.IoRstrm

open Library

/-- The handlers that belong to the connection during which they were started: the
resolver, the range connect and its report, reads, sends, stream connects and the
two timers. -/
def Work.isConnectionHandler : Work → Bool
  | .resolve | .rangeSpawn _ | .rangeAttempt _ | .onConnect _ | .read | .send _
  | .connectStream _ _ _ _ | .stateTimer _ | .heartbeatTimer _ => true
  | _ => false

/-- The message an output hands to the send queue, and for which connection. -/
def Output.sentMessage : Output → Option (Nat × Message)
  | .sent connection _ message => some (connection, message)
  | _ => none

namespace Client

variable {host : Host} {area : Area} {s t : Client}

/-! ## Generations -/

/-- The messages queued so far, with their connections. -/
def sentMessages (s : Client) : List (Nat × Message) := s.log.filterMap Output.sentMessage

/-- `t` has the session of `s`: the same state, tunnels, operations and status, and
no other message queued. -/
structure SameSession (s t : Client) : Prop where
  state : t.state = s.state
  tunnels : t.tunnels = s.tunnels
  createTunnelOps : t.createTunnelOps = s.createTunnelOps
  connectOp : t.connectOp = s.connectOp
  status : t.status = s.status
  sentMessages : t.sentMessages = s.sentMessages

variable {output : Output} {task : Task}

theorem sentMessages_emit (other : output.sentMessage = none) :
    (s.emit output).sentMessages = s.sentMessages := by
  rw [Client.sentMessages, emit_log, List.filterMap_append]
  simp [other, Client.sentMessages]

theorem SameSession.emit {u : Client} (same : SameSession s t) (other : output.sentMessage = none)
    (emitted : u = t.emit output) : SameSession s u := by
  rw [emitted]
  exact ⟨same.state, same.tunnels, same.createTunnelOps, same.connectOp, same.status,
    (sentMessages_emit other).trans same.sentMessages⟩

theorem sameSession_takeTask (s : Client) (index : Nat) : SameSession s (s.takeTask index) :=
  ⟨rfl, rfl, rfl, rfl, rfl, rfl⟩

theorem sentMessage_of_isSocket (socket : output.isSocket = true) : output.sentMessage = none := by
  cases output with
  | sent _ _ _ => contradiction
  | _ => rfl

theorem sameSession_range {u : Client} (same : SameSession u s)
    (effects : Effects host [.range] s t) : SameSession u t := by
  refine effects.invariant ?_ same
  intro area s t mem effect same
  rw [List.mem_singleton] at mem
  subst mem
  cases effect with
  | socket => exact ⟨same.state, same.tunnels, same.createTunnelOps, same.connectOp, same.status,
      same.sentMessages⟩
  | socketOutput socket => exact same.emit (sentMessage_of_isSocket socket) rfl
  | resume _ _ => exact ⟨same.state, same.tunnels, same.createTunnelOps, same.connectOp,
      same.status, same.sentMessages⟩

theorem perform_of_stale (host : Host) (stale : task.generation ≠ s.generation)
    (handler : task.work.isConnectionHandler = true) (input : Input)
    (strand : areasOf input.calls task.work ≠ [.range]) :
    s.perform host task input = s ∨ ∃ streamId peer owner, s.perform host task input =
      s.emit (.streamConnected task.connection streamId peer owner) := by
  obtain ⟨generation, connection, work⟩ := task
  cases work with
  | resolve | onConnect errorCode | read | send heartbeat => exact .inl (if_pos (.inl stale))
  | stateTimer stateChanges =>
    refine .inl ?_
    simp only [perform, onStateTimer]
    split
    · rfl
    · exact if_neg fun both => stale both.2
  | heartbeatTimer stateChanges =>
    refine .inl ?_
    simp only [perform, onHeartbeatTimer]
    split
    · rfl
    · exact if_neg fun both => stale both.2
  | connectStream tunnelId streamId peer owner =>
    simp only [perform, onConnectStream]
    split
    · exact .inl (if_pos (.inl stale))
    · exact .inr ⟨streamId, peer, owner, if_pos (.inl stale)⟩
  | rangeSpawn endpoints | rangeAttempt rest => exact absurd rfl strand
  | _ => contradiction

/-- **Generation isolation.** A handler that was started during one connection and
runs after a later connection has begun leaves the session of the later
connection as it is; a message read from the old transport is not even looked at. -/
theorem stale_handler_keeps_session (s t : Client) (reachable : Reachable host s) (index : Nat)
    (task : Task) (input : Input) (found : s.tasks[index]? = some task)
    (handler : task.work.isConnectionHandler = true) (later : task.connection < s.connection)
    (taken : step host s (.run index input) = some t) :
    SameSession s t ∧ (task.work = .read → t = s.takeTask index) := by
  have invariant := reachable.invariant
  have stamped := (invariant.wellFormed.takeTask found).2.1
  have stale : task.generation ≠ (s.takeTask index).generation :=
    Nat.ne_of_lt (stamped.stale later)
  simp only [Client.step, found, Option.some_inj] at taken
  subst taken
  have kept := sameSession_takeTask s index
  constructor
  · by_cases range : areasOf input.calls task.work = [.range]
    · have effects := run_effects host invariant found input
      rw [range] at effects
      exact sameSession_range kept effects
    · rcases perform_of_stale host stale handler input range with
        same | ⟨streamId, peer, owner, reported⟩
      · rw [same]
        exact kept
      · exact kept.emit rfl reported
  · intro read
    obtain ⟨generation, connection, work⟩ := task
    cases read
    exact if_pos (.inl stale)

/-- A connection that waits for the open response is closed, and a second one is
begun. The read of the first one is still pending, at position 2. -/
def reconnect : List Event :=
  [.call (.asyncConnect {}), .run 0 {}, .run 1 { results := [{}] }, .run 1 {}, .run 1 {}, .run 1 {},
    .call .close, .run 3 {}, .run 3 {}, .call (.asyncConnect {}), .run 3 {}]

theorem reconnect_isSome :
    (exec (step .plain) (plain {}) reconnect).isSome = true := by
  decide

/-- The client that connects for the second time. -/
def reconnecting : Client :=
  (exec (step .plain) (plain {}) reconnect).get reconnect_isSome

/-- An open response on the old transport does not open the new connection. -/
theorem reconnecting_ignores_old_response :
    ∃ t, step .plain reconnecting
        (.run 2 { message := some (.openControlChannelRsp (.ok "client" none)) }) = some t ∧
      SameSession reconnecting t ∧ t = reconnecting.takeTask 2 := by
  refine ⟨_, rfl, ?_⟩
  have reachable : Reachable .plain reconnecting :=
    ⟨_, _, _, _, Reaches.of_exec reconnect_isSome⟩
  obtain ⟨same, unread⟩ := stale_handler_keeps_session reconnecting _ reachable 2 ⟨1, 1, .read⟩
    { message := some (.openControlChannelRsp (.ok "client" none)) } (by decide) (by decide)
    (by decide) rfl
  exact ⟨same, unread rfl⟩

/-! ## The socket and the range connect -/

/-- `on_queue_cancelled` of this connection has run: a later connection has begun,
or the client is back in `state::null`. -/
def Ended (s : Client) (connection : Nat) : Prop :=
  connection < s.connection ∨ connection = s.connection ∧ s.state = .null

/-- How often the range connect of a connection opened, connected or closed
`m_socket`. -/
def socketUses (s : Client) (connection : Nat) : Nat :=
  s.log.countP fun output =>
    output = .socketOpen connection ∨ output = .socketConnect connection ∨
      output = .socketClose connection

/-- The range connect, resumed with this outcome, is done with the socket: there is
no further endpoint to try, the transport of the next one cannot be created, or
the last attempt succeeded or was aborted. -/
def Settled (s : Client) (input : Input) : Work → Prop
  | .rangeSpawn [] => True
  | .rangeSpawn (endpoint :: _) => s.socket = none ∧ endpoint.init.failed = true
  | .rangeAttempt _ => input.errorCode.failed = false ∨ input.errorCode = .operationAborted
  | _ => True

/-- The condition on a step: the range connect of an ended connection is resumed
only when it is done with the socket. -/
def LoopSettled (s : Client) : Event → Prop
  | .call _ => True
  | .run index input =>
    match s.tasks[index]? with
    | none => True
    | some task => s.Ended task.connection → Settled s input task.work

instance (s : Client) (connection : Nat) : Decidable (s.Ended connection) :=
  inferInstanceAs (Decidable (_ ∨ _))

instance (s : Client) (input : Input) : (work : Work) → Decidable (Settled s input work)
  | .rangeSpawn [] => isTrue trivial
  | .rangeSpawn (_ :: _) => inferInstanceAs (Decidable (_ ∧ _))
  | .rangeAttempt _ => inferInstanceAs (Decidable (_ ∨ _))
  | .asyncConnectInternal _ | .asyncCreateTunnelInternal _ | .asyncAcceptTunnelInternal _ _
  | .cancelConnect _ | .cancelCreateTunnel _ | .cancelAcceptTunnel _ _ | .closeTunnelInternal _
  | .closeInternal | .resolve | .onConnect _ | .read | .send _ | .connectStream _ _ _ _
  | .stateTimer _ | .heartbeatTimer _ | .queueCancel _ _ _ => isTrue trivial

instance (s : Client) : (event : Event) → Decidable (LoopSettled s event)
  | .call _ => isTrue trivial
  | .run index input =>
    match h : s.tasks[index]? with
    | none => isTrue (by simp [LoopSettled, h])
    | some task =>
      decidable_of_iff (s.Ended task.connection → Settled s input task.work)
        (by simp [LoopSettled, h])

/-- The transport in `m_socket` belongs to the connection that is running. -/
def SocketOwned (s : Client) : Prop :=
  ∀ transport, s.socket = some transport →
    transport.connection = s.connection ∧ s.state ≠ .null

theorem socketUses_emit (other : output.isSocket = false) (connection : Nat) :
    (s.emit output).socketUses connection = s.socketUses connection := by
  rw [socketUses, emit_log, List.countP_append, List.countP_singleton, socketUses]
  cases output with
  | socketOpen _ | socketConnect _ | socketClose _ => contradiction
  | _ => simp

theorem isSocket_of_isNotice (notice : output.isNotice = true) : output.isSocket = false := by
  cases output with
  | socketOpen _ | socketConnect _ | socketClose _ => contradiction
  | _ => rfl

section

variable (effect : Effect host area s t)

include effect

theorem Effect.socketKept (strand : area ≠ .range) :
    (t.socket = s.socket ∨ t.socket = none) ∧
      ∀ connection, t.socketUses connection = s.socketUses connection := by
  cases effect with
  | notice plain => exact ⟨.inl rfl, socketUses_emit (isSocket_of_isNotice plain)⟩
  | fault | request | streamConnected | disconnection | send _ _ _ | connectStream | respond _ => exact ⟨.inl rfl, socketUses_emit rfl⟩
  | fail _ _ _ | failConnect _ _ | opened _ _ _ | created _ | accepted _ =>
    exact ⟨.inl rfl, socketUses_emit rfl⟩
  | reset _ => exact ⟨.inr rfl, fun _ => rfl⟩
  | socket | socketOutput _ | resume _ _ => contradiction
  | _ => exact ⟨.inl rfl, fun _ => rfl⟩

theorem Effect.socketOwned (strand : area ≠ .range)
    (owned : s.SocketOwned) : t.SocketOwned := by
  intro transport held
  cases effect with
  | begin idle _ _ _ => exact absurd idle (owned transport held).2
  | close _ _ _ _ | leave _ | opened _ _ _ | openedUnobserved _ _ => exact ⟨(owned transport held).1, by simp⟩
  | reset _ | socket | socketOutput _ | resume _ _ => contradiction
  | _ => exact owned transport held

/-- A client in `state::null` leaves it only with a new connection. -/
theorem Effect.idle (idle : s.state = .null) :
    t.state = .null ∨ s.connection < t.connection := by
  cases effect with
  | begin _ _ _ _ => exact .inr (Nat.lt_succ_self _)
  | close _ _ running _ => exact absurd idle running
  | leave connected => simp [idle] at connected
  | opened connecting _ _ | openedUnobserved connecting _ => simp [idle] at connecting
  | reset _ => exact .inl rfl
  | _ => exact .inl idle

theorem Effect.ended {connection : Nat}
    (ended : s.Ended connection) : t.Ended connection := by
  have clock := effect.clock
  rcases ended with earlier | ⟨rfl, idle⟩
  · exact .inl (Nat.lt_of_lt_of_le earlier clock.connection)
  · rcases effect.idle idle with still | renewed
    · rcases Nat.lt_or_ge s.connection t.connection with later | same
      · exact .inl later
      · exact .inr ⟨Nat.le_antisymm clock.connection same, still⟩
    · exact .inl renewed

end

/-- From `s` to `t` only the range connect of one connection acts. -/
structure UsedBy (connection : Nat) (s t : Client) : Prop where
  state : t.state = s.state
  sameConnection : t.connection = s.connection
  socket : ∀ transport, t.socket = some transport →
    s.socket = some transport ∨ transport.connection = connection
  others : ∀ other, other ≠ connection → t.socketUses other = s.socketUses other

namespace UsedBy

variable {connection : Nat} {u : Client}

theorem refl : UsedBy connection s s := ⟨rfl, rfl, fun _ held => .inl held, fun _ _ => rfl⟩

theorem trans (first : UsedBy connection s t) (second : UsedBy connection t u) :
    UsedBy connection s u := by
  refine ⟨second.state.trans first.state, second.sameConnection.trans first.sameConnection,
    ?_, ?_⟩
  · intro transport held
    rcases second.socket transport held with before | own
    · exact first.socket transport before
    · exact .inr own
  · intro other different
    exact (second.others other different).trans (first.others other different)

theorem emit {output : Output} (own : output = .socketOpen connection ∨
    output = .socketConnect connection ∨ output = .socketClose connection) :
    UsedBy connection s (s.emit output) := by
  refine ⟨rfl, rfl, fun _ held => .inl held, fun other different => ?_⟩
  have apart : connection ≠ other := fun same => different same.symm
  rw [socketUses, emit_log, List.countP_append, List.countP_singleton, socketUses]
  rcases own with rfl | rfl | rfl
  · simp [apart]
  · simp [apart]
  · simp [apart]

theorem socketAsyncConnect (s : Client) (connection : Nat) (endpoint : ResolvedEndpoint) :
    UsedBy connection s (s.socketAsyncConnect connection endpoint) := by
  unfold Client.socketAsyncConnect
  split
  · exact emit (.inr (.inl rfl))
  · split
    · exact refl
    · have opened : UsedBy connection s
          { s with socket := some ⟨endpoint.ssl, connection⟩ } := by
        refine ⟨rfl, rfl, fun transport held => .inr ?_, fun _ _ => rfl⟩
        rw [← Option.some_inj.mp held]
      exact (opened.trans (emit (.inl rfl))).trans (emit (.inr (.inl rfl)))

theorem rangeNext (s : Client) (task : Task) (errorCode : ErrorCode)
    (endpoints : List ResolvedEndpoint) :
    UsedBy task.connection s (s.rangeNext task errorCode endpoints) := by
  cases endpoints with
  | nil => exact ⟨rfl, rfl, fun _ held => .inl held, fun _ _ => rfl⟩
  | cons endpoint rest =>
    have used := socketAsyncConnect s task.connection endpoint
    exact ⟨used.state, used.sameConnection, used.socket, used.others⟩

theorem onRangeAttempt (s : Client) (task : Task) (errorCode : ErrorCode)
    (rest : List ResolvedEndpoint) :
    UsedBy task.connection s (s.onRangeAttempt task errorCode rest) := by
  unfold Client.onRangeAttempt
  split
  · exact ⟨rfl, rfl, fun _ held => .inl held, fun _ _ => rfl⟩
  · have closed : UsedBy task.connection s s.closeSocket :=
      ⟨rfl, rfl, fun _ held => by contradiction, fun _ _ => rfl⟩
    exact (closed.trans (emit (.inr (.inr rfl)))).trans (rangeNext _ task errorCode rest)

end UsedBy

theorem socketUses_emit_own {connection : Nat}
    (own : output = .socketOpen connection ∨ output = .socketConnect connection ∨
      output = .socketClose connection) :
    (s.emit output).socketUses connection = s.socketUses connection + 1 := by
  rw [socketUses, emit_log, List.countP_append, List.countP_singleton, socketUses,
    if_pos (decide_eq_true own)]

theorem socketAsyncConnect_of_refused (connection : Nat) {endpoint : ResolvedEndpoint}
    (absent : s.socket = none) (refused : endpoint.init.failed = true) :
    s.socketAsyncConnect connection endpoint = s := by
  simp [socketAsyncConnect, absent, refused]

theorem socketUses_socketAsyncConnect {connection : Nat} {endpoint : ResolvedEndpoint}
    (usable : ¬(s.socket = none ∧ endpoint.init.failed = true)) :
    s.socketUses connection <
      (s.socketAsyncConnect connection endpoint).socketUses connection := by
  unfold socketAsyncConnect
  split
  · rw [socketUses_emit_own (.inr (.inl rfl))]
    exact Nat.lt_succ_self _
  · rename_i absent
    split
    · rename_i refused
      exact absurd ⟨absent, refused⟩ usable
    · rw [socketUses_emit_own (.inr (.inl rfl)), socketUses_emit_own (.inl rfl)]
      exact Nat.lt_succ_of_lt (Nat.lt_succ_self _)

theorem socketUses_rangeNext (s : Client) (task : Task) (errorCode : ErrorCode)
    (endpoints : List ResolvedEndpoint) :
    s.socketUses task.connection ≤
      (s.rangeNext task errorCode endpoints).socketUses task.connection := by
  cases endpoints with
  | nil => exact Nat.le_refl _
  | cons endpoint rest =>
    by_cases usable : s.socket = none ∧ endpoint.init.failed = true
    · have same := socketAsyncConnect_of_refused task.connection usable.1 usable.2
      simp only [rangeNext, same]
      exact Nat.le_refl _
    · exact Nat.le_of_lt (socketUses_socketAsyncConnect usable)

/-- The work that resumes the loop of a range connect. -/
def resumesLoop : Work → Bool
  | .rangeSpawn _ | .rangeAttempt _ => true
  | _ => false

theorem usedBy_perform (host : Host) (s : Client) (loop : resumesLoop task.work = true)
    (input : Input) : UsedBy task.connection s (s.perform host task input) := by
  obtain ⟨generation, connection, work⟩ := task
  cases work with
  | rangeSpawn endpoints => exact .rangeNext s _ _ _
  | rangeAttempt rest => exact .onRangeAttempt s _ _ _
  | _ => contradiction

theorem perform_of_settled (host : Host) (loop : resumesLoop task.work = true) {input : Input}
    (settled : Settled s input task.work) :
    (s.perform host task input).socket = s.socket ∧
      (s.perform host task input).socketUses task.connection = s.socketUses task.connection := by
  obtain ⟨generation, connection, work⟩ := task
  cases work with
  | rangeSpawn endpoints =>
    cases endpoints with
    | nil => exact ⟨rfl, rfl⟩
    | cons endpoint rest =>
      have same := socketAsyncConnect_of_refused connection settled.1 settled.2
      simp only [perform, rangeNext, same]
      exact ⟨rfl, rfl⟩
  | rangeAttempt rest =>
    have stops : ¬input.errorCode.failed = true ∨ input.errorCode = .operationAborted := by
      rcases settled with succeeded | aborted
      · exact .inl (by simp [succeeded])
      · exact .inr aborted
    simp only [perform, onRangeAttempt, if_pos stops]
    exact ⟨rfl, rfl⟩
  | _ => contradiction

theorem perform_of_unsettled (loop : resumesLoop task.work = true) {input : Input}
    (unsettled : ¬Settled s input task.work) :
    s.socketUses task.connection < (s.perform host task input).socketUses task.connection := by
  obtain ⟨generation, connection, work⟩ := task
  cases work with
  | rangeSpawn endpoints =>
    cases endpoints with
    | nil => exact absurd trivial unsettled
    | cons endpoint rest => exact socketUses_socketAsyncConnect unsettled
  | rangeAttempt rest =>
    have goesOn : ¬(¬input.errorCode.failed = true ∨ input.errorCode = .operationAborted) := by
      rintro (succeeded | aborted)
      · exact unsettled (.inl (by simpa using succeeded))
      · exact unsettled (.inr aborted)
    simp only [perform, onRangeAttempt, if_neg goesOn]
    refine Nat.lt_of_lt_of_le ?_ (socketUses_rangeNext _ _ _ _)
    rw [socketUses_emit_own (.inr (.inr rfl))]
    exact Nat.lt_succ_self _
  | _ => contradiction

theorem strand_of_notLoop (calls : List (Call × Oracle)) {work : Work}
    (other : resumesLoop work = false) : .range ∉ areasOf calls work := by
  cases work with
  | rangeSpawn _ | rangeAttempt _ => contradiction
  | _ => simp [areasOf]

/-- What a step that meets the condition keeps. -/
theorem socket_step (invariant : s.Invariant) (owned : s.SocketOwned) {event : Event}
    (settled : LoopSettled s event) (taken : step host s event = some t) :
    t.SocketOwned ∧ ∀ connection, s.Ended connection →
      t.Ended connection ∧ t.socketUses connection = s.socketUses connection := by
  -- a step whose effects are all outside the range connect
  have strand (u : Client) {areas : List Area} (uses : u.socketUses = s.socketUses)
      (before : u.SocketOwned) (ended : ∀ connection, s.Ended connection → u.Ended connection)
      (effects : Effects host areas u t) (outside : .range ∉ areas) :
      t.SocketOwned ∧ ∀ connection, s.Ended connection →
        t.Ended connection ∧ t.socketUses connection = s.socketUses connection := by
    refine effects.invariant (p := fun v => v.SocketOwned ∧ ∀ connection, s.Ended connection →
      v.Ended connection ∧ v.socketUses connection = s.socketUses connection) ?_
      ⟨before, fun connection already => ⟨ended connection already, by rw [uses]⟩⟩
    rintro area v w mem effect ⟨owned, kept⟩
    have notRange : area ≠ .range := fun same => outside (same ▸ mem)
    refine ⟨effect.socketOwned notRange owned, fun connection already => ?_⟩
    obtain ⟨still, count⟩ := kept connection already
    exact ⟨effect.ended still, ((effect.socketKept notRange).2 connection).trans count⟩
  rcases step_cases taken with ⟨call, rfl, rfl⟩ | ⟨index, input, task, rfl, found, rfl⟩
  · exact strand s rfl owned (fun _ ended => ended) (call_effects invariant.wellFormed call)
      (by simp)
  · cases loop : resumesLoop task.work with
    | false =>
      exact strand (s.takeTask index) rfl owned (fun _ ended => ended)
        (run_effects host invariant found input) (strand_of_notLoop input.calls loop)
    | true =>
      have used := usedBy_perform host (s.takeTask index) loop input
      have stamped := (invariant.wellFormed.takeTask found).2.1
      simp only [LoopSettled, found] at settled
      by_cases ended : s.Ended task.connection
      · have done : Settled (s.takeTask index) input task.work := settled ended
        obtain ⟨socket, count⟩ := perform_of_settled host loop done
        refine ⟨fun transport held => ?_, fun connection already => ⟨?_, ?_⟩⟩
        · rw [used.state, used.sameConnection]
          exact owned transport (socket ▸ held)
        · rw [Ended, used.state, used.sameConnection]
          exact already
        · by_cases own : connection = task.connection
          · rw [own]
            exact count
          · exact used.others connection own
      · -- the loop of the running connection
        have current : task.connection = s.connection := by
          rcases Nat.lt_or_ge task.connection s.connection with earlier | same
          · exact absurd (.inl earlier) ended
          · exact Nat.le_antisymm stamped.connection same
        have running : s.state ≠ .null := fun idle => ended (.inr ⟨current, idle⟩)
        refine ⟨fun transport held => ?_, fun connection already => ⟨?_, ?_⟩⟩
        · rw [used.state, used.sameConnection]
          rcases used.socket transport held with before | own
          · exact owned transport before
          · exact ⟨own.trans current, running⟩
        · rw [Ended, used.state, used.sameConnection]
          exact already
        · refine used.others connection ?_
          rintro rfl
          exact ended already

theorem socket_run (invariant : s.Invariant) (owned : s.SocketOwned)
    (run : Run (step host) LoopSettled s t) :
    t.SocketOwned ∧ ∀ connection, s.Ended connection →
      t.socketUses connection = s.socketUses connection := by
  have all : t.Invariant ∧ t.SocketOwned ∧ ∀ connection, s.Ended connection →
      t.Ended connection ∧ t.socketUses connection = s.socketUses connection := by
    refine run.invariant (p := fun u => u.Invariant ∧ u.SocketOwned ∧ ∀ connection,
      s.Ended connection → u.Ended connection ∧ u.socketUses connection = s.socketUses connection)
      ⟨invariant, owned, fun _ ended => ⟨ended, rfl⟩⟩ ?_
    rintro u event v ⟨invariant, owned, kept⟩ settled taken
    obtain ⟨ownedAfter, endedAfter⟩ := socket_step invariant owned settled taken
    refine ⟨invariant.step taken, ownedAfter, fun connection ended => ?_⟩
    obtain ⟨still, count⟩ := kept connection ended
    obtain ⟨later, same⟩ := endedAfter connection still
    exact ⟨later, same.trans count⟩
  exact ⟨all.2.1, fun connection ended => (all.2.2 connection ended).2⟩

/-- **Transport isolation.** In every run in which the range connect of an ended
connection is resumed only when it is done with the socket: a client in
`state::null` holds no transport, the transport it holds otherwise belongs to the
running connection, and the range connect of an ended connection never again
opens, connects or closes the socket. The condition is exact: a resumption that
does not meet it uses the socket. -/
theorem transport_isolated (s : Client) (reachable : ReachableBy host LoopSettled s) :
    (s.state = .null → s.socket = none) ∧
    (∀ transport, s.socket = some transport → transport.connection = s.connection) ∧
    (∀ t connection, Run (step host) LoopSettled s t → s.Ended connection →
      t.socketUses connection = s.socketUses connection) ∧
    ∀ index input task t, s.tasks[index]? = some task → resumesLoop task.work = true →
      step host s (.run index input) = some t →
      (t.socketUses task.connection = s.socketUses task.connection ↔
        Settled s input task.work) := by
  have invariant := reachable.reachable.invariant
  have owned : s.SocketOwned := by
    obtain ⟨config, defaultServerAddress, token, mtlsToken, run⟩ := reachable
    exact (socket_run (invariant_make config defaultServerAddress token mtlsToken)
      (fun _ held => by contradiction) run).1
  refine ⟨fun idle => ?_, fun transport held => (owned transport held).1, ?_, ?_⟩
  · cases held : s.socket with
    | none => rfl
    | some transport => exact absurd idle (owned transport held).2
  · intro t connection run ended
    exact (socket_run invariant owned run).2 connection ended
  · intro index input task t found loop taken
    simp only [step, found, Option.some_inj] at taken
    subst taken
    constructor
    · intro same
      by_contra unsettled
      have used : (s.takeTask index).socketUses task.connection <
          ((s.takeTask index).perform host task input).socketUses task.connection :=
        perform_of_unsettled loop unsettled
      exact absurd same (Nat.ne_of_gt used)
    · intro settled
      have done : Settled (s.takeTask index) input task.work := settled
      exact (perform_of_settled host loop done).2

/-- The first attempt of two is in progress when the connection is closed. -/
def closedWhileConnecting : List Event :=
  [.call (.asyncConnect {}), .run 0 {}, .run 1 { results := [{}, {}] }, .run 1 {}, .call .close,
    .run 2 {}, .run 2 {}]

theorem closedWhileConnecting_isSome :
    (exec (step .plain) (plain {}) closedWhileConnecting).isSome = true := by
  decide

/-- The client after the close, with the attempt still pending. -/
def closedClient : Client :=
  (exec (step .plain) (plain {}) closedWhileConnecting).get closedWhileConnecting_isSome

/-- When the attempt is aborted the socket stays closed. -/
theorem closedClient_aborted :
    ∃ t, step .plain closedClient (.run 1 { errorCode := .operationAborted }) = some t ∧
      t.socketUses 1 = closedClient.socketUses 1 := by
  refine ⟨_, rfl, ?_⟩
  have reachable : ReachableBy .plain LoopSettled closedClient :=
    ⟨_, _, _, _, .of_exec (by decide) (Option.some_get closedWhileConnecting_isSome).symm⟩
  have isolated := (transport_isolated closedClient reachable).2.2.1
  have settled : LoopSettled closedClient (.run 1 { errorCode := .operationAborted }) := by
    decide
  exact isolated _ 1 (Run.refl.tail settled rfl) (by decide)

theorem closedClient_fails :
    (exec (step .plain) closedClient
      [.run 1 { errorCode := ⟨111, .system⟩ }]).isSome = true := by
  decide

/-- When it fails with another error, the loop of the ended connection closes the
socket, opens it for the second endpoint and connects it, and the idle client is
left with a transport. -/
theorem closedClient_reopened :
    ∃ s t, Reachable .plain s ∧ s.Ended 1 ∧ Reaches (step .plain) s t ∧
      t.socketUses 1 = s.socketUses 1 + 3 ∧ t.state = .null ∧ t.socket ≠ none := by
  exact ⟨closedClient, _, ⟨_, _, _, _, Reaches.of_exec closedWhileConnecting_isSome⟩,
    by decide, Reaches.of_exec closedClient_fails, by decide, by decide, by decide⟩

end Client

end Rstream.IoRstrm
