import Rstream.IoRstrm.Client.Effects

/-!
# The handlers of the client as sequences of effects

One theorem per handler: it is a sequence of effects, and in which areas. Handlers
that store an operation ask for `Storable`, the range connect for `Stamped`.

A few handlers change only a handful of fields. Their frame theorems say so by an
equation, from which every other field can be read off.
-/

namespace Rstream.IoRstrm

open Std (TreeMap)

namespace Client

variable {host : Host}

/-! ## Completions and closing -/

variable {s t : Client} {errorCode : ErrorCode} {op : Nat} {task : Task}
  {requestId tunnelId : String} {tunnel : Tunnel}

theorem complete_of_completed {op : OpId} (settled : (s.ops op).completed = true)
    (errorCode : ErrorCode) (value : Value) : s.complete op errorCode value = s := by
  simp [complete, settled]

theorem complete_of_pending {op : OpId} (pending : (s.ops op).completed = false)
    (errorCode : ErrorCode) (value : Value) :
    s.complete op errorCode value = s.settle op errorCode value := by
  simp [complete, settle, pending]

theorem completed_complete (s : Client) (op : OpId) (errorCode : ErrorCode) (value : Value) :
    ((s.complete op errorCode value).ops op).completed = true := by
  cases pending : (s.ops op).completed with
  | true => rw [complete_of_completed pending]; exact pending
  | false => simp [complete_of_pending pending]

/-- What completing an operation leaves alone. -/
theorem complete_frame (s : Client) (op : OpId) (errorCode : ErrorCode) (value : Value) :
    ∃ ops log, s.complete op errorCode value = { s with ops := ops, log := log } := by
  unfold complete
  split
  · exact ⟨_, _, rfl⟩
  · exact ⟨_, _, rfl⟩

theorem complete_effects (s : Client) {op : OpId} (value : Value) (failed : errorCode.failed = true)
    (other : ∀ index, op ≠ .connect index) :
    Effects host [.control] s (s.complete op errorCode value) := by
  cases pending : (s.ops op).completed with
  | true =>
    rw [complete_of_completed pending]
    exact .refl
  | false =>
    rw [complete_of_pending pending]
    exact .single (.fail pending failed other)

theorem completeConnect_effects (s : Client) (op : Option Nat) (failed : errorCode.failed = true) :
    Effects host [.control] s (s.completeConnect op errorCode) := by
  cases op with
  | none => exact .refl
  | some op =>
    cases pending : (s.ops (.connect op)).completed with
    | true =>
      simp only [completeConnect, pending, if_true]
      exact .refl
    | false =>
      have effect : Effect host .control s _ := .failConnect pending failed
      simp only [completeConnect, pending, complete_of_pending pending, settle_connectOp,
        Bool.false_eq_true, if_false]
      by_cases stored : s.connectOp = some op
      · rw [if_pos stored] at effect ⊢
        exact .single effect
      · rw [if_neg stored] at effect ⊢
        exact .single effect

theorem onClose_effects (s : Client) (errorCode : ErrorCode) :
    Effects host [.control] s (s.onClose errorCode) := by
  unfold onClose
  by_cases closed : s.state = .null ∨ s.closePending = true
  · rw [if_pos closed]
    exact .refl
  · rw [if_neg closed]
    have running : s.state ≠ .null := fun idle => closed (.inl idle)
    have first : s.closePending = false := by
      cases pending : s.closePending with
      | true => exact absurd (.inr pending) closed
      | false => rfl
    by_cases closing : s.state = .closing
    · have effect : Effect host .control s _ :=
        .close (s.errorCode.orElse errorCode) s.stateChanges running first
      simp only [closing, if_true] at effect ⊢
      exact .single effect
    · simp only [closing, if_false]
      exact .single (.close _ (s.stateChanges + 1) running first)

/-- What `on_close` leaves alone. -/
theorem onClose_frame (s : Client) (errorCode : ErrorCode) :
    ∃ closePending generation state stateChanges tasks,
      s.onClose errorCode = { s with
        closePending := closePending, generation := generation, state := state
        stateChanges := stateChanges, tasks := tasks } := by
  unfold onClose
  split
  · exact ⟨_, _, _, _, _, rfl⟩
  · dsimp only
    split
    · exact ⟨_, _, _, _, _, rfl⟩
    · exact ⟨_, _, _, _, _, rfl⟩

theorem onError_effects (s : Client) (errorCode : ErrorCode) :
    Effects host [.control] s (s.onError errorCode) := by
  unfold onError
  split
  · exact onClose_effects s errorCode
  · exact .refl

/-! ## Sending, timers and reading -/

theorem armStateTimer_effects (s : Client) (timeoutMs : Nat) :
    Effects host [.control] s (s.armStateTimer timeoutMs) := by
  unfold armStateTimer
  split
  · exact .refl
  · exact .single (.start rfl)

theorem doSendMessage_effects {message : Message} (heartbeat : Bool)
    (confined : TokenConfined host s message)
    (control : ∀ streamId error, message ≠ .proxyConnRsp streamId error) :
    Effects host [.control] s (s.doSendMessage host message heartbeat) := by
  unfold doSendMessage
  by_cases idle : s.state = .null
  · rw [if_pos idle]
    exact .refl
  · rw [if_neg idle]
    split
    · exact .single (.send idle confined control)
    · exact onError_effects s _

/-- What sending a message leaves alone. -/
theorem doSendMessage_frame (host : Host) (s : Client) (message : Message) (heartbeat : Bool) :
    ∃ closePending generation state stateChanges tasks log,
      s.doSendMessage host message heartbeat = { s with
        closePending := closePending, generation := generation, state := state
        stateChanges := stateChanges, tasks := tasks, log := log } := by
  unfold doSendMessage onError
  split
  · exact ⟨_, _, _, _, _, _, rfl⟩
  · split
    · exact ⟨_, _, _, _, _, _, rfl⟩
    · split
      · obtain ⟨_, _, _, _, _, framed⟩ := onClose_frame s Error.Code.protocolError
        rw [framed]
        exact ⟨_, _, _, _, _, _, rfl⟩
      · exact ⟨_, _, _, _, _, _, rfl⟩

/-- A message without a token may go over any transport. -/
theorem tokenConfined_of_none {message : Message} (none : message.token = none) :
    TokenConfined host s message := by
  intro some
  simp [none] at some

theorem doSendHeartbeat_effects (s : Client) : Effects host [.control] s s.doSendHeartbeat := by
  unfold doSendHeartbeat
  split
  · exact .refl
  · split
    · exact .refl
    · exact .single (.start rfl)

theorem onSendMessage_effects (s : Client) (generation : Nat) (errorCode : ErrorCode)
    (heartbeat : Bool) :
    Effects host [.control] s (s.onSendMessage generation errorCode heartbeat) := by
  unfold onSendMessage
  split
  · exact .refl
  · split
    · exact onError_effects s errorCode
    · split
      · exact doSendHeartbeat_effects s
      · exact .refl

theorem onHeartbeatTimer_effects (s : Client) (generation stateChanges : Nat)
    (errorCode : ErrorCode) :
    Effects host [.control] s (s.onHeartbeatTimer host generation stateChanges errorCode) := by
  unfold onHeartbeatTimer
  split
  · exact .refl
  · split
    · exact doSendMessage_effects true (tokenConfined_of_none rfl) (by simp)
    · exact .refl

theorem onStateTimer_effects (s : Client) (generation stateChanges : Nat)
    (errorCode : ErrorCode) :
    Effects host [.control] s (s.onStateTimer generation stateChanges errorCode) := by
  unfold onStateTimer
  split
  · exact .refl
  · split
    · exact onError_effects s _
    · exact .refl

theorem doReadIncomingMessage_effects (s : Client) :
    Effects host [.control] s s.doReadIncomingMessage := by
  unfold doReadIncomingMessage
  split
  · exact .refl
  · exact .single (.start rfl)

@[simp]
theorem armStateTimer_errorCode (s : Client) (timeoutMs : Nat) :
    (s.armStateTimer timeoutMs).errorCode = s.errorCode := by
  unfold armStateTimer
  split <;> rfl

/-- The state timer and the error code it will report are armed in either order. -/
theorem armStateTimer_withErrorCode (s : Client) (timeoutMs : Nat) (errorCode : ErrorCode) :
    { s.armStateTimer timeoutMs with errorCode := errorCode } =
      ({ s with errorCode := errorCode } : Client).armStateTimer timeoutMs := by
  unfold armStateTimer
  split <;> rfl

theorem closeInternal_effects (s : Client) (errorCode : ErrorCode) :
    Effects host [.control] s (s.closeInternal host errorCode) := by
  unfold closeInternal
  split
  · exact .refl
  · exact onClose_effects s errorCode
  · rename_i connected
    simp only [armStateTimer_withErrorCode]
    refine ((Effects.single (.leave connected)).trans (armStateTimer_effects _ _)).trans
      (doSendMessage_effects false (tokenConfined_of_none rfl) (by simp))
  · exact .refl

/-! ## Connecting -/

theorem releaseConnectReservation_effects
    (pending : (s.ops (.connect op)).completed = false ∨ (s.ops (.connect op)).handler = true)
    (absent : s.connectOp ≠ some op) :
    Effects host [.control] s (s.releaseConnectReservation op) := by
  unfold releaseConnectReservation
  by_cases kept : ¬(s.ops (.connect op)).reserved ∨ s.state ≠ .null
  · rw [if_pos kept]
    exact .refl
  · rw [if_neg kept]
    rw [not_or, not_not, not_not] at kept
    split
    · exact .single (.release kept.2 kept.1 pending absent)
    · exact .refl

theorem cancelConnect_effects (s : Client) (op : Nat) :
    Effects host [.control] s (s.cancelConnect op) := by
  unfold cancelConnect
  split
  · exact .refl
  · rename_i open'
    rw [not_or] at open'
    have pending : (s.ops (.connect op)).completed = false := by simpa using open'.2
    split
    · exact onClose_effects s _
    · rename_i absent
      exact (releaseConnectReservation_effects (.inl pending) absent).trans
        (completeConnect_effects _ _ ErrorCode.failed_operationAborted)

theorem asyncConnectInternal_effects (storable : s.Storable (.connect op)) :
    Effects host [.control, .storing] s (s.asyncConnectInternal op) := by
  unfold asyncConnectInternal
  by_cases handler : (s.ops (.connect op)).handler = true
  · rw [if_neg (by simp [handler])]
    split
    · have absent : s.connectOp ≠ some op :=
        fun stored => storable.absent ⟨.connect, by rw [holds, stored]; rfl⟩
      exact ((releaseConnectReservation_effects (.inr handler) absent).trans
        (completeConnect_effects _ _ ErrorCode.failed_operationAborted)).mono (by simp)
    · by_cases refused : ¬(s.ops (.connect op)).reserved ∨ s.state ≠ .null
      · rw [if_pos refused]
        exact (completeConnect_effects s _ (by simp)).mono (by simp)
      · rw [if_neg refused]
        rw [not_or, not_not, not_not] at refused
        have begun : Effects host [.storing] s _ :=
          .single (.begin refused.2 handler refused.1 storable)
        have armed (u : Client) (timeoutMs : Nat) :
            Effects host [.control] u (u.armStateTimer timeoutMs).doResolveHost :=
          (armStateTimer_effects u timeoutMs).trans (.single (.start rfl))
        exact (begun.mono (by simp)).trans ((armed _ _).mono (by simp))
  · rw [if_pos (by simpa using handler)]
    exact .refl

theorem onDoResolveHost_effects (s : Client) (generation : Nat) (errorCode : ErrorCode)
    (results : List ResolvedEndpoint) :
    Effects host [.control] s (s.onDoResolveHost generation errorCode results) := by
  unfold onDoResolveHost
  split
  · exact .refl
  · extract_lets cause
    split
    · exact onError_effects s cause
    · exact .single (.start rfl)

theorem doOpen_effects (s : Client) : Effects host [.control] s (s.doOpen host) := by
  unfold doOpen
  split
  · exact onError_effects s _
  · rename_i details effective
    by_cases exposed : details.token.isSome ∧ ¬s.isSecure
    · rw [if_pos exposed]
      exact onError_effects s _
    · rw [if_neg exposed]
      refine doSendMessage_effects false ?_ (by simp)
      intro some
      have secure : s.isSecure = true := by
        by_contra insecure
        exact exposed ⟨some, insecure⟩
      exact ⟨secure, details, effective, rfl⟩

theorem onConnect_effects (s : Client) (generation : Nat) (errorCode : ErrorCode) :
    Effects host [.control] s (s.onConnect host generation errorCode) := by
  unfold onConnect
  split
  · exact .refl
  · split
    · exact onError_effects s errorCode
    · exact (doOpen_effects s).trans (doReadIncomingMessage_effects _)

/-! ## The range connect -/

theorem socketAsyncConnect_effects (s : Client) (connection : Nat) (endpoint : ResolvedEndpoint) :
    Effects host [.range] s (s.socketAsyncConnect connection endpoint) := by
  unfold socketAsyncConnect
  split
  · exact .single (.socketOutput rfl)
  · split
    · exact .refl
    · exact ((Effects.single .socket).trans (.single (.socketOutput rfl))).trans
        (.single (.socketOutput rfl))

theorem Stamped.of_eq (stamped : s.Stamped task) (generation : t.generation = s.generation)
    (connection : t.connection = s.connection) : t.Stamped task :=
  ⟨generation ▸ stamped.generation, connection ▸ stamped.connection,
    generation ▸ connection ▸ stamped.stale⟩

theorem Stamped.socketAsyncConnect (stamped : s.Stamped task) (connection : Nat)
    (endpoint : ResolvedEndpoint) : (s.socketAsyncConnect connection endpoint).Stamped task := by
  unfold Client.socketAsyncConnect
  split
  · exact stamped.of_eq rfl rfl
  · split
    · exact stamped
    · exact stamped.of_eq rfl rfl

theorem rangeNext_effects (stamped : s.Stamped task) (errorCode : ErrorCode)
    (endpoints : List ResolvedEndpoint) :
    Effects host [.range] s (s.rangeNext task errorCode endpoints) := by
  cases endpoints with
  | nil => exact .single (.resume stamped rfl)
  | cons endpoint rest =>
    exact (socketAsyncConnect_effects s _ _).trans
      (.single (.resume (stamped.socketAsyncConnect _ _) rfl))

theorem onRangeAttempt_effects (stamped : s.Stamped task) (errorCode : ErrorCode)
    (rest : List ResolvedEndpoint) :
    Effects host [.range] s (s.onRangeAttempt task errorCode rest) := by
  unfold onRangeAttempt
  split
  · exact .single (.resume stamped rfl)
  · have closed : Effects host [.range] s (s.closeSocket.emit (.socketClose task.connection)) :=
      (Effects.single .socket).trans (.single (.socketOutput rfl))
    refine closed.trans (rangeNext_effects ?_ _ _)
    exact stamped.of_eq rfl rfl

/-! ## Tunnels -/

theorem doCreateTunnel_effects (s : Client) (requestId : String) (op : Nat) :
    Effects host [.control] s (s.doCreateTunnel host requestId op) := by
  unfold doCreateTunnel
  split
  · exact .refl
  · exact doSendMessage_effects false (tokenConfined_of_none rfl) (by simp)

theorem createTunnelOps_freshRequestId {oracle : Oracle}
    (found : s.freshRequestId oracle = some requestId) : s.createTunnelOps[requestId]? = none := by
  have unused := List.find?_some found
  rw [Bool.not_eq_true', ← Bool.not_eq_true, TreeMap.contains_iff_mem] at unused
  exact TreeMap.getElem?_eq_none unused

theorem asyncCreateTunnelInternal_effects (storable : s.Storable (.createTunnel op))
    (oracle : Oracle) :
    Effects host [.control, .storing] s (s.asyncCreateTunnelInternal host op oracle) := by
  have refused {errorCode : ErrorCode} (failed : errorCode.failed = true) :
      Effects host [.control, .storing] s (s.completeCreateTunnel op errorCode .unit) :=
    (complete_effects s _ failed (by simp)).mono (by simp)
  unfold asyncCreateTunnelInternal
  by_cases handler : (s.ops (.createTunnel op)).handler = true
  · rw [if_neg (by simp [handler])]
    split
    · exact refused ErrorCode.failed_operationAborted
    · by_cases connected : s.state = .connected
      · rw [if_neg (by simp [connected])]
        split
        · exact refused (by simp)
        · split
          · exact refused (by simp)
          · rename_i requestId found
            have free := createTunnelOps_freshRequestId found
            have stored : Effects host [.storing] s _ :=
              .single (.storeCreate connected free handler storable)
            exact (stored.mono (by simp)).trans ((doCreateTunnel_effects _ _ _).mono (by simp))
      · rw [if_pos connected]
        exact refused (by simp)
  · rw [if_pos (by simpa using handler)]
    exact .refl

theorem cancelCreateTunnel_effects (s : Client) (op : Nat) :
    Effects host [.control] s (s.cancelCreateTunnel op) := by
  unfold cancelCreateTunnel
  split
  · exact .refl
  · exact complete_effects s _ ErrorCode.failed_operationAborted (by simp)

theorem closeTunnelInternal_effects (s : Client) (tunnelId : String) :
    Effects host [.control] s (s.closeTunnelInternal host tunnelId) := by
  unfold closeTunnelInternal
  split
  · exact .refl
  · split
    · exact .refl
    · split
      · exact .refl
      · have marked : Effects host [.control] s _ := .single (.markClosing tunnelId)
        refine marked.trans ?_
        unfold doCloseTunnel
        split
        · exact .refl
        · exact doSendMessage_effects false (tokenConfined_of_none rfl) (by simp)

/-- The close request of a tunnel changes neither the create operations nor the
operation objects. -/
theorem closeTunnelInternal_ops (host : Host) (s : Client) (tunnelId : String) :
    (s.closeTunnelInternal host tunnelId).createTunnelOps = s.createTunnelOps ∧
      (s.closeTunnelInternal host tunnelId).ops = s.ops := by
  unfold closeTunnelInternal doCloseTunnel
  split
  · exact ⟨rfl, rfl⟩
  · split
    · exact ⟨rfl, rfl⟩
    · split
      · exact ⟨rfl, rfl⟩
      · split
        · exact ⟨rfl, rfl⟩
        · obtain ⟨_, _, _, _, _, _, framed⟩ := doSendMessage_frame host _ _ _
          rw [framed]
          exact ⟨rfl, rfl⟩

theorem insertTunnel_effects (properties : TunnelProperties) (running : s.state ≠ .null)
    (opened : s.state ≠ .connecting) : Effects host [.opening] s (s.insertTunnel properties) := by
  unfold insertTunnel
  split
  · exact (Effects.single .fault).trans (.single (.addTunnel running opened))
  · exact .single (.addTunnel running opened)

/-- The outcome of a create operation, whatever it is, completes the operation and
leaves the pending requests alone. -/
theorem settleTunnelResponse_spec (host : Host) (s : Client) (op : Nat)
    (properties : TunnelProperties) (errorCode : ErrorCode) :
    (s.settleTunnelResponse host op properties errorCode).createTunnelOps = s.createTunnelOps ∧
      ((s.settleTunnelResponse host op properties errorCode).ops (.createTunnel op)).completed
        = true := by
  have settled (cause : ErrorCode) (value : Value) :
      (s.complete (.createTunnel op) cause value).createTunnelOps = s.createTunnelOps ∧
        ((s.complete (.createTunnel op) cause value).ops (.createTunnel op)).completed = true := by
    obtain ⟨ops, log, framed⟩ := complete_frame s (.createTunnel op) cause value
    exact ⟨by rw [framed], completed_complete _ _ _ _⟩
  unfold settleTunnelResponse completeCreateTunnel
  extract_lets tunnelId
  split
  · split
    · exact settled _ _
    · obtain ⟨requests, ops⟩ := closeTunnelInternal_ops host
        (s.complete (.createTunnel op) .operationAborted .unit) tunnelId
      rw [requests, ops]
      exact settled _ _
  · exact settled _ _

theorem settleTunnelResponse_effects_of_failed (s : Client) (op : Nat)
    (properties : TunnelProperties) (failed : errorCode.failed = true) :
    Effects host [.control] s (s.settleTunnelResponse host op properties errorCode) := by
  simp only [settleTunnelResponse, failed, if_true]
  split
  · exact complete_effects s _ ErrorCode.failed_operationAborted (by simp)
  · exact complete_effects s _ failed (by simp)

theorem settleTunnelResponse_effects (s : Client) (op : Nat) (properties : TunnelProperties)
    (errorCode : ErrorCode) :
    Effects host [.control, .opening] s
      (s.settleTunnelResponse host op properties errorCode) := by
  unfold settleTunnelResponse
  extract_lets tunnelId
  split
  · have aborted : Effects host [.control] s (s.completeCreateTunnel op .operationAborted .unit) :=
      complete_effects s _ ErrorCode.failed_operationAborted (by simp)
    split
    · exact aborted.mono (by simp)
    · exact (aborted.trans (closeTunnelInternal_effects _ _)).mono (by simp)
  · unfold completeCreateTunnel
    cases pending : (s.ops (.createTunnel op)).completed with
    | true =>
      rw [complete_of_completed pending]
      exact .refl
    | false =>
      rw [complete_of_pending pending]
      exact (Effects.single (.created pending)).mono (by simp)

/-- The request of the operation that was settled is erased. -/
theorem eraseCreate_effects
    (only : ∀ other, s.createTunnelOps[requestId]? = some other → other = op)
    (spec : t.createTunnelOps = s.createTunnelOps ∧
      (t.ops (.createTunnel op)).completed = true) :
    Effects host [.control] t { t with createTunnelOps := t.createTunnelOps.erase requestId } := by
  refine .single (.eraseCreate ?_)
  intro other found
  rw [spec.1] at found
  rw [only other found]
  exact spec.2

/-- A refused create operation, or one that the end of the connection sweeps. -/
theorem onTunnelResponse_effects_of_failed
    (only : ∀ other, s.createTunnelOps[requestId]? = some other → other = op)
    (properties : TunnelProperties) (failed : errorCode.failed = true) :
    Effects host [.control] s (s.onTunnelResponse host requestId op properties errorCode) := by
  simp only [onTunnelResponse, failed, if_true]
  exact (settleTunnelResponse_effects_of_failed s op properties failed).trans
    (eraseCreate_effects only (settleTunnelResponse_spec host s op properties errorCode))

theorem insertTunnel_createTunnelOps (s : Client) (properties : TunnelProperties) :
    (s.insertTunnel properties).createTunnelOps = s.createTunnelOps := by
  unfold insertTunnel
  split <;> rfl

theorem onTunnelResponse_effects
    (only : ∀ other, s.createTunnelOps[requestId]? = some other → other = op)
    (properties : TunnelProperties) (succeeded : errorCode.failed = false)
    (running : s.state ≠ .null) (opened : s.state ≠ .connecting) :
    Effects host [.control, .opening] s
      (s.onTunnelResponse host requestId op properties errorCode) := by
  simp only [onTunnelResponse, succeeded, Bool.false_eq_true, if_false]
  have inserted : Effects host [.opening] s (s.insertTunnel properties) :=
    insertTunnel_effects properties running opened
  have only : ∀ other, (s.insertTunnel properties).createTunnelOps[requestId]? = some other →
      other = op := by
    rw [insertTunnel_createTunnelOps]
    exact only
  refine ((inserted.mono (by simp)).trans
    (settleTunnelResponse_effects _ op properties errorCode)).trans ?_
  exact (eraseCreate_effects only
    (settleTunnelResponse_spec host _ op properties errorCode)).mono (by simp)

theorem foldl_effects {α : Type} {areas : List Area} {f : Client → α → Client}
    (each : ∀ s entry, Effects host areas s (f s entry)) (entries : List α) (s : Client) :
    Effects host areas s (entries.foldl f s) := by
  induction entries generalizing s with
  | nil => exact .refl
  | cons entry entries ih => exact (each s entry).trans (ih (f s entry))

theorem closeStreams_effects (s : Client) (streams : TreeMap String Container) :
    Effects host [.control] s (s.closeStreams streams) := by
  refine foldl_effects ?_ _ s
  intro s entry
  cases entry.2.ptr with
  | none => exact .refl
  | some stream => exact .single (.notice rfl)

theorem closeBusyPeer_effects (s : Client) (op : Nat) :
    Effects host [.control] s (s.closeBusyPeer op) := by
  unfold closeBusyPeer
  split
  · exact .single (.notice rfl)
  · exact .refl

/-- Closing the sockets of a tunnel's streams is visible in the log only. -/
theorem closeStreams_frame (s : Client) (streams : TreeMap String Container) :
    ∃ log, s.closeStreams streams = { s with log := log } := by
  unfold closeStreams
  induction streams.toList generalizing s with
  | nil => exact ⟨s.log, rfl⟩
  | cons entry entries ih =>
    rw [List.foldl_cons]
    cases entry.2.ptr with
    | none => exact ih s
    | some stream =>
      obtain ⟨log, framed⟩ := ih (s.emit (.closePeer stream.peer))
      exact ⟨log, framed⟩

theorem closeBusyPeer_frame (s : Client) (op : Nat) :
    ∃ log, s.closeBusyPeer op = { s with log := log } := by
  unfold closeBusyPeer
  split
  · exact ⟨_, rfl⟩
  · exact ⟨s.log, rfl⟩

theorem completeAcceptTunnel_effects (s : Client) (op : Nat) (value : Value)
    (failed : errorCode.failed = true) :
    Effects host [.control] s (s.completeAcceptTunnel op errorCode value) :=
  complete_effects s value failed (by simp)

/-- The accept operation of a tunnel is completed before the tunnel goes. -/
theorem settled_of_found (found : s.tunnels[tunnelId]? = some tunnel) (kept : t.tunnels = s.tunnels)
    (settled : ∀ op, tunnel.acceptOp = some op → (t.ops (.acceptTunnel op)).completed = true)
    (other : Tunnel) (op : Nat) (foundOther : t.tunnels[tunnelId]? = some other)
    (stored : other.acceptOp = some op) : (t.ops (.acceptTunnel op)).completed = true := by
  rw [kept, found, Option.some_inj] at foundOther
  rw [← foundOther] at stored
  exact settled op stored

/-- What failing the accept operation of a tunnel leaves alone. -/
theorem failAccept_frame (s : Client) (op : Nat) (errorCode : ErrorCode) (value : Value) :
    ∃ ops log, (s.closeBusyPeer op).completeAcceptTunnel op errorCode value =
      { s with ops := ops, log := log } := by
  obtain ⟨log, closed⟩ := closeBusyPeer_frame s op
  rw [closed]
  obtain ⟨ops, log', completed⟩ := complete_frame ({ s with log := log } : Client)
    (.acceptTunnel op) errorCode value
  exact ⟨ops, log', completed⟩

theorem onTunnelClose_effects (s : Client) (tunnelId : String) :
    Effects host [.control] s (s.onTunnelClose tunnelId) := by
  unfold onTunnelClose
  split
  · exact .refl
  · rename_i tunnel found
    refine (closeStreams_effects s tunnel.streams).trans ?_
    obtain ⟨log, swept⟩ := closeStreams_frame s tunnel.streams
    rw [swept]
    cases pending : tunnel.acceptOp with
    | none =>
      refine .single (.eraseTunnel (settled_of_found found rfl ?_))
      intro op stored
      rw [pending] at stored
      contradiction
    | some op =>
      have failed : Error.Code.tunnelNotFound.toErrorCode.failed = true := by simp
      refine ((closeBusyPeer_effects _ op).trans
        (completeAcceptTunnel_effects _ op .unit failed)).trans ?_
      obtain ⟨ops, log', framed⟩ := failAccept_frame ({ s with log := log } : Client) op
        Error.Code.tunnelNotFound .unit
      refine .single (.eraseTunnel (settled_of_found found ?_ ?_))
      · rw [framed]
      · intro other stored
        rw [pending, Option.some_inj] at stored
        rw [← stored]
        exact completed_complete _ _ _ _

/-- The accept operation is cleared after it has been completed, or before. -/
theorem complete_modifyTunnel (s : Client) (op : OpId) (errorCode : ErrorCode) (value : Value)
    (tunnelId : String) (change : Tunnel → Tunnel) :
    (s.modifyTunnel tunnelId change).complete op errorCode value =
      (s.complete op errorCode value).modifyTunnel tunnelId change := by
  by_cases settled : (s.ops op).completed = true
  · simp only [complete, settled, modifyTunnel_ops, if_true]
  · simp only [complete, settled, modifyTunnel_ops]
    rfl

theorem cancelAcceptTunnel_effects (s : Client) (tunnelId : String) (op : Nat) :
    Effects host [.control] s (s.cancelAcceptTunnel tunnelId op) := by
  unfold cancelAcceptTunnel
  split
  · exact .refl
  · split
    · exact .refl
    · rename_i tunnel found
      by_cases stored : tunnel.acceptOp = some op
      · rw [if_neg (by simp [stored])]
        simp only [completeAcceptTunnel, complete_modifyTunnel]
        refine ((closeBusyPeer_effects s op).trans
          (completeAcceptTunnel_effects _ op .unit ErrorCode.failed_operationAborted)).trans ?_
        obtain ⟨ops, log, framed⟩ := failAccept_frame s op .operationAborted .unit
        refine .single (.clearAccept (settled_of_found found ?_ ?_))
        · rw [framed]
        · intro other pending
          rw [stored, Option.some_inj] at pending
          rw [← pending]
          exact completed_complete _ _ _ _
      · rw [if_pos stored]
        exact .refl

/-! ## Proxied streams -/

theorem doSendProxyResponse_effects (s : Client) (streamId : String) (errorCode : ErrorCode) :
    Effects host [.control, .stream] s (s.doSendProxyResponse host streamId errorCode) := by
  unfold doSendProxyResponse doSendMessage
  split
  · exact .refl
  · extract_lets error
    by_cases idle : s.state = .null
    · rw [if_pos idle]
      exact .refl
    · rw [if_neg idle]
      split
      · exact (Effects.single (.respond idle)).mono (by simp)
      · exact (onError_effects s _).mono (by simp)

theorem releaseBusy_effects (s : Client) (tunnel : Tunnel) :
    Effects host [.stream] s (s.releaseBusy tunnel) := by
  unfold releaseBusy
  cases tunnel.acceptOp with
  | none => exact .refl
  | some op => exact .single (.busy op false)

theorem releaseBusy_frame (s : Client) (tunnel : Tunnel) :
    ∃ ops, s.releaseBusy tunnel = { s with ops := ops } := by
  unfold releaseBusy
  cases tunnel.acceptOp with
  | none => exact ⟨s.ops, rfl⟩
  | some op => exact ⟨_, rfl⟩

/-- An accept operation is completed with a stream, unless it was completed before. -/
theorem accepted_effects (s : Client) (op : Nat) (value : Value) :
    Effects host [.stream] s (s.completeAcceptTunnel op .none value) := by
  unfold completeAcceptTunnel
  cases pending : (s.ops (.acceptTunnel op)).completed with
  | true =>
    rw [complete_of_completed pending]
    exact .refl
  | false =>
    rw [complete_of_pending pending]
    exact .single (.accepted pending)

theorem completeAcceptTunnel_tunnels (s : Client) (op : Nat) (errorCode : ErrorCode)
    (value : Value) : (s.completeAcceptTunnel op errorCode value).tunnels = s.tunnels := by
  obtain ⟨ops, log, framed⟩ := complete_frame s (.acceptTunnel op) errorCode value
  rw [completeAcceptTunnel, framed]

theorem settleStream_effects (found : s.tunnels[tunnelId]? = some tunnel) (streamId : String)
    (container : Container) (errorCode : ErrorCode) :
    Effects host [.stream] s (s.settleStream tunnelId streamId tunnel container errorCode) := by
  unfold settleStream
  split
  · exact .single (.streams fun _ => rfl)
  · split
    · rename_i ptr op stored
      refine (accepted_effects s op _).trans (.single (.handed (fun _ => rfl) ?_))
      refine settled_of_found found (completeAcceptTunnel_tunnels s op _ _) ?_
      intro other pending
      rw [stored, Option.some_inj] at pending
      rw [← pending]
      exact completed_complete _ _ _ _
    · exact .single (.streams fun _ => rfl)
    · exact .refl

/-- What settling a stream leaves alone. -/
theorem settleStream_frame (s : Client) (tunnelId streamId : String) (tunnel : Tunnel)
    (container : Container) (errorCode : ErrorCode) :
    ∃ tunnels ops log, s.settleStream tunnelId streamId tunnel container errorCode =
      { s with tunnels := tunnels, ops := ops, log := log } := by
  unfold settleStream
  split
  · exact ⟨_, _, _, rfl⟩
  · split
    · rename_i ptr op _
      dsimp only [completeAcceptTunnel]
      generalize Value.accepted _ _ = value
      obtain ⟨ops, log, framed⟩ := complete_frame s (.acceptTunnel op) .none value
      rw [framed]
      exact ⟨_, _, _, rfl⟩
    · exact ⟨_, _, _, rfl⟩
    · exact ⟨_, _, _, rfl⟩

theorem onConnectStream_effects (s : Client) (generation : Nat) (tunnelId streamId : String)
    (errorCode : ErrorCode) :
    Effects host [.control, .stream] s
      (s.onConnectStream host generation tunnelId streamId errorCode) := by
  unfold onConnectStream
  split
  · exact .refl
  · split
    · exact doSendProxyResponse_effects s _ _
    · rename_i tunnel found
      split
      · exact doSendProxyResponse_effects s _ _
      · rename_i container stream
        have released : Effects host [.stream] s (s.releaseBusy tunnel) :=
          releaseBusy_effects s tunnel
        have kept : (s.releaseBusy tunnel).tunnels[tunnelId]? = some tunnel := by
          obtain ⟨ops, framed⟩ := releaseBusy_frame s tunnel
          rw [framed]
          exact found
        have settled := released.trans (settleStream_effects kept streamId container errorCode)
        exact (settled.mono (by simp)).trans (doSendProxyResponse_effects _ _ _)

theorem connectPeer_effects (s : Client) (tunnelId streamId : String) (context : StreamContext)
    (peer : PeerId) (owner : Option Nat) (oracle : Oracle) :
    Effects host [.control, .stream] s
      (s.connectPeer host tunnelId streamId context peer owner oracle) := by
  unfold connectPeer
  split
  · exact onConnectStream_effects s _ _ _ _
  · exact (Effects.single .connectStream).mono (by simp)

theorem doConnectStream_effects (s : Client) (tunnelId streamId : String) (tunnel : Tunnel)
    (container : Container) (oracle : Oracle) :
    Effects host [.control, .stream] s
      (s.doConnectStream host tunnelId streamId tunnel container oracle) := by
  unfold doConnectStream
  split
  · exact connectPeer_effects s _ _ _ _ _ _
  · split
    · exact .refl
    · rename_i op _ _ _
      have marked : Effects host [.stream] s _ := .single (.busy op true)
      exact (marked.mono (by simp)).trans (connectPeer_effects _ _ _ _ _ _ _)
  · exact .refl

theorem rejectStream_effects (s : Client) (streamId : String) (errorCode : ErrorCode) :
    Effects host [.control, .stream] s (s.rejectStream host streamId errorCode) :=
  ((Effects.single .request).mono (by simp)).trans (doSendProxyResponse_effects _ _ _)

theorem admitStream_effects (s : Client) (tunnelId streamId : String) (context : StreamContext) :
    Effects host [.stream] s (s.admitStream tunnelId streamId context) := by
  unfold admitStream
  have requested : Effects host [.stream] s
      (s.emit (.proxyRequest s.connection streamId true)) := .single .request
  have inserted : Effects host [.stream] _ ((s.emit (.proxyRequest s.connection streamId
      true)).modifyTunnel tunnelId fun t =>
        { t with streams := t.streams.insertIfNew streamId (s.newContainer context) }) :=
    .single (.streams fun _ => rfl)
  exact (requested.trans inserted).trans (.single .peer)

theorem onProxyRequest_effects (s : Client) (tunnelId streamId : String) (tunnel : Tunnel)
    (context : StreamContext) (oracle : Oracle) :
    Effects host [.control, .stream] s
      (s.onProxyRequest host tunnelId streamId tunnel context oracle) := by
  unfold onProxyRequest
  split
  · exact .refl
  · split
    · exact rejectStream_effects s _ _
    · split
      · exact rejectStream_effects s _ _
      · exact ((admitStream_effects s _ _ _).mono (by simp)).trans
          (doConnectStream_effects _ _ _ _ _ _)

theorem acceptOnTunnel_effects (connected : s.state = .connected)
    (found : s.tunnels[tunnelId]? = some tunnel) (free : tunnel.acceptOp = none)
    (storable : s.Storable (.acceptTunnel op)) (oracle : Oracle) :
    Effects host [.control, .stream] s (s.acceptOnTunnel host tunnelId tunnel op oracle) := by
  have stored : Effects host [.control, .stream] s (s.storeAccept tunnelId op) := by
    refine (Effects.single (.storeAccept connected ?_ storable)).mono (by simp)
    intro other foundOther
    rw [found, Option.some_inj] at foundOther
    rw [← foundOther]
    exact free
  unfold acceptOnTunnel
  split
  · split
    · rename_i streamId container _
      have handed : Effects host [.stream] s (s.handOver tunnelId op streamId container) :=
        (accepted_effects s op _).trans (.single (.streams fun _ => rfl))
      exact handed.mono (by simp)
    · exact stored
  · split
    · exact stored.trans (doConnectStream_effects _ _ _ _ _ _)
    · exact stored

/-- An accept operation is refused, or it has reached a tunnel without one. -/
theorem asyncAcceptTunnelInternal_cases (host : Host) (s : Client) (tunnelId : String) (op : Nat)
    (oracle : Oracle) :
    Effects host [.control] s (s.asyncAcceptTunnelInternal host tunnelId op oracle) ∨
      s.state = .connected ∧ (s.ops (.acceptTunnel op)).handler = true ∧
        (s.ops (.acceptTunnel op)).cancelled = false ∧
        ∃ tunnel, s.tunnels[tunnelId]? = some tunnel ∧ tunnel.acceptOp = none ∧
          s.asyncAcceptTunnelInternal host tunnelId op oracle =
            (if oracle.peerInitialized then s.emit (.closePeer (s.ops (.acceptTunnel op)).peer)
              else s).acceptOnTunnel host tunnelId tunnel op oracle := by
  have refused {errorCode : ErrorCode} (failed : errorCode.failed = true) :
      Effects host [.control] s (s.completeAcceptTunnel op errorCode .unit) :=
    completeAcceptTunnel_effects s op .unit failed
  unfold asyncAcceptTunnelInternal
  by_cases handler : (s.ops (.acceptTunnel op)).handler = true
  · rw [if_neg (by simp [handler])]
    by_cases cancelled : (s.ops (.acceptTunnel op)).cancelled = true
    · rw [if_pos cancelled]
      exact .inl (refused ErrorCode.failed_operationAborted)
    · rw [if_neg cancelled]
      by_cases connected : s.state = .connected
      · rw [if_neg (by simp [connected])]
        split
        · exact .inl (refused (by simp))
        · rename_i tunnel found
          by_cases pending : tunnel.acceptOp.isSome = true
          · rw [if_pos pending]
            exact .inl (refused (by simp))
          · rw [if_neg pending]
            exact .inr ⟨connected, handler, by simpa using cancelled, tunnel, found,
              by simpa using pending, rfl⟩
      · rw [if_pos connected]
        exact .inl (refused (by simp))
  · rw [if_pos (by simpa using handler)]
    exact .inl .refl

theorem asyncAcceptTunnelInternal_effects (storable : s.Storable (.acceptTunnel op))
    (tunnelId : String) (oracle : Oracle) :
    Effects host [.control, .stream] s
      (s.asyncAcceptTunnelInternal host tunnelId op oracle) := by
  rcases asyncAcceptTunnelInternal_cases host s tunnelId op oracle with
    refused | ⟨connected, _, _, tunnel, found, free, reached⟩
  · exact refused.mono (by simp)
  · rw [reached]
    split
    · have closed : Effects host [.control] s
          (s.emit (.closePeer (s.ops (.acceptTunnel op)).peer)) := .single (.notice rfl)
      refine (closed.mono (by simp)).trans (acceptOnTunnel_effects ?_ ?_ free ?_ oracle)
      · exact connected
      · exact found
      · exact ⟨storable.allocated, storable.consumed, storable.absent⟩
    · exact acceptOnTunnel_effects connected found free storable oracle

end Client

end Rstream.IoRstrm
