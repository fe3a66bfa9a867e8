import Rstream.IoRstrm.Acceptor.Tunnels

/-!
# One tunnel per connection

Along runs all of whose steps are `Undisturbed` the acceptor requests a tunnel only
when it holds none and waits for none. Each handler is followed to the place where it
requests a tunnel, holds one or arms the timer; there the load of the connection is zero.
-/

namespace Rstream.IoRstrm.Acceptor

open Library

variable {host : Host} {s t : Acceptor}

/-! ## The condition -/

/-- A call of `async_accept`. -/
def accepts : AcceptorCall → Bool
  | .asyncAccept _ => true
  | _ => false

/-- Work begins a connection only if no wait of the timer is left. -/
def Unhurried (s : Acceptor) : Option AcceptorWork → Prop
  | some (.asyncAcceptInternal op) => s.Starts op → s.waits = 0
  | _ => True

/-- A completion that reaches a connected acceptor is one of the present connection. -/
def Timely (s : Acceptor) (request : Request) (errorCode : ErrorCode) : Prop :=
  match request.kind with
  | .connect => True
  | .create => request.connection = s.connection
  | .accept op => errorCode.failed = true → (s.ops op).cancelled = false → s.closing = false →
      request.connection = s.connection

/-- No connection begins while a wait of the timer is left that may still run its callback,
and no completion of an earlier connection reaches a connected acceptor. -/
def Undisturbed (s : Acceptor) : Event → Prop
  | .run index _ => s.Unhurried s.tasks[index]?
  | .timer _ => s.state = .idle → s.closing = false → s.waits = 1
  | .completed request errorCode _ _ _ _ => s.state = .connected → s.Timely request errorCode
  | .disconnection _ _ calls => s.state = .connected → calls.any accepts = true →
      s.timerExpired = 0
  | _ => True

/-! ## What an event consumes -/

namespace Tidy

theorem of_less (tidy : s.Tidy) (state : t.state = s.state) (tunnel : t.tunnel = s.tunnel)
    (requests : t.requests.Sublist s.requests) (connection : t.connection = s.connection)
    (waits : t.waits ≤ s.waits) (acceptOp : t.acceptOp = s.acceptOp) (log : t.log = s.log)
    (accepting : ∀ op, t.acceptsFor op ≤ if (t.ops op).accepting then 1 else 0) : t.Tidy where
  single connected := by
    rw [state] at connected
    have before := tidy.single connected
    have creates : t.outstandingCreates.length ≤ s.outstandingCreates.length := by
      rw [outstandingCreates, connection, outstandingCreates]
      exact (requests.filter _).length_le
    rw [load] at before ⊢
    rw [tunnel]
    omega
  quiet connecting := by
    rw [state] at connecting
    exact Nat.le_zero.mp (tidy.quiet connecting ▸ waits)
  released away := by
    rw [tunnel]
    exact tidy.released (state ▸ away)
  accepting := accepting
  held connected request mem op kind current := by
    rw [state] at connected
    rw [connection] at current
    rw [tunnel, acceptOp]
    exact tidy.held connected request (requests.subset mem) op kind current
  past request mem := by
    rw [connection]
    exact tidy.past request (requests.subset mem)
  fresh connecting request mem := by
    rw [state] at connecting
    rw [connection]
    exact tidy.fresh connecting request (requests.subset mem)
  clean := by
    rw [log]
    exact tidy.clean

theorem erase (tidy : s.Tidy) (request : Request) :
    ({ s with requests := s.requests.erase request } : Acceptor).Tidy := by
  refine tidy.of_less rfl rfl List.erase_sublist rfl (Nat.le_refl _) rfl rfl fun op => ?_
  exact Nat.le_trans (List.erase_sublist.countP_le) (tidy.accepting op)

theorem eraseAccept (tidy : s.Tidy) {request : Request} {op : Nat} (mem : request ∈ s.requests)
    (kind : request.kind = .accept op) :
    (({ s with requests := s.requests.erase request } : Acceptor).modifyOp op
      fun o => { o with accepting := false }).Tidy ∧
    (({ s with requests := s.requests.erase request } : Acceptor).modifyOp op
      fun o => { o with accepting := false }).acceptsFor op = 0 := by
  have counted : (s.requests.erase request).countP (fun other => other.kind = .accept op) + 1 =
      s.acceptsFor op := by
    rw [acceptsFor, (List.perm_cons_erase mem).countP_eq, List.countP_cons,
      if_pos (decide_eq_true kind)]
  have once := tidy.accepting op
  have none : (s.requests.erase request).countP (fun other => other.kind = .accept op) = 0 := by
    split at once <;> omega
  refine ⟨tidy.of_less rfl rfl List.erase_sublist rfl (Nat.le_refl _) rfl rfl fun other => ?_, none⟩
  by_cases same : other = op
  · subst same
    exact Nat.le_trans (Nat.le_of_eq none) (Nat.zero_le _)
  · rw [modifyOp_ops, Function.update_of_ne same]
    exact Nat.le_trans (List.erase_sublist.countP_le) (tidy.accepting other)

end Tidy

/-! ## Beginning a connection -/

/-- An operation that begins no connection is stored, accepted or refused. -/
theorem asyncAcceptInternal_quiet (wellFormed : s.WellFormed) {op : Nat} (ready : s.Ready op)
    (oracle : AcceptorOracle) (waits : ¬ s.Starts op) :
    Effects [.quiet] s (s.asyncAcceptInternal op oracle) := by
  rcases asyncAcceptInternal_cases wellFormed ready oracle with quiet | ⟨starts, -⟩
  · exact quiet
  · exact absurd starts waits

/-- Calls without `async_accept` begin no connection. -/
theorem callOnStrand_steady (wellFormed : s.WellFormed) (oracle : AcceptorOracle)
    {call : AcceptorCall} (other : accepts call = false) :
    Effects [.calling, .quiet, .closing] s (s.callOnStrand oracle call) := by
  obtain ⟨issued, -⟩ := issue_effects wellFormed call
  have first : Effects [.calling, .quiet, .closing] s (s.issue call).1 := issued.mono (by simp)
  rw [callOnStrand]
  cases dispatched : (s.issue call).2 with
  | none => exact first
  | some work =>
    refine first.trans ?_
    cases call with
    | setControlCallbacks callbacks | settings settings | bind endpoint => cases dispatched
    | asyncAccept peer => cases other
    | close =>
      have same : work = .closeInternal := by
        rw [issue] at dispatched
        split at dispatched
        · cases dispatched
        · cases dispatched
          rfl
      subst same
      exact (closeInternal_effects _).1
    | cancel op =>
      have same : work = .cancelAccept op := by
        rw [issue] at dispatched
        split at dispatched
        · cases dispatched
          rfl
        · cases dispatched
      subst same
      exact (cancelAccept_effects (issued.wellFormed wellFormed) op).mono (by simp)

variable {calls : List AcceptorCall}

theorem callsOnStrand_steady (wellFormed : s.WellFormed) (oracle : AcceptorOracle)
    (others : calls.any accepts = false) :
    Effects [.calling, .quiet, .closing] s (calls.foldl (callOnStrand oracle) s) := by
  induction calls generalizing s with
  | nil => exact .refl
  | cons call calls ih =>
    rw [List.any_cons, Bool.or_eq_false_iff] at others
    have first := callOnStrand_steady wellFormed oracle others.1
    exact first.trans (ih (first.wellFormed wellFormed) others.2)

theorem notify_steady (wellFormed : s.WellFormed) (status : StatusExtd) (oracle : AcceptorOracle)
    (others : calls.any accepts = false) :
    Effects [.calling, .quiet, .closing] s (s.notify status oracle calls) := by
  have noted : Effects [.calling, .quiet, .closing] s { s with status := status } :=
    .single .status (by simp)
  rw [notify]
  dsimp only
  split
  · have told : Effects [.calling, .quiet, .closing] s
        (({ s with status := status } : Acceptor).emit (.status status)) :=
      noted.trans (.single (.notice rfl) (by simp))
    exact told.trans (callsOnStrand_steady (told.wellFormed wellFormed) oracle others)
  · exact noted

/-- A notification keeps the invariant when no wait is left, or when it begins nothing. -/
theorem Tidy.notify (tidy : s.Tidy) (wellFormed : s.WellFormed) (status : StatusExtd)
    (oracle : AcceptorOracle) (unhurried : calls.any accepts = true → s.waits = 0) :
    (s.notify status oracle calls).Tidy := by
  cases accepting : calls.any accepts with
  | true =>
    exact (notify_effects wellFormed status oracle calls).1.tidy_of_none (fun _ mem => mem) tidy
      (unhurried accepting)
  | false =>
    exact (notify_steady wellFormed status oracle accepting).tidy (by simp [tidyAreas]) tidy

/-! ## Requesting a tunnel -/

namespace Tidy

section

variable (tidy : s.Tidy)

include tidy

theorem notify_connected (wellFormed : s.WellFormed)
    (connected : s.state = .connected) (status : StatusExtd) (oracle : AcceptorOracle)
    (calls : List AcceptorCall) :
    (s.notify status oracle calls).Tidy ∧ (s.notify status oracle calls).load = s.load := by
  have effects := (notify_effects wellFormed status oracle calls).2 (by simp [connected])
    (by simp [connected])
  exact ⟨effects.tidy (by simp [tidyAreas]) tidy, effects.load_of_quiet (by simp)⟩

theorem doCreateTunnel (oracle : AcceptorOracle)
    (free : s.state = .connected → s.load = 0) : (s.doCreateTunnel oracle).Tidy := by
  rw [Acceptor.doCreateTunnel]
  split
  · exact tidy
  · rename_i open'
    rw [not_or, not_not] at open'
    split
    · have noted : Effects [.quiet] s (s.emit .fault) := .single (.notice rfl) (by simp)
      exact noted.tidy (by simp [tidyAreas]) tidy
    · exact tidy.create open'.1 (free open'.1)

theorem doRecreateTunnel (free : s.state = .connected → s.load = 0) :
    s.doRecreateTunnel.Tidy := by
  rw [Acceptor.doRecreateTunnel]
  split
  · exact tidy
  · rename_i open'
    rw [not_or, not_not] at open'
    exact tidy.recreate open'.1 (free open'.1)

theorem onError (errorCode : ErrorCode) : (s.onError errorCode).Tidy :=
  (onError_effects s errorCode).tidy (by simp [tidyAreas]) tidy

theorem onClose (errorCode : ErrorCode) : (s.onClose errorCode).Tidy :=
  (onClose_effects s errorCode).tidy (by simp [tidyAreas]) tidy

/-! ## Handlers -/

section

variable (wellFormed : s.WellFormed)

include wellFormed

theorem onConnect (errorCode : ErrorCode)
    (oracle : AcceptorOracle) (calls : List AcceptorCall) :
    (s.onConnect host errorCode oracle calls).Tidy := by
  rw [Acceptor.onConnect]
  split
  · exact tidy
  rename_i connecting
  rw [not_not] at connecting
  split
  · exact tidy.onClose .none
  split
  · split
    · have failed : Effects [.turning] s { s with state := .idle } :=
        .single (.failed connecting) (by simp)
      refine ((doReconnect_effects _).tidy (by simp [tidyAreas]) ?_)
      exact (failed.tidy (by simp [tidyAreas]) tidy).notify (failed.wellFormed wellFormed) _ oracle
        fun _ => tidy.quiet connecting
    · exact tidy.onError errorCode
  · have opened : Effects [.turning] s { s with state := .connected } :=
      .single (.opened connecting) (by simp)
    obtain ⟨kept, load⟩ := (tidy.opened connecting).notify_connected (opened.wellFormed wellFormed)
      rfl (s.statusOf "connected") oracle calls
    exact kept.doCreateTunnel oracle fun _ => load.trans (tidy.load_opened connecting)

theorem onCreateTunnelFailed
    (connected : s.state = .connected) (free : s.load = 0) (errorCode : ErrorCode)
    (oracle : AcceptorOracle) (calls : List AcceptorCall) :
    (s.onCreateTunnelFailed host errorCode oracle calls).Tidy := by
  obtain ⟨kept, load⟩ := tidy.notify_connected wellFormed connected
    (s.statusOf (errorText host "tunnel creation failed" errorCode)) oracle calls
  rw [Acceptor.onCreateTunnelFailed]
  split
  · exact kept
  split
  · exact kept.doRecreateTunnel fun _ => load.trans free
  · exact kept.onError errorCode

theorem onTunnelCreated
    (connected : s.state = .connected) (free : s.load = 0) (tunnel : TunnelHandle)
    (properties : TunnelProperties) (oracle : AcceptorOracle)
    (propertiesCalls calls : List AcceptorCall) :
    (s.onTunnelCreated tunnel properties oracle propertiesCalls calls).Tidy := by
  have held : Effects [.tunnel] s { s with tunnel := some tunnel } :=
    .single (.hold connected) (by simp)
  have formed := held.wellFormed wellFormed
  have noted := notifyProperties_effects formed connected properties oracle propertiesCalls
  have kept := noted.tidy (by simp [tidyAreas]) (tidy.hold connected free)
  have after := noted.wellFormed formed
  have still := (noted.state_of_quiet (by simp)).trans connected
  rw [Acceptor.onTunnelCreated]
  dsimp only
  generalize ({ s with tunnel := some tunnel } : Acceptor).notifyProperties properties oracle
    propertiesCalls = u at kept after still ⊢
  split
  · exact kept
  · have told := (kept.notify_connected after still
      { u.statusOf "online" with
        tunnelId := properties.id, forwarding := formatForwardingAddress properties } oracle
      calls).1
    split
    · exact told
    · exact (doAccept_effects _).tidy (by simp [tidyAreas]) told

theorem onCreateTunnel
    (free : s.state = .connected → s.load = 0) (client : Nat) (errorCode : ErrorCode)
    (value : Value) (oracle : AcceptorOracle) (propertiesCalls calls : List AcceptorCall) :
    (s.onCreateTunnel host client errorCode value oracle propertiesCalls calls).Tidy := by
  rw [Acceptor.onCreateTunnel.eq_def]
  split
  · exact tidy
  rename_i connected
  rw [not_not] at connected
  split
  · exact tidy.onCreateTunnelFailed wellFormed connected (free connected) errorCode oracle calls
  split
  · exact tidy.onTunnelCreated wellFormed connected (free connected) _ _ oracle propertiesCalls
      calls
  · have noted : Effects [.quiet] s (s.emit .fault) := .single (.notice rfl) (by simp)
    exact noted.tidy (by simp [tidyAreas]) tidy

theorem onAcceptFailed
    (connected : s.state = .connected) (held : s.tunnel.isSome = true)
    (unrequested : ∀ request ∈ s.requests, ∀ op, request.kind = .accept op →
      request.connection ≠ s.connection)
    (errorCode : ErrorCode) (oracle : AcceptorOracle) (calls : List AcceptorCall) :
    (s.onAcceptFailed errorCode oracle calls).Tidy := by
  have dropped : Effects [.tunnel] s { s with tunnel := none } :=
    .single (.drop connected) (by simp)
  have kept := tidy.drop connected unrequested
  have free : ({ s with tunnel := none } : Acceptor).load = 0 := by
    obtain ⟨tunnel, some⟩ := Option.isSome_iff_exists.mp held
    have before := tidy.single connected
    rw [load, some] at before
    change 0 + s.outstandingCreates.length + s.waits = 0
    have one : (Option.some tunnel).toList.length = 1 := rfl
    omega
  rw [Acceptor.onAcceptFailed]
  dsimp only
  split
  · obtain ⟨told, load⟩ := kept.notify_connected (dropped.wellFormed wellFormed) connected
      (({ s with tunnel := none } : Acceptor).statusOf "connected") oracle calls
    exact told.doRecreateTunnel fun _ => load.trans free
  · exact kept.onError errorCode

end

end

variable {request : Request}

section

variable (tidy : s.Tidy)

include tidy

theorem onAccept (wellFormed : s.WellFormed) {op : Nat} (mem : request ∈ s.requests)
    (kind : request.kind = .accept op) {errorCode : ErrorCode}
    (timely : s.state = .connected → s.Timely request errorCode) (oracle : AcceptorOracle)
    (calls : List AcceptorCall) :
    (({ s with requests := s.requests.erase request } : Acceptor).onAccept op errorCode oracle
      calls).Tidy := by
  obtain ⟨kept, none⟩ := tidy.eraseAccept mem kind
  obtain ⟨allocated, consumed⟩ := wellFormed.requested request mem op kind
  have formed : (({ s with requests := s.requests.erase request } : Acceptor).modifyOp op
      fun o => { o with accepting := false }).WellFormed :=
    (wellFormed.erase request).modifyOp allocated (fun _ => rfl) (fun _ same => same) fun _ => rfl
  have idle : ((({ s with requests := s.requests.erase request } : Acceptor).modifyOp op
      fun o => { o with accepting := false }).ops op).accepting = false := by
    simp
  have same : ((({ s with requests := s.requests.erase request } : Acceptor).modifyOp op
      fun o => { o with accepting := false }).ops op).cancelled = (s.ops op).cancelled := by
    simp
  rw [Acceptor.onAccept]
  split
  · rename_i cancelled
    have finished := finishAccept_effects .cancelled ⟨cancelled, rfl⟩ idle consumed allocated
    exact finished.tidy (by simp [Cause.area, tidyAreas]) kept
  rename_i live
  rw [same, Bool.not_eq_true] at live
  split
  · exact kept
  rename_i open'
  rw [not_or, not_not, Bool.not_eq_true] at open'
  have connected : s.state = .connected := open'.1
  split
  · rename_i failed
    have current : request.connection = s.connection := by
      have meets := timely connected
      rw [Timely, kind] at meets
      exact meets failed live open'.2
    obtain ⟨held, stored⟩ := tidy.held connected request mem op kind current
    refine kept.onAcceptFailed formed connected held ?_ errorCode oracle calls
    intro other left asked accepts
    refine kept.unrequested connected (fun third equal => ?_) left accepts
    have equal' : third = op := Option.some.inj (equal.symm.trans stored)
    rw [equal']
    exact none
  · rename_i succeeded
    rw [Bool.not_eq_true] at succeeded
    have finished := finishAccept_effects .accepted succeeded idle consumed allocated
    exact finished.tidy (by simp [Cause.area, tidyAreas]) kept

theorem onTimerCb (wellFormed : s.WellFormed) (oracle : AcceptorOracle)
    (unhurried : s.state = .idle → s.closing = false → s.waits = 0)
    (free : s.state = .connected → s.load = 0) : (s.onTimerCb oracle).Tidy := by
  rw [Acceptor.onTimerCb]
  split
  · exact tidy
  rename_i open'
  rw [Bool.not_eq_true] at open'
  split
  · rename_i idle
    exact (doConnect_effects wellFormed.attached.mpr oracle).tidy_of_none (by simp [callAreas]) tidy
      (unhurried idle open')
  split
  · exact tidy.doCreateTunnel oracle free
  · exact tidy

theorem onClientDisconnection (wellFormed : s.WellFormed) (errorCode : ErrorCode)
    (oracle : AcceptorOracle) (calls : List AcceptorCall)
    (unhurried : s.state = .connected → calls.any accepts = true → s.timerExpired = 0) :
    (s.onClientDisconnection host errorCode oracle calls).Tidy := by
  rw [Acceptor.onClientDisconnection]
  split
  · exact tidy
  rename_i connected
  rw [not_not] at connected
  split
  · exact tidy.onClose errorCode
  split
  · have left : Effects [.turning] s { s with state := .idle, tunnel := none, timerArmed := false } :=
      .single (.disconnected connected) (by simp)
    refine (doReconnect_effects _).tidy (by simp [tidyAreas]) ?_
    refine (left.tidy (by simp [tidyAreas]) tidy).notify (left.wellFormed wellFormed) _ oracle ?_
    intro accepting
    change s.timerExpired + 0 = 0
    exact unhurried connected accepting
  · exact tidy.onError errorCode

theorem perform (wellFormed : s.WellFormed) {work : AcceptorWork}
    (ready : ∀ op, work = .asyncAcceptInternal op → s.Ready op) (oracle : AcceptorOracle)
    (unhurried : s.Unhurried (some work)) : (s.perform work oracle).Tidy := by
  cases work with
  | asyncAcceptInternal op =>
    by_cases starts : s.Starts op
    · exact (asyncAcceptInternal_effects wellFormed (ready op rfl) oracle).1.tidy_of_none
        (by simp [callAreas]) tidy (unhurried starts)
    · exact (asyncAcceptInternal_quiet wellFormed (ready op rfl) oracle starts).tidy
        (by simp [tidyAreas]) tidy
  | cancelAccept op => exact (cancelAccept_effects wellFormed op).tidy (by simp [tidyAreas]) tidy
  | closeInternal => exact (closeInternal_effects s).1.tidy (by simp [tidyAreas]) tidy

theorem load_erase (connected : s.state = .connected) (mem : request ∈ s.requests)
    (kind : request.kind = .create) (current : request.connection = s.connection) :
    ({ s with requests := s.requests.erase request } : Acceptor).load = 0 := by
  have before := tidy.single connected
  have counted : (s.requests.erase request).countP
      (fun other => other.kind = .create && other.connection = s.connection) + 1 =
      s.outstandingCreates.length := by
    rw [outstandingCreates, ← List.countP_eq_length_filter, (List.perm_cons_erase mem).countP_eq,
      List.countP_cons, if_pos (by simp [kind, current])]
  rw [load] at before
  rw [load, outstandingCreates, ← List.countP_eq_length_filter]
  change s.tunnel.toList.length + (s.requests.erase request).countP
    (fun other => other.kind = .create && other.connection = s.connection) + s.waits = 0
  omega

/-- A step that is not disturbed keeps the invariant. -/
theorem step (wellFormed : s.WellFormed) {event : Event}
    (undisturbed : s.Undisturbed event) (taken : Acceptor.step host s event = some t) :
    t.Tidy := by
  cases event with
  | call call =>
    cases taken
    exact (call_effects wellFormed call).tidy (by simp [tidyAreas]) tidy
  | run index oracle =>
    cases found : s.tasks[index]? with
    | none =>
      simp only [Acceptor.step, found] at taken
      contradiction
    | some work =>
      simp only [Acceptor.step, found, Option.some_inj] at taken
      rw [Undisturbed, found] at undisturbed
      obtain ⟨before, ready⟩ := wellFormed.takeTask found
      have alike : Alike s { s with tasks := s.tasks.eraseIdx index } :=
        .of_eq rfl rfl rfl rfl rfl rfl rfl rfl
      rw [← taken]
      exact (tidy.of_alike_stored alike rfl).perform before ready oracle undisturbed
  | expire =>
    simp only [Acceptor.step] at taken
    split at taken
    · rename_i armed
      cases taken
      refine tidy.of_less rfl rfl (List.Sublist.refl _) rfl ?_ rfl rfl tidy.accepting
      rw [waits, waits, if_pos armed]
      exact Nat.le_refl _
    · contradiction
  | timer oracle =>
    simp only [Acceptor.step] at taken
    split at taken
    · rename_i expired
      cases taken
      have less : ({ s with timerExpired := s.timerExpired - 1 } : Acceptor).waits + 1 =
          s.waits := by
        rw [waits, waits]
        dsimp only
        omega
      have before : ({ s with timerExpired := s.timerExpired - 1 } : Acceptor).WellFormed :=
        wellFormed.of_running rfl rfl rfl rfl (fun _ => rfl) rfl rfl rfl Iff.rfl
          wellFormed.requested
      have kept : ({ s with timerExpired := s.timerExpired - 1 } : Acceptor).Tidy :=
        tidy.of_less rfl rfl (List.Sublist.refl _) rfl (by omega) rfl rfl tidy.accepting
      refine kept.onTimerCb before oracle (fun idle open' => ?_) fun connected => ?_
      · have one := undisturbed idle open'
        omega
      · have single := tidy.single connected
        rw [load] at single ⊢
        change s.tunnel.toList.length + s.outstandingCreates.length + _ = 0
        omega
    · contradiction
  | completed request errorCode value oracle propertiesCalls calls =>
    simp only [Acceptor.step] at taken
    split at taken
    · rename_i mem
      rw [Option.some_inj, onCompleted] at taken
      have timely : s.state = .connected → s.Timely request errorCode := undisturbed
      cases kind : request.kind with
      | connect =>
        simp only [kind] at taken
        rw [← taken]
        exact (tidy.erase request).onConnect (wellFormed.erase request) errorCode oracle calls
      | create =>
        simp only [kind] at taken
        rw [← taken]
        refine (tidy.erase request).onCreateTunnel (wellFormed.erase request)
          (fun connected => ?_) request.client errorCode value oracle propertiesCalls calls
        have current := timely connected
        rw [Timely, kind] at current
        exact tidy.load_erase connected mem kind current
      | accept op =>
        simp only [kind] at taken
        rw [← taken]
        exact tidy.onAccept wellFormed mem kind timely oracle calls
    · contradiction
  | disconnection errorCode oracle calls =>
    cases taken
    exact tidy.onClientDisconnection wellFormed errorCode oracle calls undisturbed
  | status status oracle calls =>
    cases taken
    exact (onClientStatus_effects wellFormed status oracle calls).tidy (by simp [tidyAreas]) tidy

end

theorem initial : ({} : Acceptor).Tidy where
  single connected := nomatch connected
  quiet connecting := nomatch connecting
  released _ := rfl
  accepting _ := Nat.le_refl 0
  held connected := nomatch connected
  past _ mem := absurd mem List.not_mem_nil
  fresh connecting := nomatch connecting
  clean _ _ _ _ _ mem := absurd mem List.not_mem_nil

end Tidy

/-- **One tunnel.** In every run whose steps are undisturbed, `do_create_tunnel` asks a client
for a tunnel only when no tunnel is held and no request of the connection is outstanding; so a
connected acceptor holds or requests at most one. -/
theorem single_tunnel (run : Run (step host) Undisturbed {} s) :
    (∀ client properties connection tunnel outstanding,
      .createTunnel client properties connection tunnel outstanding ∈ s.log →
        tunnel = none ∧ outstanding = []) ∧
    (s.state = .connected → s.tunnel.toList.length + s.outstandingCreates.length ≤ 1) := by
  have both := run.invariant (p := fun u => u.WellFormed ∧ u.Tidy)
    ⟨wellFormed_initial, Tidy.initial⟩
    fun _ _ _ before meets taken => ⟨before.1.step taken, before.2.step before.1 meets taken⟩
  refine ⟨both.2.clean, fun connected => ?_⟩
  have load := both.2.single connected
  rw [Acceptor.load] at load
  omega

/-- An acceptor is bound and asked to accept, and its client connects. -/
def bindAndConnect : List Event :=
  bindAndAccept ++ [.completed ⟨0, 0, 1, .connect⟩ .none .unit {} [] []]

theorem bindAndConnect_isSome :
    (exec (step .plain) {} bindAndConnect).isSome = true := by
  decide

/-- A connected acceptor that has requested its tunnel. -/
def requestingAcceptor : Acceptor :=
  (exec (step .plain) {} bindAndConnect).get bindAndConnect_isSome

theorem requestingAcceptor_single : requestingAcceptor.state = .connected ∧
    requestingAcceptor.outstandingCreates.length = 1 ∧
    requestingAcceptor.tunnel.toList.length + requestingAcceptor.outstandingCreates.length ≤ 1 := by
  have good : GoodAlong (step .plain) Undisturbed {} bindAndConnect :=
    ⟨trivial, trivial, fun _ => rfl, fun _ => trivial, trivial⟩
  have run : Run (step .plain) Undisturbed {} requestingAcceptor :=
    Run.of_exec good (Option.some_get bindAndConnect_isSome).symm
  have connected : requestingAcceptor.state = .connected := by decide
  exact ⟨connected, by decide, (single_tunnel run).2 connected⟩

/-- The client is disconnected and the timer is armed. The accept operation is cancelled and
another one begins a connection at once; when that is open the wait of the timer ends. -/
def reconnectTwice : List Event :=
  bindAndConnect ++
    [.disconnection ⟨104, .system⟩ {} [], .call (.cancel 0), .run 0 {}, .call (.asyncAccept 1),
      .run 0 {}, .completed ⟨0, 2, 2, .connect⟩ .none .unit {} [] [], .expire, .timer {}]

theorem reconnectTwice_isSome :
    (exec (step .plain) {} reconnectTwice).isSome = true := by
  decide

/-- A connected acceptor that has requested two tunnels. -/
def duplicatingAcceptor : Acceptor :=
  (exec (step .plain) {} reconnectTwice).get reconnectTwice_isSome

/-- A tunnel is requested while a request of the same connection is outstanding. -/
theorem duplicatingAcceptor_requests_twice :
    Reaches (step .plain) {} duplicatingAcceptor ∧
      duplicatingAcceptor.settings.autoReconnect = true ∧
      duplicatingAcceptor.settings.autoRecreateTunnel = true ∧
      (∃ properties, .createTunnel 0 properties 2 none [⟨0, 3, 2, .create⟩] ∈
        duplicatingAcceptor.log) ∧
      duplicatingAcceptor.state = .connected ∧
      duplicatingAcceptor.outstandingCreates.length = 2 :=
  ⟨.of_exec reconnectTwice_isSome, by decide, by decide, ⟨{}, by decide⟩, by decide, by decide⟩

end Rstream.IoRstrm.Acceptor
