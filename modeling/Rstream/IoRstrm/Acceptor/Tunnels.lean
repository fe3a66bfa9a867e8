import Rstream.IoRstrm.Acceptor.Accepts

/-!
# Tunnels of the acceptor

On one connection the acceptor should hold or request at most one tunnel. A wait
of the timer that may still run its callback in `state::connected` requests a
tunnel as well, so the quantity to bound is the `load`: the tunnel in `m_tunnel`,
the outstanding create requests of the present connection, and the waits.

The invariant `Tidy` bounds the load by one while the acceptor is connected and
leaves no wait while it connects. Every handler keeps it except in two situations,
which `Undisturbed` excludes. A connection may begin while a wait is left, because
`async_accept` connects from `state::idle` without touching the timer and because
an expired wait cannot be cancelled. And a completion of an earlier connection may
arrive in `state::connected`, where the handlers take it for one of the present
connection.
-/

namespace Rstream.IoRstrm.Acceptor

open List

variable {host : Host} {s t : Acceptor} {area : Area}

/-- The requests for the accept of an operation. -/
def acceptsFor (s : Acceptor) (op : Nat) : Nat :=
  s.requests.countP fun request => request.kind = .accept op

/-- The tunnel that is held, the tunnels that are requested, and the waits that may
request one. -/
def load (s : Acceptor) : Nat :=
  s.tunnel.toList.length + s.outstandingCreates.length + s.waits

structure Tidy (s : Acceptor) : Prop where
  single : s.state = .connected → s.load ≤ 1
  quiet : s.state = .connecting → s.waits = 0
  released : s.state ≠ .connected → s.tunnel = none
  accepting : ∀ op, s.acceptsFor op ≤ if (s.ops op).accepting then 1 else 0
  held : s.state = .connected → ∀ request ∈ s.requests, ∀ op, request.kind = .accept op →
    request.connection = s.connection → s.tunnel.isSome = true ∧ s.acceptOp = some op
  past : ∀ request ∈ s.requests, request.connection ≤ s.connection
  fresh : s.state = .connecting → ∀ request ∈ s.requests, request.kind ≠ .connect →
    request.connection < s.connection
  clean : ∀ client properties connection tunnel outstanding,
    .createTunnel client properties connection tunnel outstanding ∈ s.log →
      tunnel = none ∧ outstanding = []

/-- What `Tidy` and `load` read is unchanged. -/
structure Alike (s t : Acceptor) : Prop where
  state : t.state = s.state
  tunnel : t.tunnel = s.tunnel
  requests : t.requests = s.requests
  connection : t.connection = s.connection
  timerArmed : t.timerArmed = s.timerArmed
  timerExpired : t.timerExpired = s.timerExpired
  accepting : ∀ op, (t.ops op).accepting = (s.ops op).accepting
  log : ∀ output ∈ t.log, (∃ client properties connection tunnel outstanding,
    output = .createTunnel client properties connection tunnel outstanding) → output ∈ s.log

theorem Alike.load (alike : Alike s t) : t.load = s.load := by
  simp only [Acceptor.load, outstandingCreates, waits, alike.tunnel, alike.requests,
    alike.connection, alike.timerArmed, alike.timerExpired]

theorem Alike.waits (alike : Alike s t) : t.waits = s.waits := by
  simp only [Acceptor.waits, alike.timerArmed, alike.timerExpired]

namespace Tidy

/-- The invariant under a change of nothing it reads but the stored operation. -/
theorem of_alike (tidy : s.Tidy) (alike : Alike s t)
    (held : t.state = .connected → ∀ request ∈ t.requests, ∀ op, request.kind = .accept op →
      request.connection = t.connection → t.acceptOp = some op) : t.Tidy where
  single connected := by
    rw [alike.load]
    exact tidy.single (alike.state ▸ connected)
  quiet connecting := by
    rw [alike.waits]
    exact tidy.quiet (alike.state ▸ connecting)
  released away := by
    rw [alike.tunnel]
    exact tidy.released (alike.state ▸ away)
  accepting op := by
    rw [acceptsFor, alike.requests, alike.accepting op]
    exact tidy.accepting op
  held connected request mem op kind current := by
    refine ⟨?_, held connected request mem op kind current⟩
    rw [alike.tunnel]
    rw [alike.requests] at mem
    rw [alike.connection] at current
    exact (tidy.held (alike.state ▸ connected) request mem op kind current).1
  past := by
    rw [alike.requests, alike.connection]
    exact tidy.past
  fresh := by
    rw [alike.state, alike.requests, alike.connection]
    exact tidy.fresh
  clean client properties connection tunnel outstanding mem :=
    tidy.clean client properties connection tunnel outstanding
      (alike.log _ mem ⟨client, properties, connection, tunnel, outstanding, rfl⟩)

theorem of_alike_stored (tidy : s.Tidy) (alike : Alike s t) (acceptOp : t.acceptOp = s.acceptOp) :
    t.Tidy := by
  refine tidy.of_alike alike fun connected request mem op kind current => ?_
  rw [acceptOp]
  rw [alike.requests] at mem
  rw [alike.connection] at current
  exact (tidy.held (alike.state ▸ connected) request mem op kind current).2

end Tidy

/-! ## Frames -/

theorem alike_completeAccept (s : Acceptor) (op : Nat) (errorCode : ErrorCode) :
    Alike s (s.completeAccept op errorCode) := by
  cases completed : (s.ops op).completed with
  | true =>
    rw [completeAccept_of_completed completed]
    exact ⟨rfl, rfl, rfl, rfl, rfl, rfl, fun _ => rfl, fun _ mem _ => mem⟩
  | false =>
    rw [completeAccept_of_pending completed]
    refine ⟨rfl, rfl, rfl, rfl, rfl, rfl, fun other => ?_, fun output mem created => ?_⟩
    · by_cases same : other = op
      · simp [same]
      · simp [same]
    · rcases mem_append.mp mem with before | new
      · exact before
      · obtain ⟨client, properties, connection, tunnel, outstanding, rfl⟩ := created
        simp at new

variable {output : AcceptorOutput} {areas : List Area}

theorem Alike.of_log (state : t.state = s.state) (tunnel : t.tunnel = s.tunnel)
    (requests : t.requests = s.requests) (connection : t.connection = s.connection)
    (timerArmed : t.timerArmed = s.timerArmed) (timerExpired : t.timerExpired = s.timerExpired)
    (ops : t.ops = s.ops) (log : t.log = s.log ++ [output])
    (other : ∀ client properties connection tunnel outstanding,
      output ≠ .createTunnel client properties connection tunnel outstanding) : Alike s t := by
  refine ⟨state, tunnel, requests, connection, timerArmed, timerExpired, fun op => by rw [ops],
    fun entry mem created => ?_⟩
  rw [log, mem_append, mem_singleton] at mem
  rcases mem with before | rfl
  · exact before
  · obtain ⟨client, properties, connection, tunnel, outstanding, same⟩ := created
    exact absurd same (other client properties connection tunnel outstanding)

theorem Alike.of_update {op : Nat} {o : AcceptOp} (state : t.state = s.state)
    (tunnel : t.tunnel = s.tunnel) (requests : t.requests = s.requests)
    (connection : t.connection = s.connection) (timerArmed : t.timerArmed = s.timerArmed)
    (timerExpired : t.timerExpired = s.timerExpired) (log : t.log = s.log)
    (ops : t.ops = Function.update s.ops op o) (kept : o.accepting = (s.ops op).accepting) :
    Alike s t := by
  refine ⟨state, tunnel, requests, connection, timerArmed, timerExpired, fun other => ?_,
    fun entry mem _ => log ▸ mem⟩
  rw [ops]
  by_cases same : other = op
  · rw [same, Function.update_self, kept]
  · rw [Function.update_of_ne same]

theorem Alike.of_eq (state : t.state = s.state)
    (tunnel : t.tunnel = s.tunnel) (requests : t.requests = s.requests)
    (connection : t.connection = s.connection) (timerArmed : t.timerArmed = s.timerArmed)
    (timerExpired : t.timerExpired = s.timerExpired) (log : t.log = s.log) (ops : t.ops = s.ops) :
    Alike s t :=
  ⟨state, tunnel, requests, connection, timerArmed, timerExpired, fun op => by rw [ops],
    fun _ mem _ => log ▸ mem⟩

theorem alike_dropAccept (s : Acceptor) (errorCode : ErrorCode) :
    Alike s (s.dropAccept errorCode) := by
  cases stored : s.acceptOp with
  | none =>
    simp only [dropAccept, stored]
    exact .of_eq rfl rfl rfl rfl rfl rfl rfl rfl
  | some op =>
    rw [dropAccept_eq stored]
    have same := alike_completeAccept ({ s with acceptOp := none } : Acceptor) op
      (errorCode.orElse Error.Code.operationAborted)
    exact ⟨same.state, same.tunnel, same.requests, same.connection, same.timerArmed,
      same.timerExpired, same.accepting, same.log⟩

/-! ## Effects that keep the load -/

/-- The request of an accept is no request for a tunnel. -/
theorem outstandingCreates_append {request : Request} (other : request.kind ≠ .create)
    (requests : t.requests = s.requests ++ [request]) (connection : t.connection = s.connection) :
    t.outstandingCreates = s.outstandingCreates := by
  rw [outstandingCreates, requests, connection, filter_append, outstandingCreates]
  simp [other]

theorem Effect.load_of_quiet (effect : Effect area s t)
    (quiet : area ∈ [.calling, .quiet, .accepted]) : t.load = s.load ∧ t.waits = s.waits := by
  cases effect with
  | @settle _ op errorCode _ _ _ =>
    have same := alike_completeAccept s op errorCode
    exact ⟨same.load, same.waits⟩
  | @finish _ op errorCode _ _ _ _ =>
    have same := alike_completeAccept ({ s with acceptOp := none } : Acceptor) op errorCode
    exact ⟨same.load, same.waits⟩
  | @accept _ op tunnel _ _ _ _ =>
    refine ⟨?_, rfl⟩
    rw [load, load]
    refine congrArg (fun creates => s.tunnel.toList.length + creates + s.waits)
      (congrArg length (outstandingCreates_append ?_ rfl rfl))
    exact fun kind => nomatch kind
  | start _ _ _ _ _ | begin _ _ | close _ | opened _ | failed _ | disconnected _ | rearm _
  | recreate _ | create _ _ | hold _ | drop _ => simp at quiet
  | _ => exact ⟨rfl, rfl⟩

theorem Effects.load_of_quiet (effects : Effects areas s t)
    (quiet : areas ⊆ [.calling, .quiet, .accepted]) : t.load = s.load := by
  refine effects.invariant (p := fun u => u.load = s.load) ?_ rfl
  intro area u v mem effect same
  exact (effect.load_of_quiet (quiet mem)).1.trans same

theorem Effect.waits_of_none (effect : Effect area s t) (called : area ∈ callAreas)
    (none : s.waits = 0) : t.waits = 0 := by
  cases effect with
  | @close _ errorCode _ =>
    rw [(alike_dropAccept (s.cleared errorCode) errorCode).waits]
    have expired : s.timerExpired = 0 := by
      rw [Acceptor.waits] at none
      omega
    rw [Acceptor.waits]
    change s.timerExpired + 0 = 0
    exact expired
  | start _ _ _ _ _ | begin _ _ => exact none
  | opened _ | failed _ | disconnected _ | rearm _ | recreate _ | create _ _ | hold _ | drop _ => simp [callAreas] at called
  | settle _ _ _ =>
    rw [(alike_completeAccept s _ _).waits]
    exact none
  | @finish _ op errorCode _ _ _ _ =>
    rw [(alike_completeAccept ({ s with acceptOp := .none } : Acceptor) op errorCode).waits]
    exact none
  | _ => exact none

/-! ## Effects that keep the invariant -/

namespace Tidy

/-- The invariant away from `state::connecting` and `state::connected`. -/
theorem of_away (tidy : s.Tidy) (away : t.state ≠ .connecting ∧ t.state ≠ .connected)
    (tunnel : t.tunnel = none) (requests : t.requests = s.requests)
    (connection : t.connection = s.connection)
    (accepting : ∀ op, (t.ops op).accepting = (s.ops op).accepting)
    (log : ∀ output ∈ t.log, (∃ client properties connection tunnel outstanding,
      output = .createTunnel client properties connection tunnel outstanding) → output ∈ s.log) :
    t.Tidy where
  single connected := absurd connected away.2
  quiet connecting := absurd connecting away.1
  released _ := tunnel
  accepting op := by
    rw [acceptsFor, requests, accepting op]
    exact tidy.accepting op
  held connected := absurd connected away.2
  past := by
    rw [requests, connection]
    exact tidy.past
  fresh connecting := absurd connecting away.1
  clean client properties connection tunnel outstanding mem :=
    tidy.clean client properties connection tunnel outstanding
      (log _ mem ⟨client, properties, connection, tunnel, outstanding, rfl⟩)

variable {op client : Nat} {tunnel : TunnelHandle}

section

variable (tidy : s.Tidy)

include tidy

/-- There is no request for an accept of the present connection while none is stored. -/
theorem unrequested (connected : s.state = .connected)
    (free : ∀ op, s.acceptOp = some op → s.acceptsFor op = 0) {request : Request}
    (mem : request ∈ s.requests) (kind : request.kind = .accept op) :
    request.connection ≠ s.connection := by
  intro current
  have stored := (tidy.held connected request mem op kind current).2
  have none := free op stored
  rw [acceptsFor, countP_eq_zero] at none
  exact none request mem (decide_eq_true kind)

theorem accept {change : AcceptOp → AcceptOp} {output : AcceptorOutput}
    (connected : s.state = .connected) (stored : s.acceptOp = some op)
    (idle : (s.ops op).accepting = false) (held : s.tunnel = some tunnel)
    (started : (change (s.ops op)).accepting = true)
    (other : ∀ client properties connection tunnel outstanding,
      output ≠ .createTunnel client properties connection tunnel outstanding) :
    ((s.modifyOp op change).ask tunnel.client (.accept op) output).Tidy where
  single _ := by
    refine Nat.le_trans (Nat.le_of_eq ?_) (tidy.single connected)
    rw [load, load]
    refine congrArg (fun creates => s.tunnel.toList.length + creates + s.waits)
      (congrArg length (outstandingCreates_append ?_ rfl rfl))
    exact fun kind => nomatch kind
  quiet connecting := absurd (connected.symm.trans connecting) nofun
  released away := absurd connected away
  accepting asked := by
    change countP _ (s.requests ++ [_]) ≤ if (Function.update s.ops op _ asked).accepting then
      1 else 0
    rw [countP_append, countP_singleton]
    have before := tidy.accepting asked
    rw [acceptsFor] at before
    by_cases same : asked = op
    · subst same
      rw [idle] at before
      rw [Function.update_self, started]
      simp only [decide_true, if_true, Bool.false_eq_true, if_false] at before ⊢
      omega
    · rw [Function.update_of_ne same]
      have different : (RequestKind.accept op = .accept asked) = False :=
        eq_false fun equal => same (RequestKind.accept.inj equal).symm
      simp only [different, decide_false, Bool.false_eq_true, if_false]
      omega
  held _ request mem asked kind current := by
    refine ⟨by rw [ask_tunnel, modifyOp_tunnel, held]; rfl, ?_⟩
    rw [ask_requests, mem_append, mem_singleton] at mem
    rcases mem with before | rfl
    · exact (tidy.held connected request before asked kind current).2
    · cases kind
      exact stored
  past request mem := by
    rw [ask_requests, mem_append, mem_singleton] at mem
    rcases mem with before | rfl
    · exact tidy.past request before
    · exact Nat.le_refl _
  fresh connecting := absurd (connected.symm.trans connecting) nofun
  clean client properties connection tunnel outstanding mem := by
    rw [ask_log, mem_append, mem_singleton] at mem
    rcases mem with before | same
    · exact tidy.clean client properties connection tunnel outstanding before
    · exact absurd same.symm (other client properties connection tunnel outstanding)

/-- A connection that opens starts without a load. -/
theorem load_opened (connecting : s.state = .connecting) :
    ({ s with state := .connected } : Acceptor).load = 0 := by
  have none : s.tunnel = none := tidy.released (by rw [connecting]; exact nofun)
  have creates : s.outstandingCreates = [] := by
    rw [outstandingCreates, filter_eq_nil_iff]
    intro request mem
    simp only [Bool.and_eq_true, decide_eq_true_eq, not_and]
    intro kind current
    have before := tidy.fresh connecting request mem (by rw [kind]; exact nofun)
    omega
  have quiet := tidy.quiet connecting
  change s.tunnel.toList.length + s.outstandingCreates.length + s.waits = 0
  rw [none, creates, quiet]
  rfl

theorem opened (connecting : s.state = .connecting) :
    ({ s with state := .connected } : Acceptor).Tidy where
  single _ := by
    rw [tidy.load_opened connecting]
    exact Nat.zero_le 1
  quiet other := nomatch other
  released away := absurd rfl away
  accepting := tidy.accepting
  held _ request mem op kind current := by
    have before := tidy.fresh connecting request mem (by rw [kind]; exact nofun)
    exact absurd current (Nat.ne_of_lt before)
  past := tidy.past
  fresh other := nomatch other
  clean := tidy.clean

theorem begin {output : AcceptorOutput} (idle : s.state = .idle)
    (none : s.waits = 0) (other : ∀ client properties connection tunnel outstanding,
      output ≠ .createTunnel client properties connection tunnel outstanding) :
    (({ s with state := .connecting, connection := s.connection + 1 } : Acceptor).ask client
      .connect output).Tidy where
  single connected := nomatch connected
  quiet _ := none
  released _ := tidy.released (by rw [idle]; exact nofun)
  accepting op := by
    change countP _ (s.requests ++ [_]) ≤ _
    rw [countP_append, countP_singleton]
    exact tidy.accepting op
  held connected := nomatch connected
  past request mem := by
    rw [ask_requests, mem_append, mem_singleton] at mem
    rcases mem with before | rfl
    · exact Nat.le_succ_of_le (tidy.past request before)
    · exact Nat.le_refl _
  fresh _ request mem kind := by
    rw [ask_requests, mem_append, mem_singleton] at mem
    rcases mem with before | rfl
    · exact Nat.lt_succ_of_le (tidy.past request before)
    · exact absurd rfl kind
  clean client properties connection tunnel outstanding mem := by
    rw [ask_log, mem_append, mem_singleton] at mem
    rcases mem with before | same
    · exact tidy.clean client properties connection tunnel outstanding before
    · exact absurd same.symm (other client properties connection tunnel outstanding)

section

variable (connected : s.state = .connected)

include connected

theorem recreate (free : s.load = 0) :
    s.armTimer.Tidy where
  single _ := by
    rw [load, waits] at free
    change s.tunnel.toList.length + s.outstandingCreates.length + (s.timerExpired + 1) ≤ 1
    omega
  quiet connecting := absurd (connected.symm.trans connecting) nofun
  released away := absurd connected away
  accepting := tidy.accepting
  held := tidy.held
  past := tidy.past
  fresh connecting := absurd (connected.symm.trans connecting) nofun
  clean := tidy.clean

/-- A tunnel is requested. -/
theorem create {generated : Option String} {properties : TunnelProperties} (free : s.load = 0) :
    (({ s with generatedStableDomain := generated } : Acceptor).ask client .create
      (.createTunnel client properties s.connection s.tunnel s.outstandingCreates)).Tidy := by
  have none : s.tunnel = none := by
    rw [load] at free
    cases held : s.tunnel with
    | none => rfl
    | some tunnel =>
      rw [held] at free
      simp at free
  have creates : s.outstandingCreates = [] := by
    rw [load] at free
    exact eq_nil_of_length_eq_zero (by omega)
  have idle : s.waits = 0 := by
    rw [load] at free
    omega
  refine ⟨fun _ => ?_, fun connecting => ?_, fun away => absurd connected away, fun op => ?_,
    fun _ request mem op kind current => ?_, fun request mem => ?_, fun connecting => ?_,
    fun other otherProperties connection tunnel outstanding mem => ?_⟩
  · have requested : outstandingCreates
        (({ s with generatedStableDomain := generated } : Acceptor).ask client .create
          (.createTunnel client properties s.connection s.tunnel s.outstandingCreates)) =
        s.outstandingCreates ++ [⟨client, s.operations client, s.connection, .create⟩] := by
      rw [outstandingCreates, ask_requests, filter_append]
      simp [outstandingCreates]
    rw [load, requested, creates]
    change s.tunnel.toList.length + 1 + s.waits ≤ 1
    rw [none, idle]
    exact Nat.le_refl 1
  · exact absurd (connected.symm.trans connecting) nofun
  · change countP _ (s.requests ++ [_]) ≤ _
    rw [countP_append, countP_singleton]
    exact tidy.accepting op
  · rw [ask_requests, mem_append, mem_singleton] at mem
    rcases mem with before | rfl
    · exact tidy.held connected request before op kind current
    · cases kind
  · rw [ask_requests, mem_append, mem_singleton] at mem
    rcases mem with before | rfl
    · exact tidy.past request before
    · exact Nat.le_refl _
  · exact absurd (connected.symm.trans connecting) nofun
  · rw [ask_log, mem_append, mem_singleton] at mem
    rcases mem with before | same
    · exact tidy.clean other otherProperties connection tunnel outstanding before
    · cases same
      exact ⟨none, creates⟩

theorem hold (free : s.load = 0) :
    ({ s with tunnel := some tunnel } : Acceptor).Tidy where
  single _ := by
    rw [load] at free
    change 1 + s.outstandingCreates.length + s.waits ≤ 1
    omega
  quiet connecting := absurd (connected.symm.trans connecting) nofun
  released away := absurd connected away
  accepting := tidy.accepting
  held _ request mem op kind current :=
    ⟨rfl, (tidy.held connected request mem op kind current).2⟩
  past := tidy.past
  fresh connecting := absurd (connected.symm.trans connecting) nofun
  clean := tidy.clean

theorem drop
    (unrequested : ∀ request ∈ s.requests, ∀ op, request.kind = .accept op →
      request.connection ≠ s.connection) :
    ({ s with tunnel := none } : Acceptor).Tidy where
  single _ := by
    have before := tidy.single connected
    rw [load] at before
    change 0 + s.outstandingCreates.length + s.waits ≤ 1
    omega
  quiet connecting := absurd (connected.symm.trans connecting) nofun
  released _ := rfl
  accepting := tidy.accepting
  held _ request mem op kind current := absurd current (unrequested request mem op kind)
  past := tidy.past
  fresh connecting := absurd (connected.symm.trans connecting) nofun
  clean := tidy.clean

end

end

end Tidy

theorem not_create_of_isNotice (plain : output.isNotice = true) (client : Nat)
    (properties : TunnelProperties) (connection : Nat) (tunnel : Option TunnelHandle)
    (outstanding : List Request) :
    output ≠ .createTunnel client properties connection tunnel outstanding := by
  rintro rfl
  cases plain

/-- The areas whose effects keep the invariant. -/
def tidyAreas : List Area := [.calling, .quiet, .accepted, .starting, .closing, .turning]

theorem Effect.tidy (effect : Effect area s t) (kept : area ∈ tidyAreas) (tidy : s.Tidy) :
    t.Tidy := by
  cases effect with
  | notice plain =>
    exact tidy.of_alike_stored
      (.of_log rfl rfl rfl rfl rfl rfl rfl rfl (not_create_of_isNotice plain)) rfl
  | status | callbacks _ | settings _ | bind _ | closing | dispatch _ => exact tidy.of_alike_stored (.of_eq rfl rfl rfl rfl rfl rfl rfl rfl) rfl
  | @settle _ op errorCode _ _ _ =>
    refine tidy.of_alike_stored (alike_completeAccept s op errorCode) ?_
    obtain ⟨ops, log, framed, -⟩ := completeAccept_frame s op errorCode
    rw [framed]
  | @finish _ op errorCode cause stored idle explains =>
    have same := alike_completeAccept ({ s with acceptOp := none } : Acceptor) op errorCode
    have alike : Alike s (({ s with acceptOp := none } : Acceptor).completeAccept op errorCode) :=
      ⟨same.state, same.tunnel, same.requests, same.connection, same.timerArmed,
        same.timerExpired, same.accepting, same.log⟩
    refine tidy.of_alike alike fun connected request mem other kind current => ?_
    rw [alike.state] at connected
    rw [alike.requests] at mem
    rw [alike.connection] at current
    refine absurd current (tidy.unrequested connected (fun held equal => ?_) mem kind)
    have none := tidy.accepting held
    rw [stored] at equal
    cases equal
    rw [idle] at none
    exact Nat.le_zero.mp none
  | release _ _ _ _ _ | reserve _ _ _ _ =>
    exact tidy.of_alike_stored (.of_update rfl rfl rfl rfl rfl rfl rfl rfl rfl) rfl
  | @store _ op running free ready uncancelled =>
    have alike : Alike s { s with acceptOp := some op } :=
      .of_eq rfl rfl rfl rfl rfl rfl rfl rfl
    refine tidy.of_alike alike fun connected request mem other kind current => ?_
    refine absurd current (tidy.unrequested connected (fun held equal => ?_) mem kind)
    rw [free] at equal
    cases equal
  | accept connected stored idle held =>
    exact tidy.accept connected stored idle held rfl fun _ _ _ _ _ equal => nomatch equal
  | start null _ _ _ _ =>
    refine tidy.of_away ⟨nofun, nofun⟩ (tidy.released (by rw [null]; exact nofun)) rfl rfl
      (fun _ => rfl) fun output mem created => ?_
    obtain ⟨client, properties, connection, tunnel, outstanding, rfl⟩ := created
    rw [emit_log, mem_append, mem_singleton] at mem
    exact mem.resolve_right fun equal => nomatch equal
  | begin _ _ | recreate _ | create _ _ | hold _ | drop _ => simp [tidyAreas] at kept
  | @close _ errorCode running =>
    have same := alike_dropAccept (s.cleared errorCode) errorCode
    have null : ((s.cleared errorCode).dropAccept errorCode).state = .null := same.state
    refine tidy.of_away (by rw [null]; exact ⟨nofun, nofun⟩) same.tunnel same.requests
      same.connection same.accepting fun output mem created => ?_
    have before := same.log output mem created
    obtain ⟨client, properties, connection, tunnel, outstanding, rfl⟩ := created
    rw [cleared_log, mem_append, mem_singleton] at before
    exact before.resolve_right fun equal => nomatch equal
  | opened connecting => exact tidy.opened connecting
  | failed connecting =>
    exact tidy.of_away ⟨nofun, nofun⟩ (tidy.released (by rw [connecting]; exact nofun)) rfl rfl
      (fun _ => rfl) fun _ mem _ => mem
  | disconnected _ =>
    exact tidy.of_away ⟨nofun, nofun⟩ rfl rfl rfl (fun _ => rfl) fun _ mem _ => mem
  | rearm idle =>
    refine tidy.of_away ?_ (tidy.released (by rw [idle]; exact nofun)) rfl rfl (fun _ => rfl)
      fun _ mem _ => mem
    rw [armTimer_state, idle]
    exact ⟨nofun, nofun⟩
  | cancelled _ => exact tidy.of_alike_stored (.of_update rfl rfl rfl rfl rfl rfl rfl rfl rfl) rfl
  | allocate _ _ accepting _ =>
    exact tidy.of_alike_stored (.of_update rfl rfl rfl rfl rfl rfl rfl rfl (accepting _)) rfl

theorem Effects.tidy (effects : Effects areas s t) (kept : areas ⊆ tidyAreas) (tidy : s.Tidy) :
    t.Tidy :=
  effects.invariant (fun mem effect before => effect.tidy (kept mem) before) tidy

theorem Effects.tidy_of_none (effects : Effects areas s t) (called : areas ⊆ callAreas)
    (tidy : s.Tidy) (none : s.waits = 0) : t.Tidy := by
  have both := effects.invariant (p := fun u => u.Tidy ∧ u.waits = 0) ?_ ⟨tidy, none⟩
  · exact both.1
  · rintro area u v mem effect ⟨before, quiet⟩
    refine ⟨?_, effect.waits_of_none (called mem) quiet⟩
    by_cases beginning : area = .beginning
    · cases effect with
      | begin idle attached =>
        exact before.begin idle quiet fun _ _ _ _ _ equal => nomatch equal
      | finish cause _ _ _ => cases cause <;> cases beginning
      | _ => cases beginning
    · refine effect.tidy ?_ before
      have known := called mem
      simp only [callAreas, mem_cons, not_mem_nil, or_false] at known
      rcases known with rfl | rfl | rfl | rfl | rfl
      · simp [tidyAreas]
      · simp [tidyAreas]
      · simp [tidyAreas]
      · exact absurd rfl beginning
      · simp [tidyAreas]

end Rstream.IoRstrm.Acceptor
