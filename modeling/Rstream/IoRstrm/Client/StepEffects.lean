import Rstream.Library.Counting
import Rstream.IoRstrm.Client.WellFormed

/-!
# The steps of the client as sequences of effects

A call is a sequence of effects on the state it is made in. Running a piece of
work first takes the task; what its handler then does is a sequence of effects on
the state without the task. The end of a connection is the only handler with
effects in the area `ending`; it resets the client before it sweeps the stores,
so the stores are empty afterwards.
-/

namespace Rstream.IoRstrm

open Library
open Std (TreeMap)

namespace Client

variable {host : Host} {s t : Client}

/-! ## Calls -/

variable {op : OpId} {area : Area} {message : Message} {previousState : ClientState} {task : Task}

/-- The operation object that a call is about to allocate is in no use. -/
theorem WellFormed.storable_allocate (wellFormed : s.WellFormed) (fresh : op.index = s.nextOp)
    (arguments : Op → Op) : (s.allocate op arguments).Storable op := by
  refine ⟨?_, ?_, ?_⟩
  · rw [fresh]
    exact Nat.lt_succ_self _
  · by_contra pending
    have allocated := wellFormed.dispatchedAllocated op (Nat.pos_of_ne_zero pending)
    omega
  · intro stored
    have allocated := wellFormed.storedAllocated op stored
    omega

theorem Storable.of_eq (storable : s.Storable op) (nextOp : t.nextOp = s.nextOp)
    (tasks : t.tasks = s.tasks) (holds : t.holds = s.holds) : t.Storable op := by
  refine ⟨nextOp ▸ storable.allocated, ?_, ?_⟩
  · rw [dispatched, tasks]
    exact storable.consumed
  · rintro ⟨slot, found⟩
    exact storable.absent ⟨slot, holds ▸ found⟩

/-- The work may be dispatched: it starts no operation or a storable one. -/
def Dispatchable (s : Client) (work : Work) : Prop :=
  work.isPlain = true ∨ ∃ op, work.dispatches op = true ∧ s.Storable op

theorem setControlCallbacks_effects (s : Client) (callbacks : ControlCallbacks) :
    Effects host [.calling] s (s.setControlCallbacks callbacks) := by
  unfold setControlCallbacks
  split
  · exact .refl
  · rename_i free
    exact .single (.callbacks (by simpa using free))

theorem reserveConnect_effects (host : Host) (wellFormed : s.WellFormed) (address : Address) :
    Effects host [.calling] s (s.reserveConnect address) ∧
      (s.reserveConnect address).Storable (.connect s.nextOp) := by
  unfold reserveConnect
  split
  · exact ⟨.single (.allocate rfl (fun _ => rfl) (fun _ => rfl) (fun _ => rfl) (fun _ => rfl)),
      wellFormed.storable_allocate rfl _⟩
  · rename_i free
    have storable : (s.allocate (.connect s.nextOp) fun o =>
        { o with reserved := true }).Storable (.connect s.nextOp) :=
      wellFormed.storable_allocate rfl _
    exact ⟨.single (.reserve (by simpa using free)), storable.of_eq rfl rfl rfl⟩

theorem refuseConnect_effects (wellFormed : s.WellFormed) (errorCode : ErrorCode) :
    Effects host [.control, .calling] s (s.refuseConnect errorCode) := by
  have storable : (s.allocate (.connect s.nextOp) id).Storable (.connect s.nextOp) :=
    wellFormed.storable_allocate rfl id
  have failed : (errorCode.orElse Error.Code.invalidConfiguration).failed = true := by
    rw [ErrorCode.failed_orElse]
    simp
  have allocated : Effects host [.calling] s (s.allocate (.connect s.nextOp) id) :=
    .single (.allocate rfl (fun _ => rfl) (fun _ => rfl) (fun _ => rfl) (fun _ => rfl))
  have notStored : (s.allocate (.connect s.nextOp) id).connectOp ≠ some s.nextOp :=
    fun stored => storable.absent ⟨.connect, by rw [holds, stored]; rfl⟩
  refine (allocated.mono (by simp)).trans ?_
  cases pending : ((s.allocate (.connect s.nextOp) id).ops (.connect s.nextOp)).completed with
  | true =>
    rw [refuseConnect, complete_of_completed pending]
    exact .refl
  | false =>
    have effect : Effect host .control (s.allocate (.connect s.nextOp) id) _ :=
      .failConnect pending failed
    rw [if_neg notStored] at effect
    rw [refuseConnect, complete_of_pending pending]
    exact (Effects.single effect).mono (by simp)

theorem issue_effects (host : Host) (wellFormed : s.WellFormed) (call : Call) :
    Effects host [.control, .calling] s (s.issue call).1 ∧
      ∀ work, (s.issue call).2 = some work → (s.issue call).1.Dispatchable work := by
  have connect (address : Address) :
      Effects host [.control, .calling] s (s.reserveConnect address) ∧
        ∀ work, some (.asyncConnectInternal s.nextOp) = some work →
          (s.reserveConnect address).Dispatchable work := by
    obtain ⟨effects, storable⟩ := reserveConnect_effects host wellFormed address
    refine ⟨effects.mono (by simp), fun work dispatched => ?_⟩
    cases dispatched
    exact .inr ⟨.connect s.nextOp, decide_eq_true rfl, storable⟩
  have allocated {op : OpId} {arguments : Op → Op} (fresh : op.index = s.nextOp)
      (cancelled : ∀ o, (arguments o).cancelled = o.cancelled)
      (completed : ∀ o, (arguments o).completed = o.completed)
      (handler : ∀ o, (arguments o).handler = o.handler)
      (reserved : ∀ o, (arguments o).reserved = o.reserved) :
      Effects host [.control, .calling] s (s.allocate op arguments) :=
    (Effects.single (.allocate fresh cancelled completed handler reserved)).mono (by simp)
  cases call with
  | setControlCallbacks callbacks =>
    exact ⟨(setControlCallbacks_effects s callbacks).mono (by simp), by simp [issue]⟩
  | asyncConnect address => exact connect address
  | asyncConnectDefault =>
    simp only [issue]
    split
    · exact connect _
    · exact ⟨refuseConnect_effects wellFormed _, by simp⟩
  | asyncCreateTunnel properties =>
    refine ⟨allocated rfl (fun _ => rfl) (fun _ => rfl) (fun _ => rfl) (fun _ => rfl), ?_⟩
    intro work dispatched
    cases dispatched
    exact .inr ⟨.createTunnel s.nextOp, decide_eq_true rfl, wellFormed.storable_allocate rfl _⟩
  | asyncAcceptTunnel tunnelId peer =>
    refine ⟨allocated rfl (fun _ => rfl) (fun _ => rfl) (fun _ => rfl) (fun _ => rfl), ?_⟩
    intro work dispatched
    cases dispatched
    exact .inr ⟨.acceptTunnel s.nextOp, decide_eq_true rfl, wellFormed.storable_allocate rfl _⟩
  | closeTunnel tunnelId | close =>
    refine ⟨.refl, fun work dispatched => ?_⟩
    cases dispatched
    exact .inl rfl
  | cancel op =>
    simp only [issue]
    split
    · rename_i live
      refine ⟨(Effects.single (.cancelled live)).mono (by simp), fun work dispatched => ?_⟩
      cases dispatched
      cases op with
      | connect index | createTunnel index | acceptTunnel index => exact .inl rfl
    · exact ⟨.refl, by simp⟩

theorem call_effects (wellFormed : s.WellFormed) (call : Call) :
    Effects host [.control, .calling] s (s.call call) := by
  obtain ⟨issued, dispatchable⟩ := issue_effects host wellFormed call
  unfold Client.call
  cases dispatched : (s.issue call).2 with
  | none => exact issued
  | some work =>
    refine issued.trans ?_
    rcases dispatchable work dispatched with plain | ⟨op, dispatches, storable⟩
    · exact (Effects.single (.start plain)).mono (by simp)
    · exact (Effects.single (.dispatch dispatches storable)).mono (by simp)

/-- The client has no tunnel. -/
def NoTunnels (s : Client) : Prop := ∀ tunnelId : String, s.tunnels[tunnelId]? = none

/-- Tunnels come only from the response to a create operation. -/
theorem Effect.tunnel_absent (effect : Effect host area s t) (other : area ≠ .opening)
    {tunnelId : String} (absent : s.tunnels[tunnelId]? = none) : t.tunnels[tunnelId]? = none := by
  have modified (key : String) (change : Tunnel → Tunnel) :
      (s.tunnels.modify key change)[tunnelId]? = none := by
    rw [getElem?_modify, absent, Option.map_none, ite_self]
  cases effect with
  | markClosing key => exact modified key _
  | clearAccept _ | streams _ | handed _ _ | storeAccept _ _ _ => exact modified _ _
  | eraseTunnel _ => rw [getElem?_erase, absent, ite_self]
  | addTunnel _ _ => contradiction
  | _ => exact absent

theorem Effects.noTunnels {areas : List Area} (effects : Effects host areas s t)
    (outside : .opening ∉ areas) (absent : s.NoTunnels) : t.NoTunnels := by
  refine effects.invariant (p := NoTunnels) ?_ absent
  intro area u v mem effect absent tunnelId
  exact effect.tunnel_absent (fun same => outside (same ▸ mem)) (absent tunnelId)

/-- What a call on the strand dispatches while there is no tunnel: no accept
operation gets as far as the streams of a tunnel. -/
theorem performDispatched_effects {work : Work} (absent : s.NoTunnels)
    (storable : ∀ op, work.dispatches op = true → s.Storable op) (oracle : Oracle) :
    Effects host [.control, .storing] s (s.performDispatched host work oracle) := by
  cases work with
  | asyncConnectInternal op => exact asyncConnectInternal_effects (storable _ (decide_eq_true rfl))
  | asyncCreateTunnelInternal op =>
    exact asyncCreateTunnelInternal_effects (storable _ (decide_eq_true rfl)) oracle
  | asyncAcceptTunnelInternal tunnelId op =>
    rcases asyncAcceptTunnelInternal_cases host s tunnelId op oracle with
      refused | ⟨_, _, _, tunnel, found, _, _⟩
    · exact refused.mono (by simp)
    · rw [absent tunnelId] at found
      contradiction
  | cancelConnect op => exact (cancelConnect_effects s op).mono (by simp)
  | cancelCreateTunnel op => exact (cancelCreateTunnel_effects s op).mono (by simp)
  | cancelAcceptTunnel tunnelId op =>
    exact (cancelAcceptTunnel_effects s tunnelId op).mono (by simp)
  | closeTunnelInternal tunnelId => exact (closeTunnelInternal_effects s tunnelId).mono (by simp)
  | closeInternal => exact (closeInternal_effects s .none).mono (by simp)
  | _ => exact .refl

theorem callOnStrand_effects (wellFormed : s.WellFormed) (absent : s.NoTunnels)
    (entry : Call × Oracle) :
    Effects host [.control, .calling, .storing] s (s.callOnStrand host entry) := by
  obtain ⟨issued, dispatchable⟩ := issue_effects host wellFormed entry.1
  unfold callOnStrand
  cases dispatched : (s.issue entry.1).2 with
  | none => exact issued.mono (by simp)
  | some work =>
    refine (issued.mono (by simp)).trans
      ((performDispatched_effects (issued.noTunnels (by simp) absent) ?_ entry.2).mono (by simp))
    intro op dispatches
    rcases dispatchable work dispatched with plain | ⟨other, also, storable⟩
    · rw [dispatches_of_isPlain plain] at dispatches
      contradiction
    · rw [dispatches_unique dispatches also]
      exact storable

/-- The areas of the calls that the status callback makes. -/
def callAreas : List (Call × Oracle) → List Area
  | [] => [.control]
  | _ :: _ => [.control, .calling, .storing]

@[simp] theorem mem_callAreas {calls : List (Call × Oracle)} :
    area ∈ callAreas calls ↔ area = .control ∨ calls ≠ [] ∧ (area = .calling ∨ area = .storing) := by
  cases calls with
  | nil | cons _ _ => simp [callAreas]

theorem callAreas_subset (calls : List (Call × Oracle)) :
    callAreas calls ⊆ [.control, .calling, .storing] := by
  intro area mem
  rcases mem_callAreas.mp mem with rfl | ⟨-, rfl | rfl⟩
  · simp
  · simp
  · simp

theorem callsOnStrand_effects (wellFormed : s.WellFormed) (absent : s.NoTunnels)
    (calls : List (Call × Oracle)) :
    Effects host (callAreas calls) s (calls.foldl (callOnStrand host) s) := by
  induction calls generalizing s with
  | nil => exact .refl
  | cons entry calls ih =>
    have first : Effects host [.control, .calling, .storing] s (s.callOnStrand host entry) :=
      callOnStrand_effects wellFormed absent entry
    have rest := ih (first.wellFormed wellFormed) (first.noTunnels (by simp) absent)
    exact first.trans (rest.mono (callAreas_subset calls))

/-! ## Incoming messages -/

theorem opened_effects (connecting : s.state = .connecting) :
    Effects host [.control] s ((s.setState .connected).completeConnect s.connectOp .none) := by
  cases stored : s.connectOp with
  | none =>
    refine .single (.openedUnobserved connecting ?_)
    intro op found
    rw [stored] at found
    contradiction
  | some op =>
    cases pending : (s.ops (.connect op)).completed with
    | true =>
      have idle : (s.setState .connected).completeConnect (some op) .none =
          s.setState .connected := by
        simp [completeConnect, pending]
      rw [idle]
      refine .single (.openedUnobserved connecting ?_)
      intro other found
      rw [stored, Option.some_inj] at found
      rw [← found]
      exact pending
    | false =>
      have still : ((s.setState .connected).ops (.connect op)).completed = false := pending
      have done : (s.setState .connected).completeConnect (some op) .none =
          { (s.setState .connected).settle (.connect op) .none .unit with
            connectOp := none } := by
        simp only [completeConnect, still, complete_of_pending still, settle_connectOp,
          setState_connectOp, stored, Bool.false_eq_true, if_false, if_true]
      rw [done]
      exact .single (.opened connecting stored pending)

theorem notifyStatus_effects (wellFormed : s.WellFormed) (absent : s.NoTunnels)
    (calls : List (Call × Oracle)) :
    Effects host (callAreas calls) s (s.notifyStatus host calls) := by
  unfold notifyStatus
  split
  · have emitted : Effects host (callAreas calls) s (s.emit (.status s.status)) :=
      (Effects.single (.notice rfl)).mono (by simp)
    exact emitted.trans (callsOnStrand_effects (emitted.wellFormed wellFormed) absent calls)
  · exact .refl

theorem onOpen_effects (wellFormed : s.WellFormed) (absent : s.state = .connecting → s.NoTunnels)
    (calls : List (Call × Oracle)) : Effects host (callAreas calls) s (s.onOpen host calls) := by
  unfold onOpen
  by_cases connecting : s.state = .connecting
  · rw [if_neg (by simp [connecting])]
    have opened : Effects host [.control] s
        ((s.setState .connected).completeConnect s.connectOp .none) :=
      opened_effects connecting
    have notified := (opened.mono (by simp)).trans
      (notifyStatus_effects (opened.wellFormed wellFormed)
        (opened.noTunnels (by simp) (absent connecting)) calls)
    dsimp only
    split
    · exact notified.trans ((doSendHeartbeat_effects _).mono (by simp))
    · exact notified
  · rw [if_pos connecting]
    exact .refl

theorem onOpenControlChannelRsp_effects (wellFormed : s.WellFormed)
    (absent : s.state = .connecting → s.NoTunnels) (payload : OpenControlChannelRsp)
    (calls : List (Call × Oracle)) :
    Effects host (callAreas calls) s (s.onOpenControlChannelRsp host payload calls).1 := by
  cases payload with
  | ok clientId serverDetails =>
    simp only [onOpenControlChannelRsp]
    split
    · exact .refl
    · cases serverDetails with
      | none => exact onOpen_effects wellFormed absent calls
      | some details =>
        have merged : Effects host (callAreas calls) s
            { s with status := mergeStatus s.status details } :=
          (Effects.single .status).mono (by simp)
        exact merged.trans (onOpen_effects (merged.wellFormed wellFormed) absent calls)
  | error error | notSet => exact .refl

theorem onOpenTunnelRsp_effects (requestId : String) (payload : OpenTunnelRsp)
    (running : s.state ≠ .null) (opened : s.state ≠ .connecting) :
    Effects host [.control, .opening] s (s.onOpenTunnelRsp host requestId payload).1 := by
  unfold onOpenTunnelRsp
  split
  · exact .refl
  · rename_i op stored
    have only : ∀ other, s.createTunnelOps[requestId]? = some other → other = op := by
      intro other found
      rw [stored, Option.some_inj] at found
      exact found.symm
    obtain ⟨errorCode, properties, error⟩ := s.openTunnelErrors payload
    dsimp only
    split
    · exact .refl
    · cases outcome : error.failed with
      | true => exact (onTunnelResponse_effects_of_failed only properties outcome).mono (by simp)
      | false => exact onTunnelResponse_effects only properties outcome running opened

theorem onProxyConnReq_effects (s : Client) (request : ProxyConnReq) (oracle : Oracle) :
    Effects host [.control, .stream] s (s.onProxyConnReq host request oracle).1 := by
  unfold onProxyConnReq
  split
  · exact .refl
  · split
    · exact rejectStream_effects s _ _
    · exact onProxyRequest_effects s _ _ _ _ _

/-- The states in which a message of an open connection is expected. -/
theorem isMessageExpected_open {state : ClientState}
    (expected : isMessageExpected state message = true)
    (other : ∀ payload, message ≠ .openControlChannelRsp payload) :
    state ≠ .null ∧ state ≠ .connecting := by
  cases state with
  | null => simp [isMessageExpected] at expected
  | connecting => cases message <;> simp_all [isMessageExpected]
  | connected | closing => simp

/-- Every message but a proxy request leaves streams alone. -/
theorem dispatchMessage_effects_of_other (wellFormed : s.WellFormed)
    (absent : s.state = .connecting → s.NoTunnels)
    (other : ∀ request, message ≠ .proxyConnReq request) (input : Input) :
    Effects host (.opening :: callAreas input.calls) s
      (s.dispatchMessage host message input).1 := by
  unfold dispatchMessage
  by_cases expected : isMessageExpected s.state message = true
  · rw [if_neg (by simp [expected])]
    have isOpen := isMessageExpected_open expected
    cases message with
    | openControlChannelRsp payload =>
      exact (onOpenControlChannelRsp_effects wellFormed absent payload _).mono
        (List.subset_cons_self _ _)
    | openTunnelRsp requestId payload =>
      obtain ⟨running, opened⟩ := isOpen (by simp)
      exact (onOpenTunnelRsp_effects requestId payload running opened).mono
        (by simp)
    | closeTunnelRsp tunnelId =>
      dsimp only
      split
      · exact (onTunnelClose_effects s tunnelId).mono (by simp)
      · exact .refl
    | proxyConnReq request => exact absurd rfl (other request)
    | closeControlChannelRsp => exact (onClose_effects s _).mono (by simp)
    | _ => exact .refl
  · rw [if_pos (by simpa using expected)]
    exact .refl

theorem dispatchMessage_proxyConnReq (host : Host) (s : Client) (request : ProxyConnReq)
    (input : Input) :
    s.dispatchMessage host (.proxyConnReq request) input =
        (s, Error.Code.protocolError.toErrorCode) ∨
      s.dispatchMessage host (.proxyConnReq request) input =
        s.onProxyConnReq host request input.toOracle := by
  unfold dispatchMessage
  split
  · exact .inl rfl
  · exact .inr rfl

theorem dispatchMessage_effects (wellFormed : s.WellFormed)
    (absent : s.state = .connecting → s.NoTunnels) (message : Message) (input : Input) :
    Effects host (.stream :: .opening :: callAreas input.calls) s
      (s.dispatchMessage host message input).1 := by
  cases message with
  | proxyConnReq request =>
    rcases dispatchMessage_proxyConnReq host s request input with refused | handled
    · rw [refused]
      exact .refl
    · rw [handled]
      exact (onProxyConnReq_effects s request _).mono (by simp)
  | _ =>
    exact (dispatchMessage_effects_of_other wellFormed absent (by simp) input).mono
      (List.subset_cons_self _ _)

/-- What follows the dispatch of a message: the connection is closed, or the next
message is read. -/
theorem onReadIncomingMessage_tail (host : Host) (s : Client) {generation : Nat}
    (current : ¬(generation ≠ s.generation ∨ s.state = .null)) (message : Message)
    (input : Input) :
    Effects host [.control] (s.dispatchMessage host message input).1
      (s.onReadIncomingMessage host generation message input) := by
  unfold onReadIncomingMessage
  rw [if_neg current]
  dsimp only
  split
  · exact .refl
  · split
    · exact onError_effects _ _
    · exact doReadIncomingMessage_effects _

theorem onReadIncomingMessage_effects (wellFormed : s.WellFormed)
    (absent : s.state = .connecting → s.NoTunnels) (generation : Nat) (message : Message)
    (input : Input) :
    Effects host (.stream :: .opening :: callAreas input.calls) s
      (s.onReadIncomingMessage host generation message input) := by
  by_cases stale : generation ≠ s.generation ∨ s.state = .null
  · rw [onReadIncomingMessage, if_pos stale]
    exact .refl
  · exact (dispatchMessage_effects wellFormed absent message input).trans
      ((onReadIncomingMessage_tail host s stale message input).mono (by simp))

theorem onReadIncomingData_effects (wellFormed : s.WellFormed)
    (absent : s.state = .connecting → s.NoTunnels) (generation : Nat) (input : Input) :
    Effects host (.stream :: .opening :: callAreas input.calls) s
      (s.onReadIncomingData host generation input) := by
  unfold onReadIncomingData
  split
  · exact .refl
  · split
    · exact (onError_effects s _).mono (by simp)
    · split
      · exact onReadIncomingMessage_effects wellFormed absent generation _ input
      · exact (onError_effects s _).mono (by simp)

/-! ## The end of a connection -/

variable {errorCode : ErrorCode}

/-- A failing tunnel response touches the request, operation objects and the log. -/
theorem onTunnelResponse_frame (host : Host) (s : Client) (requestId : String) (op : Nat)
    (properties : TunnelProperties) (failed : errorCode.failed = true) :
    ∃ ops log, s.onTunnelResponse host requestId op properties errorCode = { s with
      createTunnelOps := s.createTunnelOps.erase requestId, ops := ops, log := log } := by
  simp only [onTunnelResponse, settleTunnelResponse, completeCreateTunnel, failed, if_true]
  split
  · obtain ⟨ops, log, framed⟩ := complete_frame s (.createTunnel op) .operationAborted .unit
    rw [framed]
    exact ⟨ops, log, rfl⟩
  · obtain ⟨ops, log, framed⟩ := complete_frame s (.createTunnel op) errorCode .unit
    rw [framed]
    exact ⟨ops, log, rfl⟩

theorem failCreates_frame (host : Host) (s : Client) (failed : errorCode.failed = true) :
    ∃ createTunnelOps ops log, s.failCreates host errorCode = { s with
      createTunnelOps := createTunnelOps, ops := ops, log := log } := by
  unfold failCreates
  generalize s.createTunnelOps.toList = entries
  induction entries generalizing s with
  | nil => exact ⟨_, _, _, rfl⟩
  | cons entry entries ih =>
    rw [List.foldl_cons]
    obtain ⟨ops, log, framed⟩ := onTunnelResponse_frame host s entry.1 entry.2 {} failed
    rw [framed]
    obtain ⟨createTunnelOps, ops', log', rest⟩ := ih { s with
      createTunnelOps := s.createTunnelOps.erase entry.1, ops := ops, log := log }
    exact ⟨createTunnelOps, ops', log', rest⟩

theorem failCreates_swept (host : Host) (s : Client) (failed : errorCode.failed = true)
    (requestId : String) : (s.failCreates host errorCode).createTunnelOps[requestId]? = none := by
  refine getElem?_sweep Client.createTunnelOps _ ?_ s requestId
  intro s entry key
  obtain ⟨ops, log, framed⟩ := onTunnelResponse_frame host s entry.1 entry.2 {} failed
  rw [framed, getElem?_erase]

/-- Every visited request still holds the operation it held when the loop began. -/
theorem failCreates_effects (s : Client) (failed : errorCode.failed = true) :
    Effects host [.control] s (s.failCreates host errorCode) := by
  have loop (entries : List (String × Nat)) (u : Client)
      (held : ∀ entry ∈ entries, ∀ other, u.createTunnelOps[entry.1]? = some other →
        other = entry.2) :
      Effects host [.control] u (entries.foldl
        (fun s entry => s.onTunnelResponse host entry.1 entry.2 {} errorCode) u) := by
    induction entries generalizing u with
    | nil => exact .refl
    | cons entry entries ih =>
      refine (onTunnelResponse_effects_of_failed (held entry List.mem_cons_self) {}
        failed).trans (ih _ ?_)
      intro later mem other found
      obtain ⟨ops, log, framed⟩ := onTunnelResponse_frame host u entry.1 entry.2 {} failed
      rw [framed, getElem?_erase] at found
      split at found
      · contradiction
      · exact held later (List.mem_cons_of_mem _ mem) other found
  refine loop _ s ?_
  intro entry mem other found
  rw [TreeMap.mem_toList_iff_getElem?_eq_some.mp mem, Option.some_inj] at found
  exact found.symm

theorem onTunnelClose_frame (s : Client) (tunnelId : String) :
    ∃ tunnels ops log,
      s.onTunnelClose tunnelId = { s with tunnels := tunnels, ops := ops, log := log } ∧
      ∀ other : String, tunnels[other]? =
        if tunnelId = other then none else s.tunnels[other]? := by
  unfold onTunnelClose
  split
  · rename_i absent
    refine ⟨s.tunnels, s.ops, s.log, rfl, fun other => ?_⟩
    by_cases same : tunnelId = other
    · rw [if_pos same, ← same]
      exact absent
    · rw [if_neg same]
  · rename_i tunnel found
    obtain ⟨log, swept⟩ := closeStreams_frame s tunnel.streams
    rw [swept]
    cases tunnel.acceptOp with
    | none => exact ⟨_, _, _, rfl, getElem?_erase _ _⟩
    | some op =>
      obtain ⟨ops, log', framed⟩ := failAccept_frame ({ s with log := log } : Client) op
        Error.Code.tunnelNotFound .unit
      simp only [Option.elim_some, framed]
      exact ⟨_, _, _, rfl, getElem?_erase _ _⟩

theorem closeTunnels_frame (s : Client) :
    ∃ tunnels ops log,
      s.closeTunnels = { s with tunnels := tunnels, ops := ops, log := log } := by
  unfold closeTunnels
  generalize s.tunnels.toList = entries
  induction entries generalizing s with
  | nil => exact ⟨_, _, _, rfl⟩
  | cons entry entries ih =>
    rw [List.foldl_cons]
    obtain ⟨tunnels, ops, log, framed, -⟩ := onTunnelClose_frame s entry.1
    rw [framed]
    obtain ⟨tunnels', ops', log', rest⟩ := ih { s with tunnels := tunnels, ops := ops, log := log }
    exact ⟨tunnels', ops', log', rest⟩

theorem closeTunnels_swept (s : Client) (tunnelId : String) :
    s.closeTunnels.tunnels[tunnelId]? = none := by
  refine getElem?_sweep Client.tunnels _ ?_ s tunnelId
  intro s entry key
  obtain ⟨tunnels, ops, log, framed, erased⟩ := onTunnelClose_frame s entry.1
  rw [framed]
  exact erased key

theorem closeTunnels_effects (s : Client) : Effects host [.control] s s.closeTunnels :=
  foldl_effects (fun s (entry : String × Tunnel) => onTunnelClose_effects s entry.1) _ s

theorem dropConnect_frame (s : Client) (previousState : ClientState) (errorCode : ErrorCode) :
    ∃ ops log, s.dropConnect previousState errorCode =
      { s with connectOp := none, ops := ops, log := log } := by
  unfold dropConnect
  dsimp only
  split
  · cases s.connectOp with
    | none => exact ⟨_, _, rfl⟩
    | some op =>
      unfold completeConnect
      dsimp only
      split
      · exact ⟨_, _, rfl⟩
      · obtain ⟨ops, log, framed⟩ := complete_frame s (.connect op) errorCode .unit
        rw [framed]
        split
        · exact ⟨_, _, rfl⟩
        · exact ⟨_, _, rfl⟩
  · exact ⟨_, _, rfl⟩

/-- After a completion `m_connect_op` is empty or held a completed operation. -/
theorem completeConnect_settled (s : Client) (errorCode : ErrorCode) (op : Nat)
    (stored : (s.completeConnect s.connectOp errorCode).connectOp = some op) :
    ((s.completeConnect s.connectOp errorCode).ops (.connect op)).completed = true := by
  cases found : s.connectOp with
  | none =>
    simp only [found, completeConnect] at stored
    contradiction
  | some current =>
    simp only [found, completeConnect] at stored ⊢
    split at stored
    · rename_i settled
      rw [found, Option.some_inj] at stored
      rw [if_pos settled, ← stored]
      exact settled
    · obtain ⟨ops, log, framed⟩ := complete_frame s (.connect current) errorCode .unit
      simp only [framed, found, if_true] at stored
      contradiction

theorem dropConnect_effects (s : Client) (failed : errorCode.failed = true)
    (settled : previousState ≠ .connecting → s.connectOp = none) :
    Effects host [.control, .ending] s (s.dropConnect previousState errorCode) := by
  unfold dropConnect
  by_cases connecting : previousState = .connecting
  · simp only [if_pos connecting]
    refine ((completeConnect_effects s s.connectOp failed).mono (by simp)).trans ?_
    exact (Effects.single (.dropConnect (completeConnect_settled s errorCode))).mono (by simp)
  · simp only [if_neg connecting]
    refine (Effects.single (.dropConnect ?_)).mono (by simp)
    intro op stored
    rw [settled connecting] at stored
    contradiction

theorem failed_reported (cause errorCode : ErrorCode) :
    ((cause.orElse errorCode).orElse Error.Code.operationAborted).failed = true := by
  rw [ErrorCode.failed_orElse]
  simp

/-- The end of a connection, as effects. The connect operation was dropped before
unless the connection was still connecting. -/
theorem onQueueCancelled_effects (s : Client) (errorCode cause : ErrorCode) (callback : Bool)
    (settled : previousState ≠ .connecting → s.connectOp = none) :
    Effects host [.control, .ending] s
      (s.onQueueCancelled host errorCode cause previousState callback) := by
  unfold onQueueCancelled
  cases pending : s.closePending with
  | false =>
    rw [if_pos (by simp)]
    exact .refl
  | true =>
    rw [if_neg (by simp)]
    extract_lets closeCause reported swept
    have failed : reported.failed = true := failed_reported cause errorCode
    have reset : Effects host [.control, .ending] s s.reset :=
      (Effects.single (.reset pending)).mono (by simp)
    have loops : Effects host [.control] s.reset
        (s.reset.failCreates host reported).closeTunnels :=
      (failCreates_effects s.reset failed).trans (closeTunnels_effects _)
    have kept : previousState ≠ .connecting →
        (s.reset.failCreates host reported).closeTunnels.connectOp = none := by
      intro open'
      obtain ⟨_, _, _, creates⟩ := failCreates_frame host s.reset failed
      obtain ⟨_, _, _, tunnels⟩ := closeTunnels_frame (s.reset.failCreates host reported)
      rw [tunnels, creates]
      exact settled open'
    have dropped : Effects host [.control, .ending] s swept :=
      (reset.trans (loops.mono (by simp))).trans (dropConnect_effects _ failed kept)
    split
    · exact dropped.trans ((Effects.single .disconnection).mono (by simp))
    · exact dropped

/-- **The end of a connection.** The client is reset, and the stores are empty. -/
theorem onQueueCancelled_spec (host : Host) (s : Client) (errorCode cause : ErrorCode)
    (previousState : ClientState) (callback : Bool) (pending : s.closePending = true) :
    ∃ createTunnelOps tunnels ops log,
      s.onQueueCancelled host errorCode cause previousState callback = { s.reset with
        connectOp := none, createTunnelOps := createTunnelOps, tunnels := tunnels
        ops := ops, log := log } ∧
      (∀ requestId : String, createTunnelOps[requestId]? = none) ∧
      ∀ tunnelId : String, tunnels[tunnelId]? = none := by
  unfold onQueueCancelled
  rw [if_neg (by simp [pending])]
  extract_lets closeCause reported swept
  have failed : reported.failed = true := failed_reported cause errorCode
  have requests := failCreates_swept host s.reset failed
  have tunnels := closeTunnels_swept (s.reset.failCreates host reported)
  obtain ⟨createTunnelOps, ops, log, creates⟩ := failCreates_frame host s.reset failed
  obtain ⟨tunnels', ops', log', closes⟩ := closeTunnels_frame (s.reset.failCreates host reported)
  obtain ⟨ops'', log'', drops⟩ := dropConnect_frame
    (s.reset.failCreates host reported).closeTunnels previousState reported
  have framed : swept = { s.reset with
      connectOp := none, createTunnelOps := createTunnelOps, tunnels := tunnels'
      ops := ops'', log := log'' } := by
    calc swept
        = (s.reset.failCreates host reported).closeTunnels.dropConnect previousState reported :=
          rfl
      _ = _ := by rw [drops, closes, creates]
  have emptyCreates : ∀ requestId : String, createTunnelOps[requestId]? = none := by
    intro requestId
    have empty := requests requestId
    rw [creates] at empty
    exact empty
  have emptyTunnels : ∀ tunnelId : String, tunnels'[tunnelId]? = none := by
    intro tunnelId
    have empty := tunnels tunnelId
    rw [closes] at empty
    exact empty
  split
  · rw [framed]
    exact ⟨_, _, _, _, rfl, emptyCreates, emptyTunnels⟩
  · exact ⟨_, _, _, _, framed, emptyCreates, emptyTunnels⟩

/-! ## Steps -/

/-- The state without a task, and what is known about the task. -/
theorem WellFormed.takeTask (wellFormed : s.WellFormed) {index : Nat}
    (found : s.tasks[index]? = some task) :
    (s.takeTask index).WellFormed ∧ (s.takeTask index).Stamped task ∧
      ∀ op, task.work.dispatches op = true → (s.takeTask index).Storable op := by
  have count (op : OpId) : s.dispatched op =
      (s.takeTask index).dispatched op + if task.work.dispatches op then 1 else 0 :=
    countP_of_taken found _
  have mem : task ∈ s.tasks := mem_of_taken found
  refine ⟨⟨?_, fun op => ?_, fun op pending => ?_, fun op pending => ?_,
    wellFormed.storedAllocated, wellFormed.injective⟩, ?_, fun op dispatches => ⟨?_, ?_, ?_⟩⟩
  · intro other member
    have stamped := wellFormed.stamped other (List.mem_of_mem_eraseIdx member)
    exact ⟨stamped.generation, stamped.connection, stamped.stale⟩
  · have once := wellFormed.once op
    have counted := count op
    omega
  · exact wellFormed.absent op (by have counted := count op; omega)
  · exact wellFormed.dispatchedAllocated op (by have counted := count op; omega)
  · have stamped := wellFormed.stamped task mem
    exact ⟨stamped.generation, stamped.connection, stamped.stale⟩
  · have counted := count op
    rw [dispatches, if_pos rfl] at counted
    exact wellFormed.dispatchedAllocated op (by omega)
  · have counted := count op
    have once := wellFormed.once op
    rw [dispatches, if_pos rfl] at counted
    omega
  · have counted := count op
    rw [dispatches, if_pos rfl] at counted
    exact wellFormed.absent op (by omega)

/-- What remains of the state when the send queue's cancellation is taken: the
connect operation is gone unless the connection was still connecting. -/
def QueueCancelSettled (s : Client) (task : Task) : Prop :=
  ∀ cause previousState callback, task.work = .queueCancel cause previousState callback →
    previousState ≠ .connecting → s.connectOp = none

/-- The areas in which the handler of some work has effects, when the status
callback makes the given calls. -/
def areasOf (calls : List (Call × Oracle)) : Work → List Area
  | .queueCancel _ _ _ => [.control, .ending]
  | .rangeSpawn _ | .rangeAttempt _ => [.range]
  | .read => .stream :: .opening :: callAreas calls
  | .asyncConnectInternal _ | .asyncCreateTunnelInternal _ => [.control, .storing]
  | .connectStream _ _ _ _ | .asyncAcceptTunnelInternal _ _ => [.control, .stream]
  | _ => [.control]

/-- **Every handler is a sequence of effects.** -/
theorem perform_effects (wellFormed : s.WellFormed) (stamped : s.Stamped task)
    (storable : ∀ op, task.work.dispatches op = true → s.Storable op)
    (absent : s.state = .connecting → s.NoTunnels) (settled : s.QueueCancelSettled task)
    (input : Input) :
    Effects host (areasOf input.calls task.work) s (s.perform host task input) := by
  obtain ⟨generation, connection, work⟩ := task
  cases work with
  | asyncConnectInternal op =>
    exact asyncConnectInternal_effects (storable _ (decide_eq_true rfl))
  | asyncCreateTunnelInternal op =>
    exact asyncCreateTunnelInternal_effects (storable _ (decide_eq_true rfl)) _
  | asyncAcceptTunnelInternal tunnelId op =>
    exact asyncAcceptTunnelInternal_effects (storable _ (decide_eq_true rfl)) tunnelId _
  | cancelConnect op => exact cancelConnect_effects s op
  | cancelCreateTunnel op => exact cancelCreateTunnel_effects s op
  | cancelAcceptTunnel tunnelId op => exact cancelAcceptTunnel_effects s tunnelId op
  | closeTunnelInternal tunnelId => exact closeTunnelInternal_effects s tunnelId
  | closeInternal => exact closeInternal_effects s .none
  | resolve => exact onDoResolveHost_effects s _ _ _
  | rangeSpawn endpoints => exact rangeNext_effects stamped _ _
  | rangeAttempt rest => exact onRangeAttempt_effects stamped _ _
  | onConnect errorCode => exact onConnect_effects s _ _
  | read => exact onReadIncomingData_effects wellFormed absent _ input
  | send heartbeat => exact onSendMessage_effects s _ _ _
  | connectStream tunnelId streamId peer owner =>
    simp only [perform]
    split
    · exact onConnectStream_effects s _ _ _ _
    · have reported : Effects host [.control, .stream] s
          (s.emit (.streamConnected connection streamId peer owner)) :=
        (Effects.single .streamConnected).mono (by simp)
      exact reported.trans (onConnectStream_effects _ _ _ _ _)
  | stateTimer stateChanges => exact onStateTimer_effects s _ _ _
  | heartbeatTimer stateChanges => exact onHeartbeatTimer_effects s _ _ _
  | queueCancel cause previousState callback =>
    exact onQueueCancelled_effects s _ cause callback (settled cause previousState callback rfl)

/-- A step is a call, or takes a task and runs its handler. -/
theorem step_cases {event : Event} (taken : step host s event = some t) :
    (∃ call, event = .call call ∧ t = s.call call) ∨
      ∃ index input task, event = .run index input ∧ s.tasks[index]? = some task ∧
        t = (s.takeTask index).perform host task input := by
  cases event with
  | call call =>
    cases taken
    exact .inl ⟨call, rfl, rfl⟩
  | run index input =>
    cases found : s.tasks[index]? with
    | none =>
      simp only [step, found] at taken
      contradiction
    | some task =>
      simp only [step, found, Option.some_inj] at taken
      exact .inr ⟨index, input, task, rfl, found, taken.symm⟩

end Client

end Rstream.IoRstrm
