import Rstream.IoRstrm.Handshake
import Rstream.IoRstrm.Client.Completions

/-!
# Error responses of the engine

The engine reports a refusal through the error field of a response, and the library
turns the integer in it into an error code whose truth value decides what follows.
The enumeration is open and has the value zero, so a response with the error field
set can be taken as a success: a connect is then left pending, a create operation
completes with a tunnel that has no id, and a handshake completes.

`engine_errors_refused` says that zero is the only such value, and what every other
error response does. It also says where the successes of create operations come
from: `Effect.succeeded_cases` lists the effects that can complete an operation
successfully, so outside the area `opening` there are none.
-/

namespace Rstream.IoRstrm

open Library Option
open Std (TreeMap)

/-- The code in the error field of a response, if the field is set. -/
def Message.error : Message → Option Int
  | .openControlChannelRsp (.error error) => some error.code
  | .openTunnelRsp _ (.error error) => some error.code
  | .streamRsp (.error error) => some error.code
  | .proxyRsp error => error.map (·.code)
  | _ => none

/-- The output is a successful completion of an operation. -/
def Output.succeeds (op : OpId) : Output → Bool
  | .completed other errorCode _ _ => other = op ∧ errorCode.failed = false
  | _ => false

/-- The output is the use of an absent optional. -/
def Output.isFault : Output → Bool
  | .fault => true
  | _ => false

variable {output : Output}

theorem Output.succeeds_of_isNotice (notice : output.isNotice = true) (op : OpId) :
    output.succeeds op = false := by
  cases output with
  | closePeer _ | status _ => rfl
  | _ => contradiction

theorem Output.succeeds_of_isSocket (socket : output.isSocket = true) (op : OpId) :
    output.succeeds op = false := by
  cases output with
  | socketOpen _ | socketConnect _ | socketClose _ => rfl
  | _ => contradiction

theorem Output.isFault_of_isNotice (notice : output.isNotice = true) : output.isFault = false := by
  cases output with
  | closePeer _ | status _ => rfl
  | _ => contradiction

theorem Output.isFault_of_isSocket (socket : output.isSocket = true) : output.isFault = false := by
  cases output with
  | socketOpen _ | socketConnect _ | socketClose _ => rfl
  | _ => contradiction

namespace Client

variable {host : Host} {area : Area} {s t u : Client}

/-! ## Successes and faults -/

/-- The operation completed successfully. -/
def succeeded (s : Client) (op : OpId) : Bool := s.log.any (Output.succeeds op)

/-- How often an absent optional was used. -/
def faults (s : Client) : Nat := s.log.countP Output.isFault

theorem succeeded_append {output : Output} (log : t.log = s.log ++ [output]) (op : OpId) :
    t.succeeded op = (s.succeeded op || output.succeeds op) := by
  rw [succeeded, log, List.any_append, List.any_cons, List.any_nil, Bool.or_false, succeeded]

theorem succeeded_of_other {output : Output} {op : OpId} (log : t.log = s.log ++ [output])
    (other : output.succeeds op = false) (success : t.succeeded op = true) :
    s.succeeded op = true := by
  rwa [succeeded_append log, other, Bool.or_false] at success

theorem faults_of_other {output : Output} (log : t.log = s.log ++ [output])
    (other : output.isFault = false) : t.faults = s.faults := by
  rw [faults, log, List.countP_append, List.countP_singleton, other]
  rfl

variable {connection op index : Nat} {areas : List Area} {requestId : String} {event : Event}

theorem succeeds_of_failed {op other : OpId} {errorCode : ErrorCode} {value : Value}
    (failed : errorCode.failed = true) :
    (Output.completed other errorCode value connection).succeeds op = false := by
  simp [Output.succeeds, failed]

/-- What an effect needs to complete an operation successfully. -/
def SuccessBy (area : Area) (s : Client) : OpId → Prop
  | .connect index => s.state = .connecting ∧ s.connectOp = some index ∧
      (s.ops (.connect index)).completed = false
  | .createTunnel _ => area = .opening
  | .acceptTunnel _ => area = .stream

/-- **Where successes come from.** -/
theorem Effect.succeeded_cases (effect : Effect host area s t) {op : OpId}
    (success : t.succeeded op = true) : s.succeeded op = true ∨ s.SuccessBy area op := by
  cases effect with
  | notice plain => exact .inl (succeeded_of_other rfl (Output.succeeds_of_isNotice plain op) success)
  | socketOutput socket =>
    exact .inl (succeeded_of_other rfl (Output.succeeds_of_isSocket socket op) success)
  | send _ _ _ | connectStream | respond _ | fault | request | streamConnected | disconnection =>
    exact .inl (succeeded_of_other rfl rfl success)
  | fail _ failed _ | failConnect _ failed =>
    exact .inl (succeeded_of_other rfl (succeeds_of_failed failed) success)
  | opened connecting stored pending =>
    rename_i index
    by_cases same : op = .connect index
    · subst same
      exact .inr ⟨connecting, stored, pending⟩
    · refine .inl (succeeded_of_other rfl ?_ success)
      exact decide_eq_false fun also => same also.1.symm
  | created pending =>
    rename_i index errorCode value
    by_cases same : op = .createTunnel index
    · subst same
      exact .inr rfl
    · refine .inl (succeeded_of_other rfl ?_ success)
      exact decide_eq_false fun also => same also.1.symm
  | accepted pending =>
    rename_i index value
    by_cases same : op = .acceptTunnel index
    · subst same
      exact .inr rfl
    · refine .inl (succeeded_of_other rfl ?_ success)
      exact decide_eq_false fun also => same also.1.symm
  | _ => exact .inl success

theorem Effect.faults (effect : Effect host area s t) (other : area ≠ .opening) :
    t.faults = s.faults := by
  cases effect with
  | notice plain => exact faults_of_other rfl (Output.isFault_of_isNotice plain)
  | socketOutput socket => exact faults_of_other rfl (Output.isFault_of_isSocket socket)
  | send _ _ _ | connectStream | respond _ | request | streamConnected | disconnection =>
    exact faults_of_other rfl rfl
  | fail _ _ _ | failConnect _ _ | opened _ _ _ | accepted _ => exact faults_of_other rfl rfl
  | fault | addTunnel _ _ | created _ => contradiction
  | _ => rfl

/-- An operation whose handler was invoked is completed. -/
theorem Accounted.unsucceeded (accounted : s.Accounted) {op : OpId}
    (pending : (s.ops op).completed = false) : s.succeeded op = false := by
  have invoked := accounted.invoked op
  rw [pending, if_neg (by simp)] at invoked
  rw [succeeded, List.any_eq_false]
  intro output mem success
  have other := List.countP_eq_zero.mp invoked output mem
  cases output with
  | completed index errorCode value connection =>
    simp only [Output.succeeds, decide_eq_true_eq] at success
    exact other (decide_eq_true success.1.symm)
  | _ => contradiction

/-- Nothing is opened: no tunnel is added, no absent optional used, and no create
operation completes successfully. -/
structure Unopened (s t : Client) : Prop where
  tunnels : ∀ tunnelId : String, s.tunnels[tunnelId]? = none → t.tunnels[tunnelId]? = none
  faults : t.faults = s.faults
  succeeded : ∀ op, t.succeeded (.createTunnel op) = true → s.succeeded (.createTunnel op) = true

namespace Unopened

theorem refl : Unopened s s := ⟨fun _ absent => absent, rfl, fun _ success => success⟩

theorem trans (first : Unopened s t) (second : Unopened t u) : Unopened s u :=
  ⟨fun tunnelId absent => second.tunnels tunnelId (first.tunnels tunnelId absent),
    second.faults.trans first.faults,
    fun op success => first.succeeded op (second.succeeded op success)⟩

end Unopened

theorem Effects.unopened (effects : Effects host areas s t) (outside : .opening ∉ areas) :
    Unopened s t := by
  refine effects.invariant (p := fun u => Unopened s u) ?_ .refl
  intro area u v mem effect unopened
  have other : area ≠ .opening := fun same => outside (same ▸ mem)
  refine unopened.trans ⟨fun _ => effect.tunnel_absent other, effect.faults other, ?_⟩
  intro op success
  rcases effect.succeeded_cases success with before | opening
  · exact before
  · exact absurd opening other

theorem Effects.completed (effects : Effects host areas s t) (accounted : s.Accounted) {op : OpId}
    (completed : (s.ops op).completed = true) : (t.ops op).completed = true := by
  have both : t.Accounted ∧ (t.ops op).completed = true := by
    refine effects.invariant (p := fun u => u.Accounted ∧ (u.ops op).completed = true) ?_
      ⟨accounted, completed⟩
    rintro area u v _ effect ⟨accounted, completed⟩
    exact ⟨effect.accounted accounted, effect.completed accounted completed⟩
  exact both.2

/-! ## Pending create operations -/

/-- No create operation that is still stored has completed successfully. -/
def Unsucceeded (s : Client) : Prop :=
  ∀ (requestId : String) op, s.createTunnelOps[requestId]? = some op →
    s.succeeded (.createTunnel op) = false

/-- A stored create operation was stored before, or it has just been started. -/
theorem Effect.creates (effect : Effect host area s t)
    (stored : t.createTunnelOps[requestId]? = some op) :
    s.createTunnelOps[requestId]? = some op ∨ (s.ops (.createTunnel op)).handler = true := by
  cases effect with
  | storeCreate connected free handler storable =>
    rename_i newId index
    rw [getElem?_insertIfNew] at stored
    split at stored
    · rename_i same
      subst same
      rw [free, getD_none, some_inj] at stored
      exact .inr (stored ▸ handler)
    · exact .inl stored
  | eraseCreate settled =>
    rw [getElem?_erase] at stored
    split at stored
    · contradiction
    · exact .inl stored
  | _ => exact .inl stored

theorem Effects.unsucceeded (effects : Effects host areas s t) (outside : .opening ∉ areas)
    (accounted : s.Accounted) (unsucceeded : s.Unsucceeded) : t.Unsucceeded := by
  have both : t.Accounted ∧ t.Unsucceeded := by
    refine effects.invariant (p := fun u => u.Accounted ∧ u.Unsucceeded) ?_
      ⟨accounted, unsucceeded⟩
    rintro area u v mem effect ⟨accounted, unsucceeded⟩
    have unopened : Unopened u v := (Effects.single effect).unopened fun same =>
      outside (List.mem_singleton.mp same ▸ mem)
    refine ⟨effect.accounted accounted, fun requestId op stored => ?_⟩
    have before : u.succeeded (.createTunnel op) = false := by
      rcases effect.creates stored with kept | handler
      · exact unsucceeded requestId op kept
      · refine accounted.unsucceeded ?_
        rwa [accounted.handler, Bool.not_eq_true'] at handler
    by_contra success
    rw [unopened.succeeded op (by simpa using success)] at before
    contradiction
  exact both.2

theorem succeeded_complete (s : Client) {op other : OpId} (apart : other ≠ op)
    (errorCode : ErrorCode) (value : Value)
    (success : (s.complete op errorCode value).succeeded other = true) :
    s.succeeded other = true := by
  unfold complete at success
  split at success
  · exact success
  · have logged := emit_log (s.modifyOp op fun o => { o with completed := true, handler := false })
      (.completed op errorCode value s.connection)
    refine succeeded_of_other (s := s) logged ?_ success
    exact decide_eq_false fun also => apart also.1.symm

theorem succeeded_insertTunnel (s : Client) (properties : TunnelProperties) {op : OpId}
    (success : (s.insertTunnel properties).succeeded op = true) : s.succeeded op = true := by
  unfold insertTunnel at success
  by_cases absent : properties.id.isNone = true
  · rw [if_pos absent] at success
    exact succeeded_of_other (emit_log s .fault) rfl success
  · rw [if_neg absent] at success
    exact success

theorem succeeded_settleTunnelResponse (host : Host) (s : Client) {other : Nat} (apart : other ≠ op)
    (properties : TunnelProperties) (errorCode : ErrorCode)
    (success : (s.settleTunnelResponse host op properties errorCode).succeeded
      (.createTunnel other) = true) : s.succeeded (.createTunnel other) = true := by
  have different : OpId.createTunnel other ≠ .createTunnel op := by
    rintro ⟨⟩
    exact apart rfl
  unfold settleTunnelResponse completeCreateTunnel at success
  split at success
  · split at success
    · exact succeeded_complete s different _ _ success
    · have closed : Effects host [.control] (s.complete (.createTunnel op) .operationAborted .unit)
          ((s.complete (.createTunnel op) .operationAborted .unit).closeTunnelInternal host
            (properties.id.getD "")) := closeTunnelInternal_effects _ _
      exact succeeded_complete s different _ _ ((closed.unopened (by simp)).succeeded _ success)
  · exact succeeded_complete s different _ _ success

theorem onTunnelResponse_answers (host : Host) (s : Client) (requestId : String) (op : Nat)
    (properties : TunnelProperties) (errorCode : ErrorCode) :
    (s.onTunnelResponse host requestId op properties errorCode).createTunnelOps =
        s.createTunnelOps.erase requestId ∧
      ((s.onTunnelResponse host requestId op properties errorCode).ops
        (.createTunnel op)).completed = true ∧
      ∀ other, other ≠ op →
        (s.onTunnelResponse host requestId op properties errorCode).succeeded
          (.createTunnel other) = true → s.succeeded (.createTunnel other) = true := by
  unfold onTunnelResponse
  extract_lets inserted settled
  have spec := settleTunnelResponse_spec host inserted op properties errorCode
  have requests : inserted.createTunnelOps = s.createTunnelOps := by
    unfold inserted
    split
    · rfl
    · exact insertTunnel_createTunnelOps s properties
  refine ⟨?_, spec.2, fun other apart success => ?_⟩
  · rw [show settled.createTunnelOps = s.createTunnelOps from spec.1.trans requests]
  · have before : inserted.succeeded (.createTunnel other) = true :=
      succeeded_settleTunnelResponse host inserted apart properties errorCode success
    unfold inserted at before
    split at before
    · exact before
    · exact succeeded_insertTunnel s properties before

/-! ## Steps that receive a message -/

/-- The message that a step receives on the open connection. -/
def received (s : Client) : Event → Option Message
  | .call _ => none
  | .run index input =>
    match s.tasks[index]? with
    | some ⟨generation, _, .read⟩ =>
      if generation = s.generation ∧ s.state ≠ .null ∧ input.errorCode.failed = false then
        input.message
      else none
    | _ => none

/-- Effects outside the area `opening`, after a task was taken. -/
theorem unopened_of_effects (accounted : s.Accounted) (outside : .opening ∉ areas)
    (effects : Effects host areas (s.takeTask index) t) :
    Unopened s t ∧ (s.Unsucceeded → t.Unsucceeded) := by
  have unopened := effects.unopened outside
  exact ⟨⟨unopened.tunnels, unopened.faults, unopened.succeeded⟩,
    fun unsucceeded => effects.unsucceeded outside (accounted.takeTask index) unsucceeded⟩

theorem received_cases (invariant : s.Invariant) (taken : step host s event = some t) :
    (s.received event = none ∧ Unopened s t ∧ (s.Unsucceeded → t.Unsucceeded)) ∨
      ∃ index input connection message, event = .run index input ∧
        s.tasks[index]? = some ⟨s.generation, connection, .read⟩ ∧ s.state ≠ .null ∧
        s.received event = some message ∧
        t = (s.takeTask index).onReadIncomingMessage host s.generation message input := by
  rcases step_cases taken with ⟨call, rfl, rfl⟩ | ⟨index, input, task, rfl, found, rfl⟩
  · have effects : Effects host [.control, .calling] s (s.call call) :=
      call_effects invariant.wellFormed call
    exact .inl ⟨rfl, effects.unopened (by simp),
      effects.unsucceeded (by simp) invariant.accounted⟩
  · have effects := run_effects host invariant found input
    obtain ⟨generation, connection, work⟩ := task
    have other (none : s.received (.run index input) = none) (outside : .opening ∉ areasOf input.calls work) :=
      And.intro none (unopened_of_effects invariant.accounted outside effects)
    cases work with
    | read =>
      have closes {v : Client} (none : s.received (.run index input) = none)
          (closed : Effects host [.control] (s.takeTask index) v) :=
        And.intro none (unopened_of_effects invariant.accounted (by simp) closed)
      simp only [perform, onReadIncomingData]
      by_cases stale : generation ≠ (s.takeTask index).generation ∨
          (s.takeTask index).state = .null
      · rw [if_pos stale]
        refine .inl (closes ?_ .refl)
        simp only [received, found]
        refine if_neg ?_
        rintro ⟨same, running, -⟩
        rcases stale with late | idle
        · exact late same
        · exact running idle
      · rw [if_neg stale]
        have current : generation = s.generation := by
          by_contra late
          exact stale (.inl late)
        have running : s.state ≠ .null := fun idle => stale (.inr idle)
        subst current
        by_cases failed : input.errorCode.failed = true
        · rw [if_pos failed]
          exact .inl (closes (by simp [received, found, failed]) (onError_effects _ _))
        · rw [if_neg failed]
          cases parsed : input.message with
          | none =>
            exact .inl (closes (by simp [received, found, parsed]) (onError_effects _ _))
          | some message =>
            refine .inr ⟨index, input, connection, message, rfl, found, running, ?_, rfl⟩
            simp [received, found, running, failed, parsed]
    | _ => exact .inl (other (by simp [received, found]) (by simp [areasOf]))

/-- Every message but the answer to a create operation opens nothing. -/
theorem dispatchMessage_effects_of_unopened (wellFormed : s.WellFormed)
    (absent : s.state = .connecting → s.NoTunnels) {message : Message}
    (other : ∀ requestId payload, message ≠ .openTunnelRsp requestId payload) (input : Input) :
    Effects host (.stream :: callAreas input.calls) s
      (s.dispatchMessage host message input).1 := by
  unfold dispatchMessage
  split
  · exact .refl
  · cases message with
    | openControlChannelRsp payload =>
      exact (onOpenControlChannelRsp_effects wellFormed absent payload _).mono
        (List.subset_cons_self _ _)
    | openTunnelRsp requestId payload => exact absurd rfl (other requestId payload)
    | closeTunnelRsp tunnelId =>
      dsimp only
      split
      · exact (onTunnelClose_effects s tunnelId).mono (by simp)
      · exact .refl
    | proxyConnReq request => exact (onProxyConnReq_effects s request _).mono (by simp)
    | closeControlChannelRsp => exact (onClose_effects s _).mono (by simp)
    | _ => exact .refl

/-- What an answer says: a failure, a tunnel that is not active yet, or an error
response that carries no failure. -/
theorem openTunnelErrors_cases (s : Client) (payload : OpenTunnelRsp) :
    (s.openTunnelErrors payload).1.failed = true ∨
      (s.openTunnelErrors payload).2.2.failed = true ∨
      (∃ tunnelId, payload = .tunnelProperties (s.openTunnelErrors payload).2.1 ∧
        (s.openTunnelErrors payload).2.1.id = some tunnelId ∧ s.tunnels[tunnelId]? = none) ∨
      ∃ error, payload = .error error ∧ error.code = 0 ∧
        (s.openTunnelErrors payload).2.1 = {} := by
  cases payload with
  | notSet => exact .inl rfl
  | error error =>
    by_cases zero : error.code = 0
    · exact .inr (.inr (.inr ⟨error, rfl, zero, rfl⟩))
    · exact .inr (.inl ((Error.failed_makeErrorCode error.code).mpr zero))
  | tunnelProperties properties =>
    simp only [openTunnelErrors]
    split
    · exact .inl rfl
    · rename_i tunnelId named
      split
      · exact .inr (.inl rfl)
      · by_cases active : s.tunnels.contains tunnelId = true
        · rw [if_pos active]
          exact .inl rfl
        · rw [if_neg active]
          refine .inr (.inr (.inl ⟨tunnelId, rfl, named, ?_⟩))
          rw [TreeMap.contains_iff_mem] at active
          exact TreeMap.getElem?_eq_none active

/-- What an answer to a create operation leads to: nothing is opened, or the operation
is settled by a new tunnel or by an error response that carries no failure. -/
theorem onOpenTunnelRsp_cases (host : Host) (s : Client) (requestId : String)
    (payload : OpenTunnelRsp) :
    Effects host [.control] s (s.onOpenTunnelRsp host requestId payload).1 ∨
      ∃ op properties errorCode, s.createTunnelOps[requestId]? = some op ∧
        (s.onOpenTunnelRsp host requestId payload).1 =
          s.onTunnelResponse host requestId op properties errorCode ∧
        ((∃ tunnelId, payload = .tunnelProperties properties ∧ properties.id = some tunnelId ∧
            s.tunnels[tunnelId]? = none) ∨
          ∃ error, payload = .error error ∧ error.code = 0) := by
  unfold onOpenTunnelRsp
  split
  · exact .inl .refl
  · rename_i op stored
    have only : ∀ other, s.createTunnelOps[requestId]? = some other → other = op := by
      intro other found
      rw [stored, some_inj] at found
      exact found.symm
    have cases := s.openTunnelErrors_cases payload
    generalize s.openTunnelErrors payload = outcome at cases ⊢
    obtain ⟨first, properties, second⟩ := outcome
    dsimp only at cases ⊢
    split
    · exact .inl .refl
    · rename_i accepted
      rcases cases with refused | failed | genuine | ⟨error, same, zero, -⟩
      · exact absurd refused accepted
      · exact .inl (onTunnelResponse_effects_of_failed only properties failed)
      · exact .inr ⟨op, properties, second, stored, rfl, .inl genuine⟩
      · exact .inr ⟨op, properties, second, stored, rfl, .inr ⟨error, same, zero⟩⟩

/-- The answer is settled: only the successes of its own operation change. -/
theorem Unsucceeded.onTunnelResponse (host : Host) (unsucceeded : s.Unsucceeded)
    (wellFormed : s.WellFormed) (stored : s.createTunnelOps[requestId]? = some op)
    (properties : TunnelProperties) (errorCode : ErrorCode) :
    (s.onTunnelResponse host requestId op properties errorCode).Unsucceeded := by
  obtain ⟨requests, -, others⟩ := onTunnelResponse_answers host s requestId op properties errorCode
  intro other index held
  rw [requests, getElem?_erase] at held
  split at held
  · contradiction
  · rename_i apart
    have different : index ≠ op := by
      rintro rfl
      have same := wellFormed.injective (.create other) (.create requestId) (.createTunnel index)
        (by rw [holds, held]; rfl) (by rw [holds, stored]; rfl)
      cases same
      exact apart rfl
    by_contra success
    have before := others index different (by simpa using success)
    rw [unsucceeded other index held] at before
    contradiction

/-- What handling a message does, seen from the create operations. -/
theorem message_cases (invariant : s.Invariant)
    (found : s.tasks[index]? = some ⟨s.generation, connection, .read⟩) (running : s.state ≠ .null)
    (message : Message) (input : Input) :
    (Unopened s ((s.takeTask index).onReadIncomingMessage host s.generation message input) ∧
        (s.Unsucceeded → ((s.takeTask index).onReadIncomingMessage host s.generation message
          input).Unsucceeded)) ∨
      ∃ requestId payload op properties errorCode,
        message = .openTunnelRsp requestId payload ∧ s.createTunnelOps[requestId]? = some op ∧
        (s.state = .connected ∨ s.state = .closing) ∧
        ((s.takeTask index).onTunnelResponse host requestId op properties errorCode).Accounted ∧
        Effects host [.control]
          ((s.takeTask index).onTunnelResponse host requestId op properties errorCode)
          ((s.takeTask index).onReadIncomingMessage host s.generation message input) ∧
        ((∃ tunnelId, payload = .tunnelProperties properties ∧ properties.id = some tunnelId ∧
            s.tunnels[tunnelId]? = none) ∨
          ∃ error, payload = .error error ∧ error.code = 0) := by
  have wellFormed := (invariant.wellFormed.takeTask found).1
  have current : ¬(s.generation ≠ (s.takeTask index).generation ∨
      (s.takeTask index).state = .null) := by
    rintro (late | idle)
    · exact late rfl
    · exact running idle
  have tail := onReadIncomingMessage_tail host (s.takeTask index) current message input
  have closed {areas : List Area} (outside : .opening ∉ areas)
      (dispatched : Effects host areas (s.takeTask index)
        ((s.takeTask index).dispatchMessage host message input).1) :=
    unopened_of_effects invariant.accounted (by simpa using outside)
      ((dispatched.mono (List.subset_cons_self .control areas)).trans (tail.mono (by simp)))
  by_cases answer : ∃ requestId payload, message = .openTunnelRsp requestId payload
  · obtain ⟨requestId, payload, rfl⟩ := answer
    by_cases expected : isMessageExpected s.state (.openTunnelRsp requestId payload) = true
    · have dispatched : (s.takeTask index).dispatchMessage host (.openTunnelRsp requestId payload)
          input = (s.takeTask index).onOpenTunnelRsp host requestId payload := by
        unfold dispatchMessage
        rw [if_neg (by simpa using expected)]
      rcases onOpenTunnelRsp_cases host (s.takeTask index) requestId payload with
        plain | ⟨op, properties, errorCode, stored, settled, shape⟩
      · exact .inl (closed (by simp) (dispatched ▸ plain))
      · obtain ⟨notNull, notConnecting⟩ := isMessageExpected_open expected (by simp)
        refine .inr ⟨requestId, payload, op, properties, errorCode, rfl, stored, ?_, ?_, ?_, shape⟩
        · cases state : s.state with
          | connected => exact .inl rfl
          | closing => exact .inr rfl
          | null => exact absurd state notNull
          | connecting => exact absurd state notConnecting
        · have effects : Effects host [.control, .opening] (s.takeTask index) _ :=
            onOpenTunnelRsp_effects requestId payload notNull notConnecting
          rw [settled] at effects
          exact effects.accounted (invariant.accounted.takeTask index)
        · rw [dispatched, settled] at tail
          exact tail
    · have refused : Effects host [] (s.takeTask index) ((s.takeTask index).dispatchMessage host
          (.openTunnelRsp requestId payload) input).1 := by
        unfold dispatchMessage
        rw [if_pos (by simpa using expected)]
        exact .refl
      exact .inl (closed (by simp) refused)
  · refine .inl (closed (by simp) (dispatchMessage_effects_of_unopened wellFormed
      (fun connecting => invariant.phase.tunnels (.inr connecting)) ?_ input))
    intro requestId payload same
    exact answer ⟨requestId, payload, same⟩

theorem Unsucceeded.step (unsucceeded : s.Unsucceeded) (invariant : s.Invariant)
    (taken : Client.step host s event = some t) : t.Unsucceeded := by
  rcases received_cases invariant taken with
    ⟨-, -, kept⟩ | ⟨index, input, connection, message, rfl, found, running, -, rfl⟩
  · exact kept unsucceeded
  · rcases message_cases invariant found running message input with
      ⟨-, kept⟩ | ⟨requestId, payload, op, properties, errorCode, -, stored, -, accounted, tail, -⟩
    · exact kept unsucceeded
    · have before : (s.takeTask index).Unsucceeded := unsucceeded
      have settled := before.onTunnelResponse host (invariant.wellFormed.takeTask found).1 stored
        properties errorCode
      exact tail.unsucceeded (by simp) accounted settled

theorem Reachable.unsucceeded (reachable : Reachable host s) : s.Unsucceeded := by
  obtain ⟨config, defaultServerAddress, token, mtlsToken, run⟩ := reachable
  have both : s.Invariant ∧ s.Unsucceeded := by
    refine run.invariant (p := fun u => u.Invariant ∧ u.Unsucceeded)
      ⟨invariant_make _ _ _ _, fun _ _ stored => by contradiction⟩ ?_
    rintro u event v ⟨invariant, unsucceeded⟩ _ taken
    exact ⟨invariant.step taken, unsucceeded.step invariant taken⟩
  exact both.2

/-! ## Connects that are closed -/

/-- A connect operation that did not succeed and no longer can: it is completed, or it
is stored while the connection is on its way to the end. -/
structure Doomed (op : Nat) (s : Client) : Prop where
  unsucceeded : s.succeeded (.connect op) = false
  settling : (s.ops (.connect op)).completed = true ∨
    s.connectOp = some op ∧ (s.state = .connected ∨ s.state = .closing)

theorem Effect.doomed (effect : Effect host area s t) (running : area ≠ .ending)
    (accounted : s.Accounted) (doomed : s.Doomed op) : t.Doomed op := by
  have late (connecting : s.state = .connecting)
      (pending : (s.ops (.connect op)).completed = false) : False := by
    rcases doomed.settling with completed | ⟨-, connected | closing⟩
    · rw [pending] at completed
      contradiction
    · rw [connecting] at connected
      contradiction
    · rw [connecting] at closing
      contradiction
  refine ⟨?_, ?_⟩
  · by_contra succeeds
    have success : t.succeeded (.connect op) = true := by simpa using succeeds
    rcases effect.succeeded_cases success with before | ⟨connecting, -, pending⟩
    · rw [doomed.unsucceeded] at before
      contradiction
    · exact late connecting pending
  · rcases doomed.settling with completed | ⟨stored, state⟩
    · exact .inl (effect.completed accounted completed)
    · cases effect with
      | begin idle _ _ _ =>
        rw [idle] at state
        rcases state with state | state <;> contradiction
      | opened connecting _ _ | openedUnobserved connecting _ =>
        rw [connecting] at state
        rcases state with state | state <;> contradiction
      | failConnect pending failed =>
        rename_i index errorCode
        by_cases same : s.connectOp = some index
        · rw [stored, some_inj] at same
          subst same
          exact .inl (by simp)
        · exact .inr ⟨(if_neg same).trans stored, state⟩
      | close _ _ _ _ | leave _ => exact .inr ⟨stored, .inr rfl⟩
      | reset _ | dropConnect _ | disconnection => contradiction
      | _ => exact .inr ⟨stored, state⟩

/-- Once the client is not connecting, the end of a connection lets no connect succeed. -/
theorem succeeded_of_ending (effects : Effects host [.control, .ending] s t)
    (state : s.state ≠ .connecting) (unsucceeded : s.succeeded (.connect op) = false) :
    t.succeeded (.connect op) = false := by
  have both : t.state ≠ .connecting ∧ t.succeeded (.connect op) = false := by
    refine effects.invariant
      (p := fun u => u.state ≠ .connecting ∧ u.succeeded (.connect op) = false) ?_
      ⟨state, unsucceeded⟩
    rintro area u v mem effect ⟨state, unsucceeded⟩
    refine ⟨?_, ?_⟩
    · cases effect with
      | begin _ _ _ _ => simp at mem
      | opened _ _ _ | openedUnobserved _ _ | close _ _ _ _ | leave _ | reset _ => simp
      | _ => exact state
    · by_contra succeeds
      have success : v.succeeded (.connect op) = true := by simpa using succeeds
      rcases effect.succeeded_cases success with before | ⟨connecting, -⟩
      · rw [unsucceeded] at before
        contradiction
      · exact state connecting
  exact both.2

theorem Doomed.step (doomed : s.Doomed op) (invariant : s.Invariant)
    (taken : Client.step host s event = some t) : t.Doomed op := by
  have along {areas : List Area} {u v : Client} (effects : Effects host areas u v)
      (running : .ending ∉ areas) (accounted : u.Accounted) (before : u.Doomed op) :
      v.Doomed op := by
    have both : v.Accounted ∧ v.Doomed op := by
      refine effects.invariant (p := fun u => u.Accounted ∧ u.Doomed op) ?_ ⟨accounted, before⟩
      rintro area u v mem effect ⟨accounted, before⟩
      exact ⟨effect.accounted accounted,
        effect.doomed (fun same => running (same ▸ mem)) accounted before⟩
    exact both.2
  have pending : t.Pending (.connect op) := by
    refine Pending.step invariant ?_ taken
    rcases doomed.settling with completed | ⟨stored, -⟩
    · exact .inr completed
    · refine .inl ⟨.connect, ?_⟩
      rw [holds, stored]
      rfl
  have after := invariant.step taken
  rcases step_cases taken with ⟨call, rfl, rfl⟩ | ⟨index, input, task, rfl, found, rfl⟩
  · have effects : Effects host [.control, .calling] s (s.call call) :=
      call_effects invariant.wellFormed call
    exact along effects (by simp) invariant.accounted doomed
  · have effects := run_effects host invariant found input
    have before : (s.takeTask index).Doomed op := ⟨doomed.unsucceeded, doomed.settling⟩
    cases work : task.work.isQueueCancel with
    | false =>
      exact along effects (ending_notMem_areasOf input.calls work) (invariant.accounted.takeTask index) before
    | true =>
      obtain ⟨generation, connection, work'⟩ := task
      cases work' with
      | queueCancel cause previousState callback =>
        obtain ⟨waiting, -⟩ := invariant.phase.pending_of_queueCancel found work
        obtain ⟨_, _, _, _, ended, -, -⟩ := onQueueCancelled_spec host (s.takeTask index)
          input.errorCode cause previousState callback waiting
        have closing : (s.takeTask index).state ≠ .connecting := by
          have state := invariant.phase.closing waiting
          rw [takeTask_state, state]
          simp
        refine ⟨succeeded_of_ending effects closing doomed.unsucceeded, .inl ?_⟩
        -- the end of the connection empties the stores
        rcases pending with ⟨slot, held⟩ | completed
        · rw [after.phase.empty_of_null (by simp only [perform, ended, reset_state])] at held
          contradiction
        · exact completed
      | _ => contradiction

theorem Doomed.run (doomed : s.Doomed op) (invariant : s.Invariant)
    (run : Reaches (Client.step host) s t) : t.Doomed op := by
  have both : t.Invariant ∧ t.Doomed op := by
    refine run.invariant (p := fun u => u.Invariant ∧ u.Doomed op) ⟨invariant, doomed⟩ ?_
    rintro u event v ⟨invariant, doomed⟩ _ taken
    exact ⟨invariant.step taken, doomed.step invariant taken⟩
  exact both.2

/-! ## Error responses -/

/-- The response answers an operation of the client: the connect in progress, or a
pending create operation. -/
def Answers (s : Client) : Message → Prop
  | .openControlChannelRsp _ => s.state = .connecting
  | .openTunnelRsp requestId _ => (s.state = .connected ∨ s.state = .closing) ∧
      (s.createTunnelOps[requestId]?).isSome = true
  | _ => False

/-- A response with its error field set is a refusal: no tunnel is added, no absent
optional is used, a connect in progress is closed and never succeeds, and the create
operation it answers is completed without success. -/
structure Refused (host : Host) (s : Client) (message : Message) (t : Client) : Prop where
  tunnels : ∀ tunnelId : String, s.tunnels[tunnelId]? = none → t.tunnels[tunnelId]? = none
  faults : t.faults = s.faults
  connect : ∀ payload, message = .openControlChannelRsp payload → s.state = .connecting →
    t.closePending = true ∧ ∀ op, s.connectOp = some op →
      ∀ u, Reaches (step host) t u → u.succeeded (.connect op) = false ∧
        (u.state = .null → (u.ops (.connect op)).completed = true)
  create : ∀ requestId payload op, message = .openTunnelRsp requestId payload →
    s.state = .connected ∨ s.state = .closing → s.createTunnelOps[requestId]? = some op →
    (t.ops (.createTunnel op)).completed = true ∧ t.succeeded (.createTunnel op) = false

/-- A step completes a create operation successfully only for a response that carries
a tunnel id which is not active. -/
def CreatesGenuine (s : Client) (event : Event) (t : Client) : Prop :=
  ∀ op, t.succeeded (.createTunnel op) = true → s.succeeded (.createTunnel op) = false →
    ∃ requestId properties tunnelId,
      s.received event = some (.openTunnelRsp requestId (.tunnelProperties properties)) ∧
      s.createTunnelOps[requestId]? = some op ∧ properties.id = some tunnelId ∧
      s.tunnels[tunnelId]? = none

theorem dispatchMessage_of_refusedConnect (host : Host) (connecting : s.state = .connecting)
    (error : WireError) (input : Input) :
    s.dispatchMessage host (.openControlChannelRsp (.error error)) input =
      (s, Error.makeErrorCode error.code) := by
  unfold dispatchMessage
  rw [connecting]
  rfl

theorem dispatchMessage_openTunnelRsp (host : Host)
    (isOpen : s.state = .connected ∨ s.state = .closing) (requestId : String)
    (payload : OpenTunnelRsp) (input : Input) :
    s.dispatchMessage host (.openTunnelRsp requestId payload) input =
      s.onOpenTunnelRsp host requestId payload := by
  unfold dispatchMessage
  rcases isOpen with connected | closing
  · rw [connected]
    rfl
  · rw [closing]
    rfl

theorem onReadIncomingMessage_of_refusedConnect (host : Host) (connecting : s.state = .connecting)
    (error : WireError) (input : Input) :
    s.onReadIncomingMessage host s.generation (.openControlChannelRsp (.error error)) input =
      if error.code = 0 then s.start .read else s.onClose (Error.makeErrorCode error.code) := by
  unfold onReadIncomingMessage
  rw [dispatchMessage_of_refusedConnect host connecting]
  have failed := Error.failed_makeErrorCode error.code
  by_cases zero : error.code = 0
  · have succeeded : (Error.makeErrorCode 0).failed = false := rfl
    simp [zero, succeeded, connecting, doReadIncomingMessage]
  · simp [zero, failed.mpr zero, connecting, onError]

theorem Phase.open_of_connecting (phase : s.Phase) (connecting : s.state = .connecting) :
    s.closePending = false := by
  by_contra pending
  have closing := phase.closing (by simpa using pending)
  rw [connecting] at closing
  contradiction

/-- A refused connect is closed, and its operation cannot succeed any more. -/
theorem doomed_of_refusedConnect (invariant : s.Invariant) (connecting : s.state = .connecting)
    (index : Nat) (errorCode : ErrorCode) :
    ((s.takeTask index).onClose errorCode).closePending = true ∧
      ∀ op, s.connectOp = some op → ((s.takeTask index).onClose errorCode).Doomed op := by
  have open' := invariant.phase.open_of_connecting connecting
  refine ⟨by simp [onClose, connecting, open'], fun op stored => ⟨?_, .inr ?_⟩⟩
  · have before := invariant.accounted.unsucceeded (invariant.phase.connect op stored).1
    obtain ⟨closePending, generation, state, stateChanges, tasks, framed⟩ :=
      onClose_frame (s.takeTask index) errorCode
    rw [framed]
    exact before
  · simp [onClose, connecting, open', stored]

theorem faults_complete (s : Client) (op : OpId) (errorCode : ErrorCode) (value : Value) :
    (s.complete op errorCode value).faults = s.faults := by
  unfold complete
  split
  · rfl
  · have logged := emit_log (s.modifyOp op fun o => { o with completed := true, handler := false })
      (.completed op errorCode value s.connection)
    exact faults_of_other (s := s) logged rfl

theorem faults_settleTunnelResponse (host : Host) (s : Client) (op : Nat)
    (properties : TunnelProperties) (errorCode : ErrorCode) :
    (s.settleTunnelResponse host op properties errorCode).faults = s.faults := by
  unfold settleTunnelResponse completeCreateTunnel
  extract_lets tunnelId aborted
  split
  · have closed : Effects host [.control] aborted (aborted.closeTunnelInternal host tunnelId) :=
      closeTunnelInternal_effects _ _
    split
    · exact faults_complete s _ _ _
    · exact (closed.unopened (by simp)).faults.trans (faults_complete s _ _ _)
  · exact faults_complete s _ _ _

theorem faults_onTunnelResponse (host : Host) (s : Client) (requestId : String) (op : Nat)
    {errorCode : ErrorCode} (succeeded : errorCode.failed = false) :
    (s.onTunnelResponse host requestId op {} errorCode).faults = s.faults + 1 := by
  have inserted : (s.insertTunnel {}).faults = s.faults + 1 := by
    have logged : (s.insertTunnel {}).log = s.log ++ [Output.fault] := rfl
    rw [faults, logged, List.countP_append, List.countP_singleton]
    rfl
  simp only [onTunnelResponse, succeeded]
  exact (faults_settleTunnelResponse host _ _ _ _).trans inserted

theorem onReadIncomingMessage_of_refusedCreate (host : Host)
    (isOpen : s.state = .connected ∨ s.state = .closing)
    (stored : s.createTunnelOps[requestId]? = some op) (error : WireError) (input : Input) :
    Effects host [.control]
      (s.onTunnelResponse host requestId op {} (Error.makeErrorCode error.code))
      (s.onReadIncomingMessage host s.generation (.openTunnelRsp requestId (.error error))
        input) := by
  have current : ¬(s.generation ≠ s.generation ∨ s.state = .null) := by
    rintro (late | idle)
    · exact late rfl
    · rw [idle] at isOpen
      rcases isOpen with state | state <;> contradiction
  have tail := onReadIncomingMessage_tail host s current (.openTunnelRsp requestId (.error error))
    input
  have handled : s.onOpenTunnelRsp host requestId (.error error) =
      (s.onTunnelResponse host requestId op {} (Error.makeErrorCode error.code), .none) := by
    unfold onOpenTunnelRsp
    rw [stored]
    rfl
  rwa [dispatchMessage_openTunnelRsp host isOpen, handled] at tail

theorem refusedConnect (host : Host) (invariant : s.Invariant)
    (found : s.tasks[index]? = some ⟨s.generation, connection, .read⟩)
    (connecting : s.state = .connecting) {error : WireError} (failing : error.code ≠ 0)
    (input : Input) :
    let t := (s.takeTask index).onReadIncomingMessage host s.generation
      (.openControlChannelRsp (.error error)) input
    t.closePending = true ∧ ∀ op, s.connectOp = some op →
      ∀ u, Reaches (step host) t u → u.succeeded (.connect op) = false ∧
        (u.state = .null → (u.ops (.connect op)).completed = true) := by
  intro t
  have closed : t = (s.takeTask index).onClose (Error.makeErrorCode error.code) :=
    (onReadIncomingMessage_of_refusedConnect host (s := s.takeTask index) connecting error
      input).trans (if_neg failing)
  have before : (s.takeTask index).Invariant :=
    ⟨(invariant.wellFormed.takeTask found).1, invariant.accounted.takeTask index,
      invariant.phase.takeTask found rfl⟩
  have effects : Effects host [.control] (s.takeTask index)
      ((s.takeTask index).onClose (Error.makeErrorCode error.code)) := onClose_effects _ _
  obtain ⟨pending, doomed⟩ := doomed_of_refusedConnect invariant connecting index
    (Error.makeErrorCode error.code)
  rw [closed]
  refine ⟨pending, fun op stored u run => ?_⟩
  have later := (doomed op stored).run (before.of_effects effects (by simp)) run
  refine ⟨later.unsucceeded, fun idle => ?_⟩
  rcases later.settling with completed | ⟨-, connected | closing⟩
  · exact completed
  · rw [idle] at connected
    contradiction
  · rw [idle] at closing
    contradiction

/-- A response with its error field set, other than zero where it answers something, is
a refusal if nothing was opened. -/
theorem refused_of_unopened (invariant : s.Invariant) (unsucceeded : s.Unsucceeded)
    (found : s.tasks[index]? = some ⟨s.generation, connection, .read⟩) {message : Message}
    (input : Input) (isError : message.error.isSome = true)
    (condition : s.Answers message → message.error ≠ some 0) (unopened : Unopened s
      ((s.takeTask index).onReadIncomingMessage host s.generation message input)) :
    Refused host s message
      ((s.takeTask index).onReadIncomingMessage host s.generation message input) := by
  refine ⟨unopened.tunnels, unopened.faults, ?_, ?_⟩
  · rintro payload rfl connecting
    cases payload with
    | error error =>
      refine refusedConnect host invariant found connecting (fun zero => ?_) input
      exact condition connecting (by rw [Message.error, zero])
    | _ => contradiction
  · rintro requestId payload op rfl isOpen stored
    refine ⟨?_, ?_⟩
    · cases payload with
      | error error =>
        have failing : error.code ≠ 0 := fun zero =>
          condition ⟨isOpen, by rw [stored]; rfl⟩ (by rw [Message.error, zero])
        have tail := onReadIncomingMessage_of_refusedCreate host (s := s.takeTask index) isOpen
          stored error input
        have only : ∀ other, (s.takeTask index).createTunnelOps[requestId]? = some other →
            other = op := by
          intro other found
          rw [takeTask_createTunnelOps, stored, some_inj] at found
          exact found.symm
        have effects : Effects host [.control] (s.takeTask index) _ :=
          onTunnelResponse_effects_of_failed only {}
            ((Error.failed_makeErrorCode error.code).mpr failing)
        exact tail.completed (effects.accounted (invariant.accounted.takeTask index))
          (onTunnelResponse_answers host _ _ _ _ _).2.1
      | _ => contradiction
    · by_contra success
      have before := unopened.succeeded op (by simpa using success)
      rw [unsucceeded requestId op stored] at before
      contradiction

theorem errors_refused_iff (reachable : Reachable host s) (taken : step host s event = some t) :
    ((∀ message, s.received event = some message → message.error.isSome = true →
        Refused host s message t) ∧ CreatesGenuine s event t) ↔
      ∀ message, s.received event = some message → s.Answers message →
        message.error ≠ some 0 := by
  have invariant := reachable.invariant
  have unsucceeded := reachable.unsucceeded
  have unchanged (unopened : Unopened s t) : CreatesGenuine s event t := by
    intro op success before
    rw [unopened.succeeded op success] at before
    contradiction
  rcases received_cases invariant taken with
    ⟨none, unopened, -⟩ | ⟨index, input, connection, message, rfl, found, running, some, rfl⟩
  · simp only [none]
    exact ⟨fun _ _ _ => by contradiction, fun _ => ⟨fun _ _ => by contradiction, unchanged unopened⟩⟩
  · simp only [some, some_inj, forall_eq']
    constructor
    · rintro ⟨refused, -⟩ answers zero
      have refusal := refused (by rw [zero]; rfl)
      cases message with
      | openControlChannelRsp payload =>
        cases payload with
        | error error =>
          have none : error.code = 0 := some_inj.mp zero
          have left := onReadIncomingMessage_of_refusedConnect host (s := s.takeTask index)
            answers error input
          have pending := (refusal.connect _ rfl answers).1
          rw [show s.generation = (s.takeTask index).generation from rfl, left, if_pos none,
            start_closePending, takeTask_closePending,
            invariant.phase.open_of_connecting answers] at pending
          contradiction
        | _ => contradiction
      | openTunnelRsp requestId payload =>
        obtain ⟨isOpen, stored⟩ := answers
        obtain ⟨op, stored⟩ := isSome_iff_exists.mp stored
        cases payload with
        | error error =>
          have none : error.code = 0 := some_inj.mp zero
          have tail := onReadIncomingMessage_of_refusedCreate host (s := s.takeTask index)
            isOpen stored error input
          have succeeded : (Error.makeErrorCode error.code).failed = false := by
            rw [none]
            rfl
          have more := (tail.unopened (by simp)).faults.trans
            (faults_onTunnelResponse host (s.takeTask index) requestId op succeeded)
          have same : (s.takeTask index).faults + 1 = s.faults := more.symm.trans refusal.faults
          have before : (s.takeTask index).faults = s.faults := rfl
          omega
        | _ => contradiction
      | _ => exact answers
    · intro condition
      rcases message_cases invariant found running message input with
        ⟨unopened, -⟩ | ⟨requestId, payload, op, properties, errorCode, rfl, stored, isOpen, -,
          tail, shape⟩
      · exact ⟨fun isError => refused_of_unopened invariant unsucceeded found input isError
          condition unopened, unchanged unopened⟩
      · rcases shape with ⟨tunnelId, rfl, named, absent⟩ | ⟨error, rfl, zero⟩
        · refine ⟨fun isError => by contradiction, fun index' success before => ?_⟩
          by_cases same : index' = op
          · subst same
            exact ⟨requestId, properties, tunnelId, some, stored, named, absent⟩
          · have earlier := (tail.unopened (by simp)).succeeded index' success
            have still := (onTunnelResponse_answers host (s.takeTask index) _ _ _ _).2.2 index' same
              earlier
            have now : (s.takeTask index).succeeded (.createTunnel index') = false := before
            rw [still] at now
            contradiction
        · exact absurd (by rw [Message.error, zero]) (condition ⟨isOpen, by rw [stored]; rfl⟩)

end Client

/-- The response is one that this handshake waits for. -/
def Handshake.Answers (h : Handshake) (message : Message) : Prop :=
  (h.type = .streamReq ∧ ∃ payload, message = .streamRsp payload) ∨
    (h.type = .proxyReq ∧ ∃ error, message = .proxyRsp error)

/-- The code of an error response is a failure, unless it is zero and awaited. -/
theorem Handshake.failed_responseError (h : Handshake) {message : Message}
    (isError : message.error.isSome = true) :
    (responseError h.type message).failed = true ↔
      (h.Answers message → message.error ≠ some 0) := by
  obtain ⟨code, error⟩ := isSome_iff_exists.mp isError
  rw [error, Ne, some_inj]
  by_cases answers : h.Answers message
  · have mapped : responseError h.type message = Error.makeErrorCode code := by
      rcases answers with ⟨type, payload, rfl⟩ | ⟨type, payload, rfl⟩
      · cases payload with
        | error wire =>
          cases error
          rw [type]
          rfl
        | _ => contradiction
      · cases payload with
        | some wire =>
          cases error
          rw [type]
          rfl
        | none => contradiction
    rw [mapped, Error.failed_makeErrorCode]
    exact ⟨fun failing _ => failing, fun failing => failing answers⟩
  · have unexpected : responseError h.type message = Error.Code.protocolError := by
      unfold responseError
      split
      · rename_i payload type
        exact absurd (.inl ⟨type, payload, rfl⟩) answers
      · rename_i wire type
        exact absurd (.inr ⟨type, wire, rfl⟩) answers
      · rfl
    rw [unexpected]
    exact ⟨fun _ answered => absurd answered answers, fun _ => rfl⟩

theorem Handshake.errors_refused_iff {surroundings : Surroundings} {host : Host}
    {h h' : Handshake} {errorCode : ErrorCode} {message : Message}
    (taken : h.step surroundings host (.read errorCode (some message)) = some h')
    (read : errorCode.failed = false) (isError : message.error.isSome = true) :
    (∃ cause, h'.stage = .completed cause ∧ cause.failed = true) ↔
      (h.Answers message → message.error ≠ some 0) := by
  rw [← h.failed_responseError isError]
  have handled : h' = h.onReadIncomingProtobufMessage message := by
    simp only [step] at taken
    split at taken
    · rw [← some_inj.mp taken, onReadResponse, if_neg (by simp [read])]
    · contradiction
  rw [handled, stage_onReadIncomingProtobufMessage]
  cases failed : (responseError h.type message).failed with
  | true => exact ⟨fun _ => rfl, fun _ => ⟨_, rfl, failed⟩⟩
  | false =>
    refine ⟨?_, fun also => by contradiction⟩
    rintro ⟨cause, same, failing⟩
    cases same
    contradiction

namespace Client

/-- **Error responses.** For every step of a client from a reachable state and for
every response a handshake reads: a response whose error field is set is a refusal,
and create operations succeed only for a new tunnel id, if and only if the response
does not answer an operation with the code zero. -/
theorem engine_errors_refused (host : Host) :
    (∀ s event t, Reachable host s → step host s event = some t →
      (((∀ message, s.received event = some message → message.error.isSome = true →
          Refused host s message t) ∧ CreatesGenuine s event t) ↔
        ∀ message, s.received event = some message → s.Answers message →
          message.error ≠ some 0)) ∧
    ∀ surroundings h h' errorCode message,
      Handshake.step surroundings host h (.read errorCode (some message)) = some h' →
      errorCode.failed = false → message.error.isSome = true →
      ((∃ cause, h'.stage = .completed cause ∧ cause.failed = true) ↔
        (h.Answers message → message.error ≠ some 0)) := by
  refine ⟨fun s event t reachable taken => errors_refused_iff reachable taken, ?_⟩
  intro surroundings h h' errorCode message taken read isError
  exact Handshake.errors_refused_iff taken read isError

/-- The events that lead from a new client to a connect that waits for its response. -/
def awaitingOpen : List Event :=
  [.call (.asyncConnect {}), .run 0 {}, .run 1 { results := [{}] }, .run 1 {}, .run 1 {}, .run 1 {}]

theorem awaitingOpen_isSome :
    (exec (step .plain) (plain {}) awaitingOpen).isSome = true := by
  decide

/-- The client that waits for the response. -/
def awaitingClient : Client :=
  (exec (step .plain) (plain {}) awaitingOpen).get awaitingOpen_isSome

/-- The response that refuses the connect. -/
def unauthorized : Event :=
  .run 2 { message := some (.openControlChannelRsp (.error ⟨1000, none⟩)) }

/-- A connect that the engine refuses as unauthorized is closed. -/
theorem awaitingClient_refused : ∃ t, step .plain awaitingClient unauthorized = some t ∧
    awaitingClient.state = .connecting ∧ t.closePending = true := by
  have reachable : Reachable .plain awaitingClient :=
    ⟨_, _, _, _, Reaches.of_exec awaitingOpen_isSome⟩
  have received : awaitingClient.received unauthorized =
      some (.openControlChannelRsp (.error ⟨1000, none⟩)) := by decide
  refine ⟨_, rfl, by decide, ?_⟩
  have refused := ((engine_errors_refused .plain).1 awaitingClient unauthorized _ reachable rfl).mpr
    (by
      intro message same _
      rw [received] at same
      cases same
      decide)
  exact ((refused.1 _ received rfl).connect _ rfl (by decide)).1

/-- A create operation that waits for its response. -/
def awaitingTunnel : List Event :=
  awaitingOpen ++ [.run 2 { message := some (.openControlChannelRsp (.ok "client" none)) },
    .call (.asyncCreateTunnel {}), .run 4 { requestId := fun _ => "request" }]

theorem awaitingTunnel_isSome :
    (exec (step .plain) (plain {}) awaitingTunnel).isSome = true := by
  decide

/-- The client that waits for the response. -/
def creatingClient : Client :=
  (exec (step .plain) (plain {}) awaitingTunnel).get awaitingTunnel_isSome

/-- The response that refuses the create operation with the unspecified code. -/
def unspecified : Event :=
  .run 3 { message := some (.openTunnelRsp "request" (.error ⟨0, none⟩)) }

/-- The create operation completes successfully, an absent id is used, and a tunnel is
added. -/
theorem creatingClient_succeeds : ∃ t, Reachable .plain creatingClient ∧
    creatingClient.received unspecified = some (.openTunnelRsp "request" (.error ⟨0, none⟩)) ∧
    step .plain creatingClient unspecified = some t ∧
    creatingClient.tunnels.contains "" = false ∧ t.tunnels.contains "" = true ∧
    creatingClient.succeeded (.createTunnel 1) = false ∧
    t.succeeded (.createTunnel 1) = true ∧ t.faults = creatingClient.faults + 1 := by
  exact ⟨_, ⟨_, _, _, _, Reaches.of_exec awaitingTunnel_isSome⟩, by decide, rfl, by decide,
    by decide, by decide, by decide, by decide⟩

end Client

end Rstream.IoRstrm
