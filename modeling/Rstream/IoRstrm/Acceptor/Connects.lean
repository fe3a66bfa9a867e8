import Rstream.IoRstrm.Acceptor.Accepts

/-!
# Connect requests of the acceptor

The acceptor asks its client to connect only from `state::idle`, and it leaves
`state::connecting` only when that request is completed. So at most one connect request is
outstanding, the acceptor is connecting while it is, and it was made on the client the
acceptor has (`Matched`). It follows how the acceptor comes to be connected: it was connected
with the same client before the step, or the step delivers the success of a connect request
made on its client (`step_connected`).
-/

namespace Rstream.IoRstrm.Acceptor

variable {host : Host} {s t : Acceptor}

/-- The connect requests that are outstanding. -/
def connects (s : Acceptor) : List Request :=
  s.requests.filter fun request => request.kind = .connect

/-- No connect request is outstanding, or one is, on the client of an acceptor that is
connecting. -/
def Matched (s : Acceptor) : Prop :=
  s.connects = [] ∨
    ∃ request, s.connects = [request] ∧ s.state = .connecting ∧ s.client = some request.client

namespace Matched

theorem of_same (matched : s.Matched) (connects : t.connects = s.connects)
    (state : t.state = s.state) (client : t.client = s.client) : t.Matched := by
  rw [Matched, connects, state, client]
  exact matched

/-- Outside `state::connecting` no connect request is outstanding. -/
theorem none (matched : s.Matched) (other : s.state ≠ .connecting) : s.connects = [] := by
  rcases matched with none | ⟨-, -, connecting, -⟩
  · exact none
  · exact absurd connecting other

theorem request (matched : s.Matched) {request : Request} (mem : request ∈ s.requests)
    (kind : request.kind = .connect) :
    s.connects = [request] ∧ s.state = .connecting ∧ s.client = some request.client := by
  have found : request ∈ s.connects := List.mem_filter.mpr ⟨mem, by simp [kind]⟩
  rcases matched with none | ⟨only, single, connecting, client⟩
  · rw [none] at found
    cases found
  · rw [single, List.mem_singleton] at found
    subst found
    exact ⟨single, connecting, client⟩

end Matched

theorem connects_completeAccept (s : Acceptor) (op : Nat) (errorCode : ErrorCode) :
    (s.completeAccept op errorCode).connects = s.connects ∧
      (s.completeAccept op errorCode).state = s.state ∧
      (s.completeAccept op errorCode).client = s.client := by
  obtain ⟨ops, log, framed, -⟩ := completeAccept_frame s op errorCode
  rw [framed]
  exact ⟨rfl, rfl, rfl⟩

theorem connects_dropAccept (s : Acceptor) (errorCode : ErrorCode) :
    (s.dropAccept errorCode).connects = s.connects ∧
      (s.dropAccept errorCode).state = s.state := by
  unfold dropAccept
  split
  · exact ⟨rfl, rfl⟩
  · obtain ⟨connects, state, -⟩ := connects_completeAccept s _ _
    exact ⟨connects, state⟩

theorem connects_ask (s : Acceptor) (client : Nat) {kind : RequestKind} (other : kind ≠ .connect)
    (output : AcceptorOutput) : (s.ask client kind output).connects = s.connects := by
  simp [connects, other]

/-- Only the begin of a connection asks a client to connect. -/
theorem Effect.connects {area : Area} (effect : Effect area s t) (other : area ≠ .beginning) :
    t.connects = s.connects := by
  cases effect with
  | settle _ _ _ => exact (connects_completeAccept s _ _).1
  | finish _ _ _ _ => exact (connects_completeAccept _ _ _).1
  | accept _ _ _ _ | create _ _ => exact connects_ask _ _ (by simp) _
  | begin _ _ => contradiction
  | close _ => exact (connects_dropAccept _ _).1
  | _ => rfl

theorem Effects.connects {areas : List Area} (effects : Effects areas s t)
    (other : .beginning ∉ areas) : t.connects = s.connects := by
  refine effects.invariant (p := fun u => u.connects = s.connects) ?_ rfl
  intro area u v mem effect same
  refine (effect.connects ?_).trans same
  rintro rfl
  exact other mem

/-- Only a turn makes the acceptor connected. -/
theorem Effect.connected {area : Area} (effect : Effect area s t) (other : area ≠ .turning)
    (connected : t.state = .connected) : s.state = .connected ∧ t.client = s.client := by
  cases effect with
  | settle _ _ _ =>
    obtain ⟨-, state, client⟩ := connects_completeAccept s _ _
    exact ⟨state.symm.trans connected, client⟩
  | @finish _ op errorCode _ _ _ _ =>
    obtain ⟨-, state, client⟩ :=
      connects_completeAccept ({ s with acceptOp := none } : Acceptor) op errorCode
    exact ⟨state.symm.trans connected, client⟩
  | start _ _ _ _ _ | begin _ _ => cases connected
  | close _ => cases (connects_dropAccept _ _).2.symm.trans connected
  | opened _ | failed _ | disconnected _ => contradiction
  | _ => exact ⟨connected, rfl⟩

theorem Effects.connected {areas : List Area} (effects : Effects areas s t)
    (other : .turning ∉ areas) :
    t.state = .connected → s.state = .connected ∧ t.client = s.client := by
  refine effects.invariant (p := fun u => u.state = .connected →
    s.state = .connected ∧ u.client = s.client) ?_ fun connected => ⟨connected, rfl⟩
  intro area u v mem effect before connected
  obtain ⟨already, same⟩ := effect.connected (fun equal => other (equal ▸ mem)) connected
  obtain ⟨initially, client⟩ := before already
  exact ⟨initially, same.trans client⟩

theorem Effects.client_of_quiet {areas : List Area} (effects : Effects areas s t)
    (quiet : areas ⊆ [.calling, .quiet, .accepted, .tunnel]) : t.client = s.client := by
  refine effects.invariant (p := fun u => u.client = s.client) ?_ rfl
  intro area u v mem effect same
  refine Eq.trans ?_ same
  cases effect with
  | settle _ _ _ => exact (connects_completeAccept u _ _).2.2
  | finish _ _ _ _ => exact (connects_completeAccept _ _ _).2.2
  | start _ _ _ _ _ | close _ => simpa using quiet mem
  | _ => rfl

namespace Matched

theorem of_quiet (matched : s.Matched) {areas : List Area} (effects : Effects areas s t)
    (quiet : areas ⊆ [.calling, .quiet, .accepted, .tunnel]) : t.Matched := by
  have begun : .beginning ∉ areas := fun mem => by simpa using quiet mem
  exact matched.of_same (effects.connects begun) (effects.state_of_quiet quiet)
    (effects.client_of_quiet quiet)

theorem of_none {areas : List Area} (none : s.connects = []) (effects : Effects areas s t)
    (other : .beginning ∉ areas) : t.Matched :=
  .inl ((effects.connects other).trans none)

/-! ## Calls -/

section

variable (matched : s.Matched)

include matched

theorem doConnect (oracle : AcceptorOracle) :
    (s.doConnect oracle).Matched := by
  unfold Acceptor.doConnect
  by_cases idle : s.state = .idle
  · have none : s.connects = [] := matched.none (by simp [idle])
    rw [if_neg (by simp [idle])]
    dsimp only
    split
    · exact .inl none
    · rename_i client attached
      split
      · have refused : Effects [.quiet, .closing] { s with state := .connecting } _ :=
          onError_effects _ Error.Code.invalidState
        exact .inl ((refused.connects (by simp)).trans none)
      · refine .inr ⟨⟨client, s.operations client, s.connection + 1, .connect⟩, ?_, rfl, attached⟩
        show List.filter _ (s.requests ++ [_]) = _
        rw [List.filter_append]
        exact congrArg (· ++ _) none
  · rw [if_pos idle]
    exact matched

theorem perform (wellFormed : s.WellFormed) {work : AcceptorWork}
    (ready : ∀ op, work = .asyncAcceptInternal op → s.Ready op) (oracle : AcceptorOracle) :
    (s.perform work oracle).Matched := by
  by_cases settled : s.state ≠ .null ∧ s.state ≠ .idle
  · have quiet := (perform_effects wellFormed ready oracle).2 settled.1 settled.2
    exact matched.of_quiet quiet (by simp)
  have none : s.connects = [] := by
    refine matched.none fun connecting => settled ?_
    simp [connecting]
  cases work with
  | asyncAcceptInternal op =>
    rcases asyncAcceptInternal_cases wellFormed (ready op rfl) oracle with
      quiet | ⟨-, u, stored, -, connects⟩
    · exact of_none none quiet (by simp)
    · have before : u.Matched := of_none none stored (by simp)
      show (s.asyncAcceptInternal op oracle).Matched
      rw [connects]
      exact before.doConnect oracle
  | cancelAccept op => exact of_none none (cancelAccept_effects wellFormed op) (by simp)
  | closeInternal => exact of_none none (closeInternal_effects s).1 (by simp)

theorem callOnStrand (wellFormed : s.WellFormed) (oracle : AcceptorOracle)
    (call : AcceptorCall) : (s.callOnStrand oracle call).Matched := by
  obtain ⟨issued, ready⟩ := issue_effects wellFormed call
  have before := matched.of_quiet issued (by simp)
  unfold Acceptor.callOnStrand
  cases dispatched : (s.issue call).2 with
  | none => exact before
  | some work =>
    exact before.perform (issued.wellFormed wellFormed)
      (fun op same => ready op (by rw [dispatched, same])) oracle

theorem notify (wellFormed : s.WellFormed) (status : StatusExtd)
    (oracle : AcceptorOracle) (calls : List AcceptorCall) :
    (s.notify status oracle calls).Matched := by
  have each : ∀ {u : Acceptor}, u.Matched → u.WellFormed →
      (calls.foldl (Acceptor.callOnStrand oracle) u).Matched := by
    induction calls with
    | nil => exact fun matched _ => matched
    | cons call calls ih =>
      intro u matched wellFormed
      exact ih (matched.callOnStrand wellFormed oracle call)
        ((callOnStrand_effects wellFormed oracle call).1.wellFormed wellFormed)
  have told : Effects [.quiet] s (({ s with status := status } : Acceptor).emit (.status status)) :=
    (Library.Chain.single .status (by simp)).trans (.single (.notice rfl) (by simp))
  unfold Acceptor.notify
  dsimp only
  split
  · exact each (matched.of_quiet told (by simp)) (told.wellFormed wellFormed)
  · exact matched.of_same rfl rfl rfl

theorem doReconnect : s.doReconnect.Matched := by
  unfold Acceptor.doReconnect
  split
  · exact matched
  · exact matched.of_same rfl rfl rfl

end

end Matched

/-! ## Completions and notifications -/

theorem onClose_state (s : Acceptor) (errorCode : ErrorCode) :
    (s.onClose errorCode).state = .null := by
  by_cases null : s.state = .null
  · rw [onClose, if_pos null]
    exact null
  · rw [onClose_eq null]
    exact (connects_dropAccept _ _).2

theorem onError_state (s : Acceptor) {errorCode : ErrorCode} (failed : errorCode.failed = true) :
    (s.onError errorCode).state = .null := by
  rw [onError, if_pos failed]
  exact onClose_state s errorCode

theorem doReconnect_state (s : Acceptor) : s.doReconnect.state = s.state := by
  unfold doReconnect
  split
  · rfl
  · rfl

/-- From `state::idle` a callback does not make the acceptor connected. -/
theorem notify_idle (wellFormed : s.WellFormed) (idle : s.state = .idle) (status : StatusExtd)
    (oracle : AcceptorOracle) (calls : List AcceptorCall) :
    (s.notify status oracle calls).doReconnect.state ≠ .connected := by
  rw [doReconnect_state]
  intro connected
  have effects := (notify_effects wellFormed status oracle calls).1
  have before := (effects.connected (by simp [callAreas]) connected).1
  cases idle.symm.trans before

/-- The completion of the connect request: the acceptor is connected after a success only,
with the client it has. -/
theorem onConnect_connects (host : Host) (wellFormed : s.WellFormed) (unasked : s.connects = [])
    (connecting : s.state = .connecting) (errorCode : ErrorCode) (oracle : AcceptorOracle)
    (calls : List AcceptorCall) :
    (s.onConnect host errorCode oracle calls).Matched ∧
      ((s.onConnect host errorCode oracle calls).state = .connected →
        errorCode.failed = false ∧ (s.onConnect host errorCode oracle calls).client = s.client) := by
  unfold onConnect
  rw [if_neg (not_not.mpr connecting)]
  split
  · refine ⟨.of_none unasked (onClose_effects s .none) (by simp), fun connected => ?_⟩
    cases (onClose_state s .none).symm.trans connected
  split
  · rename_i failed
    split
    · have left : Effects handlerAreas s { s with state := .idle } :=
        .single (.failed connecting) (by simp [handlerAreas])
      have formed := left.wellFormed wellFormed
      have matched : ({ s with state := .idle } : Acceptor).Matched := .inl unasked
      exact ⟨(matched.notify formed _ oracle calls).doReconnect,
        fun connected => absurd connected (notify_idle formed rfl _ oracle calls)⟩
    · refine ⟨.of_none unasked (onError_effects s errorCode) (by simp), fun connected => ?_⟩
      cases (onError_state s failed).symm.trans connected
  · rename_i succeeded
    have opened : Effects handlerAreas s { s with state := .connected } :=
      .single (.opened connecting) (by simp [handlerAreas])
    have told := (notify_effects (opened.wellFormed wellFormed) (s.statusOf "connected") oracle
      calls).2 (by simp) (by simp)
    have effects : Effects [.calling, .quiet, .tunnel] { s with state := .connected } _ :=
      (told.mono (by simp)).trans ((doCreateTunnel_effects _ oracle).mono (by simp))
    have matched : ({ s with state := .connected } : Acceptor).Matched := .inl unasked
    exact ⟨matched.of_quiet effects (by simp),
      fun _ => ⟨by simpa using succeeded, effects.client_of_quiet (by simp)⟩⟩

theorem onClientDisconnection_connects (host : Host) (wellFormed : s.WellFormed)
    (matched : s.Matched) (errorCode : ErrorCode) (oracle : AcceptorOracle) (calls : List AcceptorCall) :
    (s.onClientDisconnection host errorCode oracle calls).Matched ∧
      (s.onClientDisconnection host errorCode oracle calls).state ≠ .connected := by
  unfold onClientDisconnection
  split
  · rename_i other
    exact ⟨matched, other⟩
  rename_i connected
  rw [not_not] at connected
  have unasked : s.connects = [] := matched.none (by simp [connected])
  split
  · refine ⟨.of_none unasked (onClose_effects s errorCode) (by simp), ?_⟩
    simp [onClose_state]
  rename_i open'
  simp only [not_or, not_not] at open'
  split
  · have left : Effects handlerAreas s
        { s with state := .idle, tunnel := none, timerArmed := false } :=
      .single (.disconnected connected) (by simp [handlerAreas])
    have formed := left.wellFormed wellFormed
    have idle : ({ s with state := .idle, tunnel := none, timerArmed := false } :
        Acceptor).Matched := .inl unasked
    exact ⟨(idle.notify formed _ oracle calls).doReconnect, notify_idle formed rfl _ oracle calls⟩
  · refine ⟨.of_none unasked (onError_effects s errorCode) (by simp), ?_⟩
    simp [onError_state s open'.2]

/-! ## Steps -/

/-- What a step does that neither completes a connect request nor delivers a disconnection. -/
structure Steady (s t : Acceptor) : Prop where
  matched : t.Matched
  connected : t.state = .connected → s.state = .connected ∧ t.client = s.client

namespace Steady

theorem of_quiet (matched : s.Matched) {areas : List Area} (effects : Effects areas s t)
    (quiet : areas ⊆ [.calling, .quiet, .accepted, .tunnel]) : Steady s t :=
  ⟨matched.of_quiet effects quiet, effects.connected fun mem => by simpa using quiet mem⟩

/-- The handlers of an open connection run only in `state::connected`. -/
theorem of_open (matched : s.Matched) (effects : Effects (.accepted :: openAreas) s t)
    (idle : s.state ≠ .connected → Effects [.quiet] s t) : Steady s t := by
  by_cases connected : s.state = .connected
  · have unasked : s.connects = [] := matched.none (by simp [connected])
    exact ⟨.of_none unasked effects (by simp [openAreas]), effects.connected (by simp [openAreas])⟩
  · exact of_quiet matched (idle connected) (by simp)

end Steady

section

variable (wellFormed : s.WellFormed)

include wellFormed

theorem perform_steady (matched : s.Matched) {work : AcceptorWork}
    (ready : ∀ op, work = .asyncAcceptInternal op → s.Ready op) (oracle : AcceptorOracle) :
    Steady s (s.perform work oracle) :=
  ⟨matched.perform wellFormed ready oracle,
    (perform_effects wellFormed ready oracle).1.connected (by simp [callAreas])⟩

theorem onTimerCb_steady (matched : s.Matched)
    (oracle : AcceptorOracle) : Steady s (s.onTimerCb oracle) := by
  have quiet {u : Acceptor} (effects : Effects [.quiet, .tunnel] s u) : Steady s u :=
    .of_quiet matched effects (by simp)
  unfold onTimerCb
  split
  · exact quiet .refl
  split
  · exact ⟨matched.doConnect oracle,
      (doConnect_effects wellFormed.attached.mpr oracle).connected (by simp)⟩
  split
  · exact quiet (doCreateTunnel_effects s oracle)
  · exact quiet .refl

theorem onCreateTunnel_steady (matched : s.Matched) (client : Nat)
    (errorCode : ErrorCode) (value : Value) (oracle : AcceptorOracle)
    (propertiesCalls calls : List AcceptorCall) :
    Steady s (s.onCreateTunnel host client errorCode value oracle propertiesCalls calls) := by
  have effects := onCreateTunnel_effects host wellFormed client errorCode value oracle
    propertiesCalls calls
  refine .of_open matched (effects.mono (by simp)) fun other => ?_
  unfold onCreateTunnel
  rw [if_pos other]
  exact .refl

theorem onAccept_steady (matched : s.Matched) {op : Nat}
    (consumed : s.dispatched op = 0) (allocated : op < s.nextOp) (errorCode : ErrorCode)
    (oracle : AcceptorOracle) (calls : List AcceptorCall) :
    Steady s (s.onAccept op errorCode oracle calls) := by
  have effects : Effects (.accepted :: openAreas) (s.modifyOp op fun o => { o with accepting := false })
      (s.onAccept op errorCode oracle calls) :=
    (onAccept_effects wellFormed consumed allocated (by simp) (by simp) oracle calls).2
  have taken : (s.modifyOp op fun o => { o with accepting := false }).Matched :=
    matched.of_same rfl rfl rfl
  have steady : Steady (s.modifyOp op fun o => { o with accepting := false })
      (s.onAccept op errorCode oracle calls) := by
    refine .of_open taken effects fun other => ?_
    unfold onAccept
    dsimp only
    split
    · rename_i cancelled
      have finished := finishAccept_effects .cancelled ⟨cancelled, rfl⟩ (by simp) consumed allocated
      exact finished.mono (by simp [Cause.area])
    · rw [if_pos (.inl other)]
      exact .refl
  exact ⟨steady.matched, steady.connected⟩

end

theorem connects_erase (s : Acceptor) (request : Request) :
    ({ s with requests := s.requests.erase request } : Acceptor).connects =
      s.connects.erase request :=
  List.erase_filter.symm

/-- The completion of another request than a connect. -/
theorem Matched.erase (matched : s.Matched) {request : Request} (other : request.kind ≠ .connect) :
    ({ s with requests := s.requests.erase request } : Acceptor).Matched := by
  refine matched.of_same ?_ rfl rfl
  rw [connects_erase]
  refine List.erase_of_not_mem fun mem => ?_
  have kind := (List.mem_filter.mp mem).2
  exact other (by simpa using kind)

/-- The event delivers the success of a connect request that was made on the client. -/
def Event.connects (client : Option Nat) : Event → Prop
  | .completed request errorCode _ _ _ _ =>
    request.kind = .connect ∧ errorCode.failed = false ∧ client = some request.client
  | _ => False

/-- The event delivers a disconnection. -/
def Event.disconnects : Event → Bool
  | .disconnection _ _ _ => true
  | _ => false

/-- **How the acceptor comes to be connected.** It was connected with the same client before, or
the step delivers the success of a connect request that was made on the client it has. -/
theorem step_connected (wellFormed : s.WellFormed) (matched : s.Matched) {event : Event}
    (taken : step host s event = some t) :
    t.Matched ∧ (t.state = .connected →
      event.disconnects = false ∧ s.state = .connected ∧ t.client = s.client ∨
        event.connects t.client) := by
  have steady (kept : Steady s t) (other : event.disconnects = false) :
      t.Matched ∧ (t.state = .connected →
        event.disconnects = false ∧ s.state = .connected ∧ t.client = s.client ∨
          event.connects t.client) :=
    ⟨kept.matched, fun connected => .inl ⟨other, kept.connected connected⟩⟩
  -- what an event consumes is no part of `Matched`
  have later {u : Acceptor} (kept : Steady u t) (state : u.state = s.state)
      (client : u.client = s.client) : Steady s t :=
    ⟨kept.matched, fun connected => state ▸ client ▸ kept.connected connected⟩
  cases event with
  | call call =>
    cases taken
    exact steady (.of_quiet matched (call_effects wellFormed call) (by simp)) rfl
  | run index oracle =>
    cases found : s.tasks[index]? with
    | none =>
      simp only [step, found] at taken
      contradiction
    | some work =>
      simp only [step, found, Option.some_inj] at taken
      subst taken
      obtain ⟨before, ready⟩ := wellFormed.takeTask found
      exact steady (later (perform_steady before (matched.of_same rfl rfl rfl) ready oracle)
        rfl rfl) rfl
  | expire =>
    simp only [step] at taken
    split at taken
    · cases taken
      exact steady ⟨matched.of_same rfl rfl rfl, fun connected => ⟨connected, rfl⟩⟩ rfl
    · contradiction
  | timer oracle =>
    simp only [step] at taken
    split at taken
    · cases taken
      have before : ({ s with timerExpired := s.timerExpired - 1 } : Acceptor).WellFormed :=
        wellFormed.of_running rfl rfl rfl rfl (fun _ => rfl) rfl rfl rfl Iff.rfl
          wellFormed.requested
      exact steady (later (onTimerCb_steady before (matched.of_same rfl rfl rfl) oracle)
        rfl rfl) rfl
    · contradiction
  | completed request errorCode value oracle propertiesCalls calls =>
    simp only [step] at taken
    split at taken
    · rename_i mem
      have before := wellFormed.erase request
      rw [Option.some_inj, onCompleted] at taken
      cases kind : request.kind with
      | connect =>
        obtain ⟨only, connecting, client⟩ := matched.request mem kind
        have unasked : ({ s with requests := s.requests.erase request } : Acceptor).connects =
            [] := by
          rw [connects_erase, only, List.erase_cons_head]
        simp only [kind] at taken
        obtain ⟨kept, opened⟩ :=
          onConnect_connects host before unasked connecting errorCode oracle calls
        rw [taken] at kept opened
        refine ⟨kept, fun connected => .inr ⟨kind, ?_⟩⟩
        obtain ⟨succeeded, same⟩ := opened connected
        exact ⟨succeeded, same.trans client⟩
      | create =>
        simp only [kind] at taken
        subst taken
        exact steady (later (onCreateTunnel_steady before (matched.erase (by simp [kind]))
          request.client errorCode value oracle propertiesCalls calls) rfl rfl) rfl
      | accept op =>
        simp only [kind] at taken
        subst taken
        obtain ⟨allocated, consumed⟩ := wellFormed.requested request mem op kind
        exact steady (later (onAccept_steady before (matched.erase (by simp [kind])) consumed
          allocated errorCode oracle calls) rfl rfl) rfl
    · contradiction
  | disconnection errorCode oracle calls =>
    cases taken
    obtain ⟨kept, left⟩ :=
      onClientDisconnection_connects host wellFormed matched errorCode oracle calls
    exact ⟨kept, fun connected => absurd connected left⟩
  | status status oracle calls =>
    cases taken
    exact steady (.of_quiet matched (onClientStatus_effects wellFormed status oracle calls)
      (by simp)) rfl

end Rstream.IoRstrm.Acceptor
