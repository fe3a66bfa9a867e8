import Rstream.IoRstrm.Acceptor.Decomposition

/-!
# Accept operations of the acceptor

A step of the acceptor first consumes what it reacts to (the dispatched work, the
expired wait, the completion of a request) and then is a chain of effects. So the
invariant `WellFormed` holds along every run, and what can happen to a stored
accept operation is read off the effects: it stays in `m_accept_op` until it is
accepted, cancelled, or completed by `on_close`.
-/

namespace Rstream.IoRstrm.Acceptor

open Library List

variable {host : Host} {s t : Acceptor}

/-! ## Steps as effects -/

/-- The state in which the handler of an event starts: what the event consumes is
gone. The completion of an accept request first clears `m_accepting`. -/
def prepare (s : Acceptor) : Event → Acceptor
  | .run index _ => { s with tasks := s.tasks.eraseIdx index }
  | .expire => { s with timerArmed := false, timerExpired := s.timerExpired + 1 }
  | .timer _ => { s with timerExpired := s.timerExpired - 1 }
  | .completed request _ _ _ _ _ =>
    match request.kind with
    | .accept op =>
      ({ s with requests := s.requests.erase request } : Acceptor).modifyOp op
        fun o => { o with accepting := false }
    | _ => { s with requests := s.requests.erase request }
  | _ => s

/-- The event is the successful completion of an accept request. -/
def Event.accepts : Event → Bool
  | .completed request errorCode _ _ _ _ =>
    match request.kind with
    | .accept _ => !errorCode.failed
    | _ => false
  | _ => false

/-- The areas of the handler of an event. -/
def areasOf (event : Event) : List Area :=
  if event.accepts then .accepted :: handlerAreas else handlerAreas

theorem handlerAreas_subset (event : Event) : handlerAreas ⊆ areasOf event := by
  unfold areasOf
  split
  · exact subset_cons_self _ _
  · exact fun _ mem => mem

theorem WellFormed.takeTask (wellFormed : s.WellFormed) {index : Nat} {work : AcceptorWork}
    (found : s.tasks[index]? = some work) :
    ({ s with tasks := s.tasks.eraseIdx index } : Acceptor).WellFormed ∧
      ∀ op, work = .asyncAcceptInternal op →
        ({ s with tasks := s.tasks.eraseIdx index } : Acceptor).Ready op := by
  have count (op : Nat) : s.dispatched op =
      ({ s with tasks := s.tasks.eraseIdx index } : Acceptor).dispatched op +
        if work = .asyncAcceptInternal op then 1 else 0 := by
    have counted := countP_of_taken found fun other => other = .asyncAcceptInternal op
    simpa [dispatched] using counted
  refine ⟨⟨wellFormed.unused, wellFormed.invoked, fun op => ?_, fun op pending => ?_,
    wellFormed.stored, wellFormed.open', wellFormed.admitted, wellFormed.starting,
    fun op waits => wellFormed.waiting op ⟨waits.reserved, waits.pending, waits.absent⟩,
    fun op other waits also => wellFormed.single op other
      ⟨waits.reserved, waits.pending, waits.absent⟩ ⟨also.reserved, also.pending, also.absent⟩,
    wellFormed.attached, fun request mem op kind => ?_⟩, fun op starts => ?_⟩
  · have once := wellFormed.once op
    have counted := count op
    omega
  · exact wellFormed.ready op (by have counted := count op; omega)
  · obtain ⟨bound, none⟩ := wellFormed.requested request mem op kind
    exact ⟨bound, by have counted := count op; omega⟩
  · have counted := count op
    rw [if_pos starts] at counted
    have once := wellFormed.once op
    obtain ⟨bound, absent, open'⟩ := wellFormed.ready op (by omega)
    refine ⟨bound, by omega, absent, fun request mem kind => ?_, open'⟩
    have none := (wellFormed.requested request mem op kind).2
    omega

theorem WellFormed.erase (wellFormed : s.WellFormed) (request : Request) :
    ({ s with requests := s.requests.erase request } : Acceptor).WellFormed :=
  wellFormed.of_running rfl rfl rfl rfl (fun _ => rfl) rfl rfl rfl Iff.rfl
    fun other mem => wellFormed.requested other (mem_of_mem_erase mem)

variable {op : Nat} {event : Event}

section

variable (wellFormed : s.WellFormed)

include wellFormed

theorem onAccept_effects (consumed : s.dispatched op = 0)
    (allocated : op < s.nextOp) {errorCode : ErrorCode} {areas : List Area}
    (handler : openAreas ⊆ areas) (accepted : errorCode.failed = false → .accepted ∈ areas)
    (oracle : AcceptorOracle) (calls : List AcceptorCall) :
    (s.modifyOp op fun o => { o with accepting := false }).WellFormed ∧
      Effects areas (s.modifyOp op fun o => { o with accepting := false })
        (s.onAccept op errorCode oracle calls) := by
  have taken : (s.modifyOp op fun o => { o with accepting := false }).WellFormed :=
    wellFormed.modifyOp allocated (fun _ => rfl) (fun _ same => same) fun _ => rfl
  refine ⟨taken, ?_⟩
  have idle : ((s.modifyOp op fun o => { o with accepting := false }).ops op).accepting = false := by
    simp
  have quiet : .quiet ∈ areas := handler (by simp [openAreas])
  unfold onAccept
  dsimp only
  split
  · rename_i cancelled
    have finished := finishAccept_effects .cancelled ⟨cancelled, rfl⟩ idle consumed allocated
    exact finished.mono (by simpa [Cause.area] using quiet)
  split
  · exact .refl
  rename_i open'
  simp only [not_or, not_not] at open'
  split
  · exact (onAcceptFailed_effects taken open'.1 errorCode oracle calls).mono handler
  · rename_i succeeded
    have success : errorCode.failed = false := by simpa using succeeded
    have finished := finishAccept_effects .accepted success idle consumed allocated
    exact finished.mono (by simpa [Cause.area] using ⟨quiet, accepted success⟩)

/-- **Every step is a chain of effects**, once what it consumes is gone. -/
theorem step_effects (taken : step host s event = some t) :
    (s.prepare event).WellFormed ∧ Effects (areasOf event) (s.prepare event) t := by
  have every {u v : Acceptor} (effects : Effects handlerAreas u v) : Effects (areasOf event) u v :=
    effects.mono (handlerAreas_subset event)
  cases event with
  | call call =>
    cases taken
    exact ⟨wellFormed, every ((call_effects wellFormed call).mono
      (by simp [handlerAreas, callAreas]))⟩
  | run index oracle =>
    cases found : s.tasks[index]? with
    | none =>
      simp only [step, found] at taken
      contradiction
    | some work =>
      simp only [step, found, Option.some_inj] at taken
      obtain ⟨before, ready⟩ := wellFormed.takeTask found
      obtain ⟨effects, -⟩ := perform_effects before ready oracle
      rw [← taken]
      exact ⟨before, every (effects.mono callAreas_subset)⟩
  | expire =>
    simp only [step] at taken
    split at taken
    · cases taken
      exact ⟨wellFormed.of_running rfl rfl rfl rfl (fun _ => rfl) rfl rfl rfl Iff.rfl
        wellFormed.requested, .refl⟩
    · contradiction
  | timer oracle =>
    simp only [step] at taken
    split at taken
    · cases taken
      have before : ({ s with timerExpired := s.timerExpired - 1 } : Acceptor).WellFormed :=
        wellFormed.of_running rfl rfl rfl rfl (fun _ => rfl) rfl rfl rfl Iff.rfl
          wellFormed.requested
      exact ⟨before, every (onTimerCb_effects before oracle)⟩
    · contradiction
  | completed request errorCode value oracle propertiesCalls calls =>
    simp only [step] at taken
    split at taken
    · rename_i mem
      have before := wellFormed.erase request
      rw [Option.some_inj, onCompleted] at taken
      cases kind : request.kind with
      | connect =>
        simp only [kind] at taken
        simp only [prepare, kind, ← taken]
        exact ⟨before, every (onConnect_effects host before errorCode oracle calls)⟩
      | create =>
        simp only [kind] at taken
        simp only [prepare, kind, ← taken]
        exact ⟨before, every ((onCreateTunnel_effects host before request.client errorCode value
          oracle propertiesCalls calls).mono openAreas_subset)⟩
      | accept op =>
        simp only [kind] at taken
        obtain ⟨allocated, consumed⟩ := wellFormed.requested request mem op kind
        have success : errorCode.failed = false → .accepted ∈
            areasOf (.completed request errorCode value oracle propertiesCalls calls) := by
          intro succeeded
          simp [areasOf, Event.accepts, kind, succeeded]
        simp only [prepare, kind, ← taken]
        exact onAccept_effects before consumed allocated
          (List.Subset.trans openAreas_subset (handlerAreas_subset _)) success oracle calls
    · contradiction
  | disconnection errorCode oracle calls =>
    cases taken
    exact ⟨wellFormed, every (onClientDisconnection_effects host wellFormed errorCode oracle calls)⟩
  | status status oracle calls =>
    cases taken
    exact ⟨wellFormed, every ((onClientStatus_effects wellFormed status oracle calls).mono
      quiet_subset)⟩

theorem WellFormed.step (taken : Acceptor.step host s event = some t) :
    t.WellFormed := by
  obtain ⟨before, effects⟩ := step_effects wellFormed taken
  exact effects.wellFormed before

theorem WellFormed.run {good : Acceptor → Event → Prop}
    (run : Run (Acceptor.step host) good s t) : t.WellFormed :=
  run.invariant wellFormed fun _ _ _ before _ taken => before.step taken

end

/-! ## What happens to a stored operation -/

theorem log_completeAccept (s : Acceptor) (op : Nat) (errorCode : ErrorCode) :
    ∃ added, (s.completeAccept op errorCode).log = s.log ++ added := by
  cases completed : (s.ops op).completed with
  | true => exact ⟨[], by rw [completeAccept_of_completed completed, append_nil]⟩
  | false => exact ⟨_, by rw [completeAccept_of_pending completed]; rfl⟩

theorem cancelled_completeAccept (s : Acceptor) (op other : Nat) (errorCode : ErrorCode) :
    ((s.completeAccept op errorCode).ops other).cancelled = (s.ops other).cancelled := by
  obtain ⟨ops, log, framed, others, here⟩ := completeAccept_frame s op errorCode
  rw [framed]
  by_cases same : other = op
  · rw [same]
    simp [here]
  · simp [others other same]

theorem cancelled_of_update {o : AcceptOp} (ops : t.ops = Function.update s.ops op o)
    (kept : (s.ops op).cancelled = true → o.cancelled = true) (other : Nat)
    (cancelled : (s.ops other).cancelled = true) : (t.ops other).cancelled = true := by
  rw [ops]
  by_cases same : other = op
  · rw [same] at cancelled ⊢
    rw [Function.update_self]
    exact kept cancelled
  · rw [Function.update_of_ne same]
    exact cancelled

/-- The log only grows, and a cancellation is not taken back. -/
theorem Effect.grows {area : Area} (effect : Effect area s t) :
    (∃ added, t.log = s.log ++ added) ∧
      ∀ op, (s.ops op).cancelled = true → (t.ops op).cancelled = true := by
  have unchanged (log : t.log = s.log) : ∃ added, t.log = s.log ++ added :=
    ⟨[], by rw [log, append_nil]⟩
  cases effect with
  | settle _ _ _ =>
    exact ⟨log_completeAccept s _ _,
      fun op cancelled => (cancelled_completeAccept s _ op _).trans cancelled⟩
  | finish _ _ _ _ =>
    exact ⟨log_completeAccept { s with acceptOp := none } _ _,
      fun op cancelled =>
        (cancelled_completeAccept { s with acceptOp := none } _ op _).trans cancelled⟩
  | close _ =>
    rename_i errorCode _
    cases stored : s.acceptOp with
    | none =>
      simp only [dropAccept, cleared_acceptOp, stored]
      exact ⟨⟨_, rfl⟩, fun _ cancelled => cancelled⟩
    | some op =>
      rw [dropAccept_eq (s := s.cleared errorCode) stored]
      obtain ⟨added, log⟩ := log_completeAccept
        ({ s.cleared errorCode with acceptOp := none } : Acceptor) op
        (errorCode.orElse Error.Code.operationAborted)
      refine ⟨⟨.closed errorCode :: added, ?_⟩, fun other cancelled => ?_⟩
      · rw [log, append_cons]
        rfl
      · exact (cancelled_completeAccept _ op other _).trans cancelled
  | release _ _ _ _ _ =>
    exact ⟨unchanged rfl, cancelled_of_update rfl fun same => same⟩
  | accept _ _ _ _ => exact ⟨⟨_, rfl⟩, cancelled_of_update rfl fun same => same⟩
  | cancelled _ => exact ⟨unchanged rfl, cancelled_of_update rfl fun _ => rfl⟩
  | allocate kept _ _ _ =>
    exact ⟨unchanged rfl, cancelled_of_update rfl fun same => (kept _).trans same⟩
  | reserve _ _ _ _ => exact ⟨unchanged rfl, cancelled_of_update rfl fun same => same⟩
  | notice _ | start _ _ _ _ _ | begin _ _ | create _ _ => exact ⟨⟨_, rfl⟩, fun _ cancelled => cancelled⟩
  | _ => exact ⟨unchanged rfl, fun _ cancelled => cancelled⟩

/-- A completed operation stays completed. -/
theorem WellFormed.completed_of_log (before : s.WellFormed) (after : t.WellFormed)
    {added : List AcceptorOutput} (log : t.log = s.log ++ added)
    (completed : (s.ops op).completed = true) : (t.ops op).completed = true := by
  have first := before.invoked op
  have second := after.invoked op
  rw [completed, if_pos rfl] at first
  rw [invocations, log, countP_append, ← invocations, first] at second
  by_contra open'
  rw [if_neg open'] at second
  omega

/-- The completion of an operation by its cancellation or by `on_close`, as the log
shows it. -/
def Departed (added : List AcceptorOutput) (s : Acceptor) (op : Nat) : Prop :=
  ((s.ops op).cancelled = true ∧ .completed op .operationAborted ∈ added) ∨
    ∃ cause, .closed cause ∈ added ∧
      .completed op (cause.orElse Error.Code.operationAborted) ∈ added

theorem Departed.later {added more : List AcceptorOutput} (departed : Departed added s op)
    (cancelled : (s.ops op).cancelled = true → (t.ops op).cancelled = true) :
    Departed (added ++ more) t op := by
  rcases departed with ⟨signalled, logged⟩ | ⟨cause, closed, logged⟩
  · exact .inl ⟨cancelled signalled, mem_append_left _ logged⟩
  · exact .inr ⟨cause, mem_append_left _ closed, mem_append_left _ logged⟩

/-- What one effect does to the stored operation. -/
theorem Effect.departs {area : Area} (effect : Effect area s t) (other : area ≠ .accepted)
    (wellFormed : s.WellFormed) (stored : s.acceptOp = some op) :
    t.acceptOp = some op ∨ ∃ added, t.log = s.log ++ added ∧ t.acceptOp = none ∧
      (t.ops op).completed = true ∧ Departed added t op := by
  have pending := (wellFormed.stored op stored).2
  have taken {found : Nat} (also : s.acceptOp = some found) : found = op := by
    rw [stored, Option.some_inj] at also
    exact also.symm
  cases effect with
  | settle _ _ _ =>
    rename_i done errorCode _ _ _
    obtain ⟨ops, log, framed, -⟩ := completeAccept_frame s done errorCode
    rw [framed]
    exact .inl stored
  | finish cause also idle explains =>
    cases cause with
    | accepted => exact absurd rfl other
    | cancelled =>
      obtain ⟨cancelled, rfl⟩ := explains
      cases taken also
      rw [completeAccept_of_pending (s := { s with acceptOp := none }) pending]
      refine .inr ⟨_, rfl, rfl, by simp, .inl ⟨?_, mem_singleton.mpr rfl⟩⟩
      simpa using cancelled
  | store _ free _ _ | start _ free _ _ _ =>
    rw [stored] at free
    contradiction
  | close _ =>
    rename_i errorCode _
    rw [dropAccept_eq (s := s.cleared errorCode) stored,
      completeAccept_of_pending (s := { s.cleared errorCode with acceptOp := none }) pending]
    refine .inr ⟨[.closed errorCode,
      .completed op (errorCode.orElse Error.Code.operationAborted)], ?_, rfl, by simp,
      .inr ⟨errorCode, by simp, by simp⟩⟩
    simp
  | _ => exact .inl stored

/-- A chain of effects without a successful accept. -/
theorem Effects.departs {areas : List Area} (effects : Effects areas s t)
    (other : .accepted ∉ areas) (wellFormed : s.WellFormed) (stored : s.acceptOp = some op) :
    t.acceptOp = some op ∨ ∃ added, t.log = s.log ++ added ∧ (t.ops op).completed = true ∧
      Departed added t op := by
  have along : t.WellFormed ∧ ∃ added, t.log = s.log ++ added ∧
      (t.acceptOp = some op ∨ (t.ops op).completed = true ∧ Departed added t op) := by
    refine effects.invariant (p := fun u => u.WellFormed ∧ ∃ added, u.log = s.log ++ added ∧
      (u.acceptOp = some op ∨ (u.ops op).completed = true ∧ Departed added u op)) ?_
      ⟨wellFormed, [], by simp, .inl stored⟩
    rintro area u v mem effect ⟨before, added, log, held | ⟨completed, departed⟩⟩
    · have after := effect.wellFormed before
      refine ⟨after, ?_⟩
      obtain ⟨⟨more, grown⟩, -⟩ := effect.grows
      rcases effect.departs (fun same => other (same ▸ mem)) before held with
        still | ⟨new, extended, -, completed, departed⟩
      · exact ⟨added ++ more, by rw [grown, log, append_assoc], .inl still⟩
      · refine ⟨added ++ new, by rw [extended, log, append_assoc], .inr ⟨completed, ?_⟩⟩
        rcases departed with ⟨cancelled, logged⟩ | ⟨cause, closed, logged⟩
        · exact .inl ⟨cancelled, mem_append_right _ logged⟩
        · exact .inr ⟨cause, mem_append_right _ closed, mem_append_right _ logged⟩
    · have after := effect.wellFormed before
      obtain ⟨⟨more, grown⟩, cancelled⟩ := effect.grows
      exact ⟨after, added ++ more, by rw [grown, log, append_assoc],
        .inr ⟨before.completed_of_log after grown completed, departed.later (cancelled op)⟩⟩
  obtain ⟨-, added, log, held | ⟨completed, departed⟩⟩ := along
  · exact .inl held
  · exact .inr ⟨added, log, completed, departed⟩

/-- How an operation leaves `m_accept_op` in a step: the step delivers a successful
accept of this very operation, or the operation was cancelled, or `on_close` ran.
Each of them completes the operation. -/
def Leaves (s : Acceptor) (event : Event) (t : Acceptor) (op : Nat) : Prop :=
  ∃ added, t.log = s.log ++ added ∧
    ((∃ request errorCode value oracle propertiesCalls calls,
        event = .completed request errorCode value oracle propertiesCalls calls ∧
          request.kind = .accept op ∧ errorCode.failed = false ∧
          .completed op errorCode ∈ added) ∨
      Departed added t op)

/-- What a step consumes is no part of an operation. -/
theorem prepare_frame (s : Acceptor) (event : Event) :
    (s.prepare event).acceptOp = s.acceptOp ∧ (s.prepare event).log = s.log := by
  cases event with
  | completed request _ _ _ _ _ =>
    simp only [prepare]
    cases request.kind with
    | connect | create | accept _ => exact ⟨rfl, rfl⟩
  | call _ | run _ _ | expire | timer _ | disconnection _ _ _ | status _ _ _ => exact ⟨rfl, rfl⟩

/-- The end of another operation than the stored one. -/
theorem finishAccept_of_other {other : Nat} (stored : s.acceptOp = some op) (different : op ≠ other)
    (errorCode : ErrorCode) : (s.finishAccept other errorCode).acceptOp = some op := by
  have apart : s.acceptOp ≠ some other := by
    rw [stored]
    exact fun same => different (Option.some_inj.mp same)
  rw [finishAccept, if_neg apart]
  obtain ⟨ops, log, framed, -⟩ := completeAccept_frame s other errorCode
  rw [framed]
  exact stored

/-- The end of the stored operation. -/
theorem finishAccept_of_stored (stored : s.acceptOp = some op)
    (pending : (s.ops op).completed = false) (errorCode : ErrorCode) :
    s.finishAccept op errorCode = (({ s with acceptOp := none } : Acceptor).modifyOp op
      fun o => { o with completed := true }).emit (.completed op errorCode) := by
  rw [finishAccept, if_pos stored]
  exact completeAccept_of_pending (s := { s with acceptOp := none }) pending errorCode

/-- A successful completion of an accept request. -/
theorem onAccept_leaves (accepted : Nat) (stored : s.acceptOp = some op)
    (pending : (s.ops op).completed = false) {errorCode : ErrorCode}
    (succeeded : errorCode.failed = false) (oracle : AcceptorOracle) (calls : List AcceptorCall) :
    (s.onAccept accepted errorCode oracle calls).acceptOp = some op ∨
      ∃ added, (s.onAccept accepted errorCode oracle calls).log = s.log ++ added ∧
        ((s.onAccept accepted errorCode oracle calls).ops op).completed = true ∧
        (accepted = op ∧ .completed op errorCode ∈ added ∨
          Departed added (s.onAccept accepted errorCode oracle calls) op) := by
  have waiting : ((s.modifyOp accepted fun o => { o with accepting := false }).ops op).completed =
      false := by
    by_cases same : op = accepted
    · simpa [same] using same ▸ pending
    · simpa [same] using pending
  unfold onAccept
  simp only [succeeded, Bool.false_eq_true, if_false]
  generalize before : (s.modifyOp accepted fun o => { o with accepting := false }) = u at waiting ⊢
  have held : u.acceptOp = some op := by
    rw [← before]
    exact stored
  have log : u.log = s.log := by
    rw [← before]
    rfl
  by_cases same : accepted = op
  · subst same
    split
    · rename_i cancelled
      rw [finishAccept_of_stored held waiting]
      refine .inr ⟨_, congrArg (· ++ _) log, by simp, .inr (.inl ⟨?_, mem_singleton.mpr rfl⟩)⟩
      simpa using cancelled
    · split
      · exact .inl held
      · rw [finishAccept_of_stored held waiting]
        exact .inr ⟨_, congrArg (· ++ _) log, by simp, .inl ⟨rfl, mem_singleton.mpr rfl⟩⟩
  · have different : op ≠ accepted := fun equal => same equal.symm
    split
    · exact .inl (finishAccept_of_other held different _)
    · split
      · exact .inl held
      · exact .inl (finishAccept_of_other held different _)

/-- What a step does to the stored operation. -/
theorem stored_step (wellFormed : s.WellFormed) (stored : s.acceptOp = some op)
    (taken : step host s event = some t) :
    t.acceptOp = some op ∨ (t.ops op).completed = true ∧ Leaves s event t op := by
  obtain ⟨before, effects⟩ := step_effects wellFormed taken
  obtain ⟨acceptOp, log⟩ := prepare_frame s event
  cases success : event.accepts with
  | false =>
    have areas : areasOf event = handlerAreas := by simp [areasOf, success]
    rw [areas] at effects
    rcases effects.departs (by simp [handlerAreas, callAreas]) before (acceptOp.trans stored) with
      held | ⟨added, grown, completed, departed⟩
    · exact .inl held
    · exact .inr ⟨completed, added, by rw [grown, log], .inr departed⟩
  | true =>
    cases event with
    | completed request errorCode value oracle propertiesCalls calls =>
      cases kind : request.kind with
      | connect | create => simp [Event.accepts, kind] at success
      | accept accepted =>
        have succeeded : errorCode.failed = false := by
          simpa [Event.accepts, kind] using success
        simp only [step, onCompleted, kind] at taken
        split at taken
        · rw [Option.some_inj] at taken
          have pending := (wellFormed.stored op stored).2
          rcases onAccept_leaves (s := { s with requests := s.requests.erase request })
            accepted stored pending succeeded oracle calls with
            held | ⟨added, grown, completed, ⟨same, logged⟩ | departed⟩
          · exact .inl (taken ▸ held)
          · rw [taken] at grown completed
            exact .inr ⟨completed, added, grown, .inl ⟨request, errorCode, value, oracle,
              propertiesCalls, calls, rfl, same ▸ kind, succeeded, logged⟩⟩
          · rw [taken] at grown completed departed
            exact .inr ⟨completed, added, grown, .inr departed⟩
        · contradiction
    | _ => contradiction

theorem step_log (wellFormed : s.WellFormed) (taken : step host s event = some t) :
    ∃ added, t.log = s.log ++ added := by
  obtain ⟨-, effects⟩ := step_effects wellFormed taken
  rw [← (prepare_frame s event).2]
  refine effects.invariant (p := fun u => ∃ added, u.log = (s.prepare event).log ++ added) ?_
    ⟨[], by rw [append_nil]⟩
  rintro area u v - effect ⟨added, log⟩
  obtain ⟨⟨more, grown⟩, -⟩ := effect.grows
  exact ⟨added ++ more, by rw [grown, log, append_assoc]⟩

/-- **Accept operations.** In every state of every run the handler of each accept
operation has been invoked at most once, and that of the operation in `m_accept_op`
not at all. The stored operation survives every step but a successful accept of its
own, its cancellation and `on_close`, which complete it; so along any further run it
is stored or has been completed once. `m_is_state_non_null` holds exactly outside
`state::null` and while a start is reserved. -/
theorem accept_operations (host : Host) (s : Acceptor)
    (reachable : Reaches (step host) {} s) :
    (∀ op, s.invocations op ≤ 1) ∧
    (∀ op, s.acceptOp = some op → (s.ops op).completed = false ∧ s.invocations op = 0) ∧
    (∀ op event t, s.acceptOp = some op → step host s event = some t →
      t.acceptOp = some op ∨
        t.acceptOp ≠ some op ∧ t.invocations op = 1 ∧ Leaves s event t op) ∧
    (∀ op t, s.acceptOp = some op → Reaches (step host) s t →
      t.acceptOp = some op ∨ t.acceptOp ≠ some op ∧ t.invocations op = 1) ∧
    (s.isStateNonNull = true ↔ s.state ≠ .null ∨ s.startPending = true) := by
  have wellFormed : s.WellFormed := wellFormed_initial.run reachable
  have once {u : Acceptor} (formed : u.WellFormed) {op : Nat}
      (completed : (u.ops op).completed = true) : u.acceptOp ≠ some op ∧ u.invocations op = 1 := by
    refine ⟨fun stored => ?_, ?_⟩
    · have pending := (formed.stored op stored).2
      rw [completed] at pending
      contradiction
    · rw [formed.invoked op, completed, if_pos rfl]
  refine ⟨fun op => ?_, fun op stored => ?_, fun op event t stored taken => ?_,
    fun op t stored run => ?_, wellFormed.admitted⟩
  · rw [wellFormed.invoked op]
    split
    · exact Nat.le_refl 1
    · exact Nat.zero_le 1
  · have pending := (wellFormed.stored op stored).2
    exact ⟨pending, by rw [wellFormed.invoked op, pending]; rfl⟩
  · rcases stored_step wellFormed stored taken with held | ⟨completed, leaves⟩
    · exact .inl held
    · obtain ⟨gone, one⟩ := once (wellFormed.step taken) completed
      exact .inr ⟨gone, one, leaves⟩
  · have along : t.WellFormed ∧ (t.acceptOp = some op ∨ (t.ops op).completed = true) := by
      refine run.invariant
        (p := fun u => u.WellFormed ∧ (u.acceptOp = some op ∨ (u.ops op).completed = true))
        ⟨wellFormed, .inl stored⟩ ?_
      rintro u event v ⟨formed, held | completed⟩ _ taken
      · refine ⟨formed.step taken, ?_⟩
        rcases stored_step formed held taken with still | ⟨completed, -⟩
        · exact .inl still
        · exact .inr completed
      · have after := formed.step taken
        obtain ⟨added, log⟩ := step_log formed taken
        exact ⟨after, .inr (formed.completed_of_log after log completed)⟩
    rcases along with ⟨formed, held | completed⟩
    · exact .inl held
    · exact .inr (once formed completed)

/-- An acceptor is bound and asked to accept, and the operation starts. -/
def bindAndAccept : List Event := [.call (.bind {}), .call (.asyncAccept 0), .run 0 {}]

theorem bindAndAccept_isSome :
    (exec (step .plain) {} bindAndAccept).isSome = true := by
  decide

/-- An acceptor that connects with an accept operation stored. -/
def connectingAcceptor : Acceptor :=
  (exec (step .plain) {} bindAndAccept).get bindAndAccept_isSome

theorem connectingAcceptor_pending :
    connectingAcceptor.acceptOp = some 0 ∧ connectingAcceptor.state = .connecting ∧
      connectingAcceptor.invocations 0 = 0 := by
  have reachable : Reaches (step .plain) {} connectingAcceptor :=
    Reaches.of_exec bindAndAccept_isSome
  have stored : connectingAcceptor.acceptOp = some 0 := by decide
  have operations := accept_operations .plain connectingAcceptor reachable
  exact ⟨stored, by decide, (operations.2.1 0 stored).2⟩

end Rstream.IoRstrm.Acceptor
