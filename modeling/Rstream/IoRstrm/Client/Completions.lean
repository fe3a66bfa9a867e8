import Rstream.IoRstrm.Client.Phase

/-!
# Completions of operations

The three invariants of the client hold in every reachable state. From them: the
completion handler of an operation is invoked at most once in every run, and
whenever a run has come back to `state::null` the stores are empty and every
operation that was ever stored has been completed.

The second part is a progress statement about a run from the state in which the
operation is stored. What a step preserves is `Pending`: the operation is still
stored, or it is completed.
-/

namespace Rstream.IoRstrm

open Library
open Std (TreeMap)

namespace Client

variable {host : Host} {area : Area} {s t : Client}

/-! ## The invariants along steps -/

/-- The invariants of the client. -/
structure Invariant (s : Client) : Prop where
  wellFormed : s.WellFormed
  accounted : s.Accounted
  phase : s.Phase

theorem Invariant.of_effects {areas : List Area} (invariant : s.Invariant)
    (effects : Effects host areas s t) (running : .ending ∉ areas) : t.Invariant :=
  ⟨effects.wellFormed invariant.wellFormed, effects.accounted invariant.accounted,
    invariant.phase.of_effects running effects invariant.accounted⟩

theorem Accounted.takeTask (accounted : s.Accounted) (index : Nat) :
    (s.takeTask index).Accounted :=
  accounted.of_eq rfl (fun _ => rfl) fun _ => rfl

variable {index : Nat} {task : Task} {op : OpId}

theorem queueCancels_takeTask (found : s.tasks[index]? = some task) :
    s.queueCancels =
      (s.takeTask index).queueCancels + if task.work.isQueueCancel then 1 else 0 :=
  countP_of_taken found _

/-- Taking any task but the completion of a cancellation keeps the phase. -/
theorem Phase.takeTask (phase : s.Phase) (found : s.tasks[index]? = some task)
    (other : task.work.isQueueCancel = false) :
    (s.takeTask index).Phase where
  counted := by
    have counted := queueCancels_takeTask found
    rw [other, phase.counted] at counted
    exact counted.symm
  closing := phase.closing
  connect := phase.connect
  previous := fun later mem => phase.previous later (List.mem_of_mem_eraseIdx mem)
  creates := phase.creates
  tunnels := phase.tunnels

theorem Phase.queueCancelSettled (phase : s.Phase) (found : s.tasks[index]? = some task) :
    (s.takeTask index).QueueCancelSettled task := by
  intro cause previousState callback work open'
  exact (phase.previous task (mem_of_taken found) cause previousState callback work).2 open'

/-- While a cancellation is pending the client waits for it, and there is only
one. -/
theorem Phase.pending_of_queueCancel (phase : s.Phase) (found : s.tasks[index]? = some task)
    (work : task.work.isQueueCancel = true) :
    s.closePending = true ∧ (s.takeTask index).queueCancels = 0 := by
  have counted := queueCancels_takeTask found
  rw [work, if_pos rfl, phase.counted] at counted
  cases pending : s.closePending with
  | true =>
    rw [pending, if_pos rfl] at counted
    exact ⟨rfl, by omega⟩
  | false =>
    rw [pending] at counted
    simp at counted

/-- The phase after the end of a connection. -/
theorem Phase.onQueueCancelled (phase : s.Phase) (found : s.tasks[index]? = some task)
    (work : task.work.isQueueCancel = true) (errorCode cause : ErrorCode)
    (previousState : ClientState) (callback : Bool) :
    ((s.takeTask index).onQueueCancelled host errorCode cause previousState callback).Phase := by
  obtain ⟨pending, none⟩ := phase.pending_of_queueCancel found work
  obtain ⟨createTunnelOps, tunnels, ops, log, ended, creates, accepts⟩ :=
    onQueueCancelled_spec host (s.takeTask index) errorCode cause previousState callback pending
  rw [ended]
  refine ⟨none, fun closing => by contradiction, fun op stored => by contradiction,
    fun later mem => ?_, fun _ => creates, fun _ => accepts⟩
  intro laterCause laterState laterCallback laterWork
  have other := List.countP_eq_zero.mp none later mem
  rw [laterWork] at other
  exact absurd rfl other

theorem ending_notMem_areasOf (calls : List (Call × Oracle)) {work : Work}
    (other : work.isQueueCancel = false) : .ending ∉ areasOf calls work := by
  cases work with
  | queueCancel _ _ _ => contradiction
  | _ => simp [areasOf]

theorem run_effects (host : Host) (invariant : s.Invariant) (found : s.tasks[index]? = some task)
    (input : Input) :
    Effects host (areasOf input.calls task.work) (s.takeTask index)
      ((s.takeTask index).perform host task input) := by
  obtain ⟨wellFormed, stamped, storable⟩ := invariant.wellFormed.takeTask found
  exact perform_effects wellFormed stamped storable
    (fun connecting => invariant.phase.tunnels (.inr connecting))
    (invariant.phase.queueCancelSettled found) input

/-- **Every step keeps the invariants.** -/
theorem Invariant.step (invariant : s.Invariant) {event : Event}
    (taken : step host s event = some t) : t.Invariant := by
  rcases step_cases taken with ⟨call, rfl, rfl⟩ | ⟨index, input, task, rfl, found, rfl⟩
  · have effects : Effects host [.control, .calling] s (s.call call) :=
      call_effects invariant.wellFormed call
    exact invariant.of_effects effects (by simp)
  · have effects := run_effects host invariant found input
    have wellFormed := (invariant.wellFormed.takeTask found).1
    have accounted := invariant.accounted.takeTask index
    cases work : task.work.isQueueCancel with
    | false =>
      have before : (s.takeTask index).Invariant :=
        ⟨wellFormed, accounted, invariant.phase.takeTask found work⟩
      exact before.of_effects effects (ending_notMem_areasOf input.calls work)
    | true =>
      refine ⟨effects.wellFormed wellFormed, effects.accounted accounted, ?_⟩
      obtain ⟨generation, connection, pending⟩ := task
      cases pending with
      | queueCancel cause previousState callback =>
        exact invariant.phase.onQueueCancelled found work _ _ _ _
      | _ => contradiction

theorem invariant_make (config : ConfigClient) (defaultServerAddress : Except ErrorCode Address)
    (token mtlsToken : Except ErrorCode (Option String)) :
    (make config defaultServerAddress token mtlsToken).Invariant := by
  refine ⟨wellFormed_make _ _ _ _, ⟨fun _ => rfl, fun _ => rfl⟩, ?_⟩
  refine ⟨rfl, fun pending => ?_, fun op stored => ?_, fun task mem => ?_, fun _ _ => rfl,
    fun _ _ => rfl⟩
  · contradiction
  · contradiction
  · contradiction

theorem Invariant.run {event : Client → Event → Prop} (invariant : s.Invariant)
    (run : Run (Client.step host) event s t) : t.Invariant :=
  run.invariant invariant fun _ _ _ before _ taken => before.step taken

/-- The invariants hold in every reachable state. -/
theorem Reachable.invariant (reachable : Reachable host s) : s.Invariant := by
  obtain ⟨config, defaultServerAddress, token, mtlsToken, run⟩ := reachable
  exact (invariant_make config defaultServerAddress token mtlsToken).run run

/-! ## Stored operations -/

/-- An operation that was stored and is still stored, or is completed. -/
def Pending (s : Client) (op : OpId) : Prop := s.Stored op ∨ (s.ops op).completed = true

/-- The log only grows. -/
theorem Effect.log (effect : Effect host area s t) : ∃ added, t.log = s.log ++ added := by
  have same : t.log = s.log → ∃ added, t.log = s.log ++ added :=
    fun kept => ⟨[], by rw [kept, List.append_nil]⟩
  cases effect with
  | notice _ | fault | request | streamConnected | socketOutput _ | disconnection =>
    exact ⟨_, rfl⟩
  | send _ _ _ | connectStream | respond _
  | fail _ _ _ | failConnect _ _ | created _ | accepted _ | opened _ _ _ => exact ⟨_, rfl⟩
  | _ => exact same rfl

theorem Effect.completed (effect : Effect host area s t) (accounted : s.Accounted)
    (completed : (s.ops op).completed = true) : (t.ops op).completed = true := by
  obtain ⟨added, log⟩ := effect.log
  have before := accounted.invoked op
  have after := (effect.accounted accounted).invoked op
  rw [completed, if_pos rfl] at before
  rw [invocations, log, List.countP_append, ← invocations, before] at after
  by_contra open'
  rw [if_neg open'] at after
  omega

/-- Outside an open connection nothing is stored. -/
theorem Phase.empty_of_null (phase : s.Phase) (idle : s.state = .null) (slot : Slot) :
    s.holds slot = none := by
  cases slot with
  | connect =>
    cases stored : s.connectOp with
    | none => rw [holds, stored]; rfl
    | some op =>
      rcases (phase.connect op stored).2 with connecting | pending
      · rw [idle] at connecting
        contradiction
      · have closing := phase.closing pending
        rw [idle] at closing
        contradiction
  | create requestId =>
    rw [holds, phase.creates (.inl idle) requestId]
    rfl
  | accept tunnelId =>
    rw [holds, acceptOn, phase.tunnels (.inl idle) tunnelId]
    rfl

/-- A pending operation stays pending under an effect that stores into free slots
only. -/
theorem Effect.pending (effect : Effect host area s t) (accounted : s.Accounted)
    (free : area = .storing ∨ area = .stream → s.state = .null → ∀ slot, s.holds slot = none)
    (pending : s.Pending op) : t.Pending op := by
  rcases pending with ⟨slot, held⟩ | completed
  · cases effect.slots with
    | released each =>
      rcases each slot with kept | ⟨_, settled⟩
      · exact .inl ⟨slot, kept.trans held⟩
      · exact .inr (settled op held)
    | stored target new storable here others unused storing =>
      by_cases same : slot = target
      · subst same
        have empty : s.holds slot = none := by
          rcases unused with empty | idle
          · exact empty
          · exact free storing idle slot
        rw [empty] at held
        contradiction
      · exact .inl ⟨slot, (others slot same).trans held⟩
  · exact .inr (effect.completed accounted completed)

theorem Invariant.pending_of_effects {areas : List Area} (invariant : s.Invariant)
    (effects : Effects host areas s t) (running : .ending ∉ areas) (pending : s.Pending op) :
    t.Pending op := by
  have both : t.Accounted ∧ t.Phase ∧ t.Pending op := by
    refine effects.invariant (p := fun u => u.Accounted ∧ u.Phase ∧ u.Pending op) ?_
      ⟨invariant.accounted, invariant.phase, pending⟩
    rintro area s t mem effect ⟨accounted, phase, pending⟩
    have notEnding : area ≠ .ending := fun same => running (same ▸ mem)
    exact ⟨effect.accounted accounted, phase.of_effect accounted effect notEnding,
      effect.pending accounted (fun _ => phase.empty_of_null) pending⟩
  exact both.2.2

/-- The end of a connection stores nothing, so it needs no phase. -/
theorem pending_of_ending (accounted : s.Accounted) (effects : Effects host [.control, .ending] s t)
    (pending : s.Pending op) : t.Pending op := by
  have both : t.Accounted ∧ t.Pending op := by
    refine effects.invariant (p := fun u => u.Accounted ∧ u.Pending op) ?_ ⟨accounted, pending⟩
    rintro area s t mem effect ⟨accounted, pending⟩
    refine ⟨effect.accounted accounted, effect.pending accounted ?_ pending⟩
    rintro (rfl | rfl)
    · simp at mem
    · simp at mem
  exact both.2

theorem Pending.step (invariant : s.Invariant) (pending : s.Pending op) {event : Event}
    (taken : Client.step host s event = some t) : t.Pending op := by
  rcases step_cases taken with ⟨call, rfl, rfl⟩ | ⟨index, input, task, rfl, found, rfl⟩
  · have effects : Effects host [.control, .calling] s (s.call call) :=
      call_effects invariant.wellFormed call
    exact invariant.pending_of_effects effects (by simp) pending
  · have effects := run_effects host invariant found input
    have accounted := invariant.accounted.takeTask index
    have pending : (s.takeTask index).Pending op := pending
    cases work : task.work.isQueueCancel with
    | false =>
      have before : (s.takeTask index).Invariant :=
        ⟨(invariant.wellFormed.takeTask found).1, accounted, invariant.phase.takeTask found work⟩
      exact before.pending_of_effects effects (ending_notMem_areasOf input.calls work) pending
    | true =>
      have ending : areasOf input.calls task.work = [.control, .ending] := by
        cases pending : task.work with
        | queueCancel _ _ _ => rfl
        | _ => rw [pending] at work; contradiction
      rw [ending] at effects
      exact pending_of_ending accounted effects pending

theorem Pending.run {good : Client → Event → Prop} (invariant : s.Invariant)
    (pending : s.Pending op) (run : Run (Client.step host) good s t) : t.Pending op := by
  have both : t.Invariant ∧ t.Pending op := by
    refine run.invariant (p := fun u => u.Invariant ∧ u.Pending op) ⟨invariant, pending⟩ ?_
    rintro u event v ⟨invariant, pending⟩ _ taken
    exact ⟨invariant.step taken, pending.step invariant taken⟩
  exact both.2

/-! ## At most once, and exactly once at the end -/

theorem invocations_le_one (accounted : s.Accounted) (op : OpId) : s.invocations op ≤ 1 := by
  rw [accounted.invoked op]
  split
  · exact Nat.le_refl 1
  · exact Nat.zero_le 1

theorem isEmpty_of_lookups {β : Type} (map : TreeMap String β)
    (none : ∀ key : String, map[key]? = none) : map.isEmpty = true := by
  rw [TreeMap.isEmpty_iff_forall_not_mem]
  intro key mem
  have found := none key
  rw [TreeMap.getElem?_eq_some_getElem mem] at found
  contradiction

/-- **Completions.** In every run the completion handler of every operation is
invoked at most once. Whenever a run leads back to `state::null`, the three stores
are empty and every operation that was stored at any point before has had its
handler invoked exactly once. The completion of the queue's cancellation does
lead to that state. -/
theorem completed_exactly_once (host : Host) (s : Client) (reachable : Reachable host s) :
    (∀ op, s.invocations op ≤ 1) ∧
    (∀ t, Reaches (Client.step host) s t → t.state = .null →
      (∀ op, s.Stored op → t.invocations op = 1) ∧
        t.connectOp = none ∧ t.createTunnelOps.isEmpty = true ∧ t.tunnels.isEmpty = true) ∧
    ∀ index input task t, s.tasks[index]? = some task → task.work.isQueueCancel = true →
      Client.step host s (.run index input) = some t → t.state = .null := by
  have invariant := reachable.invariant
  refine ⟨invocations_le_one invariant.accounted, fun t run idle => ?_, ?_⟩
  · have after : t.Invariant := invariant.run run
    have empty := after.phase.empty_of_null idle
    refine ⟨fun op stored => ?_, ?_, ?_, ?_⟩
    · rcases Pending.run invariant (.inl stored) run with ⟨slot, held⟩ | completed
      · rw [empty slot] at held
        contradiction
      · rw [after.accounted.invoked op, completed, if_pos rfl]
    · cases stored : t.connectOp with
      | none => rfl
      | some op =>
        have held := empty .connect
        rw [holds, stored] at held
        contradiction
    · exact isEmpty_of_lookups _ (after.phase.creates (.inl idle))
    · exact isEmpty_of_lookups _ (after.phase.tunnels (.inl idle))
  · intro index input task t found work taken
    obtain ⟨pending, -⟩ := invariant.phase.pending_of_queueCancel found work
    simp only [Client.step, found, Option.some_inj] at taken
    obtain ⟨generation, connection, queued⟩ := task
    cases queued with
    | queueCancel cause previousState callback =>
      obtain ⟨createTunnelOps, tunnels, ops, log, ended, -, -⟩ :=
        onQueueCancelled_spec host (s.takeTask index) input.errorCode cause previousState
          callback pending
      rw [← taken]
      simp only [perform, ended, reset_state]
    | _ => contradiction

/-- A connect operation that is stored and closed before the connection is open. -/
def connectThenClose : List Event :=
  [.call .close, .run 2 {}, .run 2 {}]

theorem plain_connecting_isSome :
    (exec (Client.step .plain) (plain {}) [.call (.asyncConnect {}), .run 0 {}]).isSome =
      true := by
  decide

/-- A connecting client. -/
def plainConnecting : Client :=
  (exec (Client.step .plain) (plain {}) [.call (.asyncConnect {}), .run 0 {}]).get
    plain_connecting_isSome

theorem plainConnecting_closes :
    (exec (Client.step .plain) plainConnecting connectThenClose).isSome = true := by
  decide

theorem completed_once_after_close :
    plainConnecting.Stored (.connect 0) ∧
      ((exec (Client.step .plain) plainConnecting connectThenClose).get
        plainConnecting_closes).invocations (.connect 0) = 1 := by
  have stored : plainConnecting.Stored (.connect 0) := ⟨.connect, by decide⟩
  have reachable : Reachable .plain plainConnecting :=
    ⟨_, _, _, _, Reaches.of_exec plain_connecting_isSome⟩
  have exactly := (completed_exactly_once .plain plainConnecting reachable).2.1 _
    (Reaches.of_exec plainConnecting_closes) (by decide)
  exact ⟨stored, exactly.1 _ stored⟩

end Client

end Rstream.IoRstrm
