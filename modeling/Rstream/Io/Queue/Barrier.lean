import Mathlib.Data.List.Nodup
import Rstream.Io.Queue.Discipline

/-!
# The barrier of `async_cancel`

The owner of a queue closes the transport and frees the buffers when the handler
of `async_cancel` is invoked. A send that is current when the step of
`async_cancel` runs keeps the handler waiting until the transport completes it; a
send that waits in the queue is completed in that step and so is never handed out.
Both are facts about any later state of the run, so they are read off `Later`.
-/

namespace Rstream.Io.Queue

open Library List
open IoRstrm

variable {β : Type} {s t u : Queue β} {line : List Nat} {task operation : Nat}

/-- Whatever a run does, the invariant holds and the history only grows. -/
theorem later_of_reaches (settled : s.Settled) (run : Reaches step s t) :
    t.Settled ∧ Later s t := by
  refine run.invariant (p := fun u => u.Settled ∧ Later s u) ⟨settled, .refl s⟩ ?_
  intro u event v known _ taken
  have advances := advances_step taken
  exact ⟨advances.settled known.1, known.2.trans (advances.later known.1)⟩

/-! ## The step of `async_cancel` -/

theorem handed_complete (task : Nat) (errorCode : ErrorCode) (s : Queue β) :
    (s.complete task errorCode).handed = s.handed := by
  rw [complete]
  split
  · rfl
  · split <;> rfl

theorem handed_cancelQueued (rest : List Nat) (s : Queue β) :
    (cancelQueued rest s).handed = s.handed := by
  induction rest generalizing s with
  | nil => rfl
  | cons task rest ih =>
    rw [cancelQueued, ih, handed_complete]
    rfl

theorem handed_drainCancelHandlers (rest : List Nat) (s : Queue β) :
    (drainCancelHandlers rest s).handed = s.handed := by
  induction rest generalizing s with
  | nil => rfl
  | cons operation rest ih =>
    rw [drainCancelHandlers, ih]
    rfl

/-- The step hands nothing to the transport. -/
theorem handed_asyncCancelInternal (operation : Nat) (s : Queue β) :
    (s.asyncCancelInternal operation).handed = s.handed := by
  have drained (t : Queue β) : t.completeCancelHandlers.handed = t.handed := by
    rw [completeCancelHandlers]
    split
    · rfl
    · exact handed_drainCancelHandlers t.cancelHandlers t
  rw [asyncCancelInternal, drained, cancelPending, handed_cancelQueued, cancelCurrent]
  split <;> rfl

/-- The step completes everything that waits. -/
theorem completed_asyncCancelInternal
    (well : ({ s with strand := .asyncCancelInternal operation :: s.strand } :
      Queue β).WellFormed s.queue) (mem : task ∈ s.queue) :
    (s.asyncCancelInternal operation).completed task = true := by
  have registered := (leads_register s.queue s operation).wellFormed well
  have emptied := emptied_cancelPending
    ({ s with cancelHandlers := s.cancelHandlers ++ [operation] } : Queue β)
  have drained := (leads_completeCancelHandlers [] (cancelPending
    ({ s with cancelHandlers := s.cancelHandlers ++ [operation] } : Queue β))).1
  exact (drained.later (emptied.leads.wellFormed registered)).completed task
    (emptied.completed registered task mem)

/-! ## Every handler once -/

section

variable (well : s.WellFormed line)

include well

theorem WellFormed.nodup_cancels :
    (cancelsOf s.strand ++ s.cancelHandlers ++ cancelsIn s.initiated).Nodup :=
  well.cancels.nodup_iff.mpr nodup_range

theorem WellFormed.cancelsIn_perm :
    (cancelsIn s.posted ++ cancelsIn s.invoked).Perm (cancelsIn s.initiated) := by
  rw [cancelsIn, cancelsIn, ← filterMap_append]
  exact well.posted.filterMap _

theorem WellFormed.notMem_initiated
    (waits : StrandStep.asyncCancelInternal operation ∈ s.strand) :
    operation ∉ cancelsIn s.initiated := by
  intro answered
  have mem : operation ∈ cancelsOf s.strand := mem_filterMap.mpr ⟨_, waits, rfl⟩
  exact (nodup_append.mp well.nodup_cancels).2.2 operation
    (mem_append_left _ mem) operation answered rfl

theorem WellFormed.count_invoked_le (operation : Nat) :
    (cancelsIn s.invoked).count operation ≤ 1 := by
  have total := well.cancelsIn_perm.count_eq operation
  have once := nodup_iff_count_le_one.mp (nodup_append.mp well.nodup_cancels).2.1
    operation
  rw [count_append] at total
  omega

end

/-- An operation that neither waits for the strand nor for a send nor for the executor
has been answered. -/
theorem Settled.count_invoked (settled : s.Settled) (called : operation < s.cancels)
    (ran : StrandStep.asyncCancelInternal operation ∉ s.strand)
    (silent : s.outstanding ++ finishing s.strand = [])
    (unposted : Completion.cancel operation ∉ s.posted) :
    (cancelsIn s.invoked).count operation = 1 := by
  have well := settled.wellFormed
  have idle : s.current = none := by
    have active := well.active
    rw [silent] at active
    cases now : s.current with
    | none => rfl
    | some task =>
      rw [now] at active
      cases nil_perm.mp active
  have all := well.cancels.count_eq operation
  have steps : (cancelsOf s.strand).count operation = 0 := by
    rw [count_eq_zero]
    intro mem
    obtain ⟨work, inStrand, found⟩ := mem_filterMap.mp mem
    cases work with
    | send other | cancelInternal | onTaskCancel other type | onSend other errorCode => cases found
    | asyncCancelInternal other =>
      cases found
      exact ran inStrand
  have gone : (cancelsIn s.posted).count operation = 0 :=
    count_eq_zero.mpr fun mem => unposted (mem_cancelsIn.mp mem)
  have total := well.cancelsIn_perm.count_eq operation
  rw [count_append, count_append, steps, settled.released idle, count_nil,
    count_eq_one_of_mem nodup_range (mem_range.mpr called)] at all
  rw [count_append, gone] at total
  omega

theorem initiated_onSend (late : Nat → CancellationType) (task : Nat) (errorCode : ErrorCode)
    (settled : ({ s with strand := .onSend task errorCode :: s.strand } : Queue β).Settled)
    (mem : operation ∈ s.cancelHandlers) :
    Completion.cancel operation ∈ (s.onSend late task errorCode).initiated := by
  have opened := onSend_eq late settled
  have finished := (leads_finish s.queue s task errorCode).wellFormed settled.wellFormed
  obtain ⟨leads, current, queue, -⟩ := leads_completeCancelHandlers s.queue
    ({ s.settle task errorCode with current := none } : Queue β)
  have processed := processed_processNext late
    ({ s.settle task errorCode with current := none } : Queue β).completeCancelHandlers current
  rw [queue] at processed
  rw [opened]
  refine (processed.leads.later (leads.wellFormed finished)).initiated ?_
  rw [completeCancelHandlers, Option.isSome_none, if_neg Bool.false_ne_true,
    initiated_drainCancelHandlers]
  exact mem_append_right _ (mem_map_of_mem mem)

/-! ## The barrier -/

/-- In every state `t` of every run. For the step of an `async_cancel` in an earlier
state `s`: when its handler was invoked no send handed out before the step is
outstanding, and what was queued or current is completed; what was queued is never
handed out. No handler is invoked twice; it is invoked once its step ran, the
transport has completed its sends and the executor has run it; and a handler that
waits is answered as soon as the completion of a send runs. -/
theorem cancel_barrier (t : Queue β) (reachable : t.Reachable) :
    (∀ (s s' : Queue β) (operation index : Nat) (late : Nat → CancellationType), s.Reachable →
      s.strand[index]? = some (.asyncCancelInternal operation) →
      s.step (.run index late) = some s' → Reaches step s' t →
        (Completion.cancel operation ∈ t.invoked →
          (∀ task ∈ t.outstanding ++ finishing t.strand, task ∉ s.handed) ∧
          ∀ task, task ∈ s.queue ∨ s.current = some task →
            (codes task t.initiated).length = 1) ∧
        ∀ task ∈ s.queue, task ∉ t.handed) ∧
    (∀ operation, (cancelsIn t.invoked).count operation ≤ 1) ∧
    (∀ operation < t.cancels, StrandStep.asyncCancelInternal operation ∉ t.strand →
      t.outstanding ++ finishing t.strand = [] → Completion.cancel operation ∉ t.posted →
        (cancelsIn t.invoked).count operation = 1) ∧
    (∀ operation ∈ t.cancelHandlers, ∀ (index task : Nat) (errorCode : ErrorCode)
      (late : Nat → CancellationType) (u : Queue β),
      t.strand[index]? = some (.onSend task errorCode) → t.step (.run index late) = some u →
        Completion.cancel operation ∈ u.initiated) := by
  have settled := reachable.settled
  have well := settled.wellFormed
  refine ⟨fun s s' operation index late before waits ran run => ?_, well.count_invoked_le,
    fun operation called ran silent unposted => settled.count_invoked called ran silent unposted,
    fun operation mem index task errorCode late u waits ran => ?_⟩
  · have settledBefore := before.settled
    have advances := advances_step ran
    obtain ⟨-, afterwards⟩ := later_of_reaches (advances.settled settledBefore) run
    have later := (advances.later settledBefore).trans afterwards
    -- The state with the step still on the strand.
    have perm := (perm_of_taken waits).symm
    have taken := settledBefore.wellFormed.strand_perm perm
    have result : s' = asyncCancelInternal operation
        { s with strand := s.strand.eraseIdx index } := by
      rw [step, waits] at ran
      exact (Option.some.inj ran).symm
    have completed (task : Nat) (queued : task ∈ s.queue) : s'.completed task = true := by
      rw [result]
      exact completed_asyncCancelInternal taken queued
    have unanswered : operation ∉ cancelsIn s.initiated :=
      settledBefore.wellFormed.notMem_initiated (mem_of_getElem? waits)
    -- As long as a send of before the step is current, the handler is not invoked.
    have released (invoked : Completion.cancel operation ∈ t.invoked) (task : Nat)
        (sent : task ∈ s.handed) : t.current ≠ some task := by
      intro now
      obtain ⟨-, fewer⟩ := later.barrier task sent now
      have mem : operation ∈ cancelsIn t.initiated :=
        well.cancelsIn_perm.subset (mem_append_right _ (mem_cancelsIn.mpr invoked))
      exact unanswered (fewer mem)
    refine ⟨fun invoked => ⟨fun task active sent => ?_, fun task place => ?_⟩,
      fun task queued sent => ?_⟩
    · exact released invoked task sent (Option.mem_toList.mp (well.active.mem_iff.mp active))
    · have done : t.completed task = true := by
        rcases place with queued | current
        · exact afterwards.completed task (completed task queued)
        · have sent := (settledBefore.wellFormed.current task current).1
          exact well.handed task (later.handed sent) (released invoked task sent)
      rw [well.length_codes, done, if_pos rfl]
    · have unsent : task ∉ s'.handed := by
        rw [result, handed_asyncCancelInternal]
        exact settledBefore.wellFormed.notMem_handed_of_line queued
      have notYet := afterwards.fresh task sent unsent
      rw [completed task queued] at notYet
      cases notYet
  · have perm := (perm_of_taken waits).symm
    rw [step, waits] at ran
    rw [← Option.some.inj ran]
    exact initiated_onSend late task errorCode
      (s := { t with strand := t.strand.eraseIdx index })
      ⟨well.strand_perm perm, settled.idle, settled.released⟩ mem

/-- Two sends, one handed out and one waiting, and a call of `async_cancel`. -/
def beforeBarrier : List (Event Nat) :=
  [.asyncSend 10 false, .asyncSend 11 false, .run 0 fun _ => 0, .run 0 fun _ => 0,
    .asyncCancel]

theorem beforeBarrier_isSome : (exec step {} beforeBarrier).isSome = true := by decide

/-- The transport aborts the current send and the handlers run. -/
def afterBarrier : List (Event Nat) :=
  [.transport 0 .operationAborted, .run 0 fun _ => 0, .invoke 0, .invoke 0, .invoke 0]

theorem afterBarrier_isSome :
    (exec step {} (beforeBarrier ++ .run 0 (fun _ => 0) :: afterBarrier)).isSome = true := by
  decide

theorem cancel_barrier_run :
    let s := (exec step {} beforeBarrier).get beforeBarrier_isSome
    let t := (exec step {} (beforeBarrier ++ .run 0 (fun _ => 0) :: afterBarrier)).get
      afterBarrier_isSome
    s.queue = [1] ∧ s.current = some 0 ∧ Completion.cancel 0 ∈ t.invoked ∧
      codes 0 t.initiated = [.operationAborted] ∧
      codes 1 t.initiated = [↑Error.Code.operationCancelled] ∧ 1 ∉ t.handed ∧
      (cancelsIn t.invoked).count 0 = 1 :=
  have barrier := cancel_barrier _ (Reaches.of_exec afterBarrier_isSome)
  ⟨by decide, by decide, by decide, by decide, by decide, by decide,
    barrier.2.2.1 0 (by decide) (by decide) (by decide) (by decide)⟩

end Rstream.Io.Queue
