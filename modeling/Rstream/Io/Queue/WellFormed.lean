import Rstream.Io.Queue.State
import Rstream.Library.Counting

/-!
# The invariant of the send queue

Every task is at one place: its `send` step still waits for the strand, or it
waits in line, or it was handed to the transport, or it is completed. The line is
`m_queue` between two strand steps; inside a step it also holds the task that was
popped and not dealt with yet, so the invariant takes the line as a parameter
(`WellFormed line s`).

A function of the queue is described by `Leads`: from a state that is well formed
with one line it leads to a state that is well formed with another line, and the
history only grows (`Later`).
-/

namespace Rstream.Io

open IoRstrm List

/-- The tasks whose `send` step waits for the strand. -/
def sendsOf (strand : List StrandStep) : List Nat :=
  strand.filterMap fun | .send task => some task | _ => none

/-- The `async_cancel` operations whose step waits for the strand. -/
def cancelsOf (strand : List StrandStep) : List Nat :=
  strand.filterMap fun | .asyncCancelInternal operation => some operation | _ => none

/-- The tasks whose completion by the transport waits for the strand. -/
def finishing (strand : List StrandStep) : List Nat :=
  strand.filterMap fun | .onSend task _ => some task | _ => none

/-- The error codes with which a send was completed. -/
def codes (task : Nat) (completions : List Completion) : List ErrorCode :=
  completions.filterMap fun
    | .send other errorCode => if other = task then some errorCode else none
    | .cancel _ => none

/-- The `async_cancel` operations among completions. -/
def cancelsIn (completions : List Completion) : List Nat :=
  completions.filterMap fun | .cancel operation => some operation | .send _ _ => none

theorem codes_append (task : Nat) (first second : List Completion) :
    codes task (first ++ second) = codes task first ++ codes task second :=
  filterMap_append

@[simp] theorem codes_send (task other : Nat) (errorCode : ErrorCode) :
    codes task [.send other errorCode] = if other = task then [errorCode] else [] := by
  by_cases same : other = task <;> simp [codes, same]

@[simp] theorem codes_cancel (task operation : Nat) : codes task [.cancel operation] = [] := rfl

theorem mem_cancelsIn {operation : Nat} {completions : List Completion} :
    operation ∈ cancelsIn completions ↔ Completion.cancel operation ∈ completions := by
  rw [cancelsIn, mem_filterMap]
  constructor
  · rintro ⟨completion, mem, found⟩
    cases completion with
    | send task errorCode => cases found
    | cancel other =>
      cases found
      exact mem
  · intro mem
    exact ⟨_, mem, rfl⟩

namespace Queue

variable {β : Type} {s t u : Queue β} {line line' line'' : List Nat} {task other : Nat}

/-! ## The flags of a task after an update -/

theorem any_modify {α : Type} (entries : List α) (index other : Nat) {change : α → α}
    {flag : α → Bool} (kept : ∀ entry, flag (change entry) = flag entry) :
    (entries.modify index change)[other]?.any flag = entries[other]?.any flag := by
  rw [getElem?_modify]
  cases entries[other]? with
  | none => rfl
  | some entry => by_cases same : index = other <;> simp [same, kept]

theorem any_modify_of_ne {α : Type} (entries : List α) {index other : Nat} (change : α → α)
    (flag : α → Bool) (different : index ≠ other) :
    (entries.modify index change)[other]?.any flag = entries[other]?.any flag := by
  simp [different]

@[simp] theorem completed_requestCancel (task other : Nat) (type : CancellationType)
    (s : Queue β) : (s.requestCancel task type).completed other = s.completed other :=
  any_modify _ _ _ fun _ => rfl

@[simp] theorem holdsHandler_requestCancel (task other : Nat) (type : CancellationType)
    (s : Queue β) : (s.requestCancel task type).holdsHandler other = s.holdsHandler other :=
  any_modify _ _ _ fun _ => rfl

theorem completed_settle (bound : task < s.tasks.length) (errorCode : ErrorCode) (other : Nat) :
    (s.settle task errorCode).completed other =
      if task = other then true else s.completed other := by
  by_cases same : task = other
  · subst same
    rw [if_pos rfl, completed, settle, invokeCompletionHandler, getElem?_modify,
      getElem?_eq_getElem bound]
    simp
  · rw [if_neg same]
    exact any_modify_of_ne _ _ _ same

theorem holdsHandler_settle_of_ne (different : task ≠ other) (errorCode : ErrorCode) :
    (s.settle task errorCode).holdsHandler other = s.holdsHandler other :=
  any_modify_of_ne _ _ _ different

@[simp] theorem length_tasks_settle (task : Nat) (errorCode : ErrorCode) (s : Queue β) :
    (s.settle task errorCode).tasks.length = s.tasks.length :=
  length_modify ..

theorem codes_settle (task other : Nat) (errorCode : ErrorCode) (s : Queue β) :
    codes other (s.settle task errorCode).initiated =
      codes other s.initiated ++ if task = other then [errorCode] else [] :=
  (codes_append ..).trans (congrArg _ (codes_send ..))

@[simp] theorem cancelsIn_settle (task : Nat) (errorCode : ErrorCode) (s : Queue β) :
    cancelsIn (s.settle task errorCode).initiated = cancelsIn s.initiated := by
  simp [settle, invokeCompletionHandler, cancelsIn]

@[simp] theorem completed_start (task other : Nat) (s : Queue β) :
    (s.start task).completed other = s.completed other :=
  any_modify _ _ _ fun _ => rfl

theorem holdsHandler_start_of_ne (different : task ≠ other) :
    (s.start task).holdsHandler other = s.holdsHandler other :=
  any_modify_of_ne _ _ _ different

/-! ## The invariant -/

/-- The part of the invariant that is about the completion handlers of the sends. -/
structure Accounted (s : Queue β) : Prop where
  /-- Until a task is handed to the transport or completed it holds its handler. -/
  handler : ∀ task < s.tasks.length, task ∉ s.handed → s.completed task = false →
    s.holdsHandler task = true
  pending : ∀ task, s.completed task = false → codes task s.initiated = []
  once : ∀ task, s.completed task = true → ∃ errorCode, codes task s.initiated = [errorCode] ∧
    (task ∉ s.handed → errorCode = Error.Code.operationCancelled)
  posted : (s.posted ++ s.invoked).Perm s.initiated

/-- The invariant, with `line` the tasks that wait. -/
structure WellFormed (line : List Nat) (s : Queue β) : Prop extends Accounted s where
  /-- Every send that was called either waits for its step or has run it, once. -/
  calls : (sendsOf s.strand ++ s.started).Perm (List.range s.tasks.length)
  /-- What was handed to the transport and then what waits, in the order of the steps. -/
  order : (s.handed ++ line).Sublist s.started
  /-- The transport works on the current task and on nothing else. -/
  active : (s.outstanding ++ finishing s.strand).Perm s.current.toList
  current : ∀ task, s.current = some task → task ∈ s.handed ∧ s.completed task = false
  handed : ∀ task ∈ s.handed, s.current ≠ some task → s.completed task = true
  waiting : ∀ task ∈ s.started, task ∉ s.handed → task ∉ line → s.completed task = true
  signalled : ∀ task type, StrandStep.onTaskCancel task type ∈ s.strand → task < s.tasks.length
  cancels : (cancelsOf s.strand ++ s.cancelHandlers ++ cancelsIn s.initiated).Perm
    (List.range s.cancels)
  sound : s.faults = 0

/-- What the history of a later state keeps. -/
structure Later (s t : Queue β) : Prop where
  completed : ∀ task, s.completed task = true → t.completed task = true
  initiated : s.initiated ⊆ t.initiated
  handed : s.handed ⊆ t.handed
  /-- A task is handed to the transport only while it is not completed. -/
  fresh : ∀ task ∈ t.handed, task ∉ s.handed → s.completed task = false
  /-- As long as a send is current no handler of `async_cancel` is invoked. -/
  barrier : ∀ task ∈ s.handed, t.current = some task →
    s.current = some task ∧ cancelsIn t.initiated ⊆ cancelsIn s.initiated

namespace Later

@[refl] theorem refl (s : Queue β) : Later s s :=
  ⟨fun _ done => done, List.Subset.refl _, List.Subset.refl _,
    fun _ mem absent => absurd mem absent, fun _ _ now => ⟨now, List.Subset.refl _⟩⟩

theorem trans (first : Later s t) (second : Later t u) : Later s u where
  completed task done := second.completed task (first.completed task done)
  initiated := List.Subset.trans first.initiated second.initiated
  handed := List.Subset.trans first.handed second.handed
  fresh task mem absent := by
    by_cases before : task ∈ t.handed
    · exact first.fresh task before absent
    · have notYet := second.fresh task mem before
      by_contra done
      rw [Bool.not_eq_false] at done
      rw [first.completed task done] at notYet
      cases notYet
  barrier task mem now := by
    obtain ⟨middle, fewer⟩ := second.barrier task (first.handed mem) now
    obtain ⟨before, fewest⟩ := first.barrier task mem middle
    exact ⟨before, List.Subset.trans fewer fewest⟩

/-- A step that touches neither the flags of the tasks nor the history. -/
theorem of_eq (completed : ∀ task, t.completed task = s.completed task)
    (handed : t.handed = s.handed) (current : t.current = s.current)
    (initiated : t.initiated = s.initiated) : Later s t where
  completed task done := (completed task).trans done
  initiated := by rw [initiated]; exact List.Subset.refl _
  handed := by rw [handed]; exact List.Subset.refl _
  fresh task mem absent := absurd (handed ▸ mem) absent
  barrier task _ now := ⟨current ▸ now, by rw [initiated]; exact List.Subset.refl _⟩

end Later

/-- From a state well formed with `line` to one well formed with `line'`. -/
structure Leads (line : List Nat) (s : Queue β) (line' : List Nat) (t : Queue β) : Prop where
  wellFormed : s.WellFormed line → t.WellFormed line'
  later : s.WellFormed line → Later s t

namespace Leads

theorem refl (line : List Nat) (s : Queue β) : Leads line s line s :=
  ⟨fun well => well, fun _ => .refl s⟩

theorem trans (first : Leads line s line' t) (second : Leads line' t line'' u) :
    Leads line s line'' u :=
  ⟨fun well => second.wellFormed (first.wellFormed well),
    fun well => (first.later well).trans (second.later (first.wellFormed well))⟩

end Leads

/-! ## What the pieces of the functions do -/

namespace WellFormed

section

variable (well : s.WellFormed line)

include well

theorem nodup_started : s.started.Nodup := by
  have all : (sendsOf s.strand ++ s.started).Nodup :=
    well.calls.nodup_iff.mpr nodup_range
  exact (nodup_append.mp all).2.1

theorem nodup_places : (s.handed ++ line).Nodup :=
  well.nodup_started.sublist well.order

theorem lt_of_started (mem : task ∈ s.started) :
    task < s.tasks.length :=
  mem_range.mp (well.calls.mem_iff.mp (mem_append_right _ mem))

theorem started_of_handed (mem : task ∈ s.handed) :
    task ∈ s.started :=
  well.order.subset (mem_append_left _ mem)

theorem started_of_line (mem : task ∈ line) : task ∈ s.started :=
  well.order.subset (mem_append_right _ mem)

theorem notMem_handed_of_line (mem : task ∈ line) :
    task ∉ s.handed := by
  intro handed
  exact (nodup_append.mp well.nodup_places).2.2 task handed task mem rfl

/-- The invariant does not read `m_queue`. -/
theorem requeue (queue : List Nat) :
    ({ s with queue } : Queue β).WellFormed line := { well with }

end

end WellFormed

theorem leads_requeue (line : List Nat) (s : Queue β) (queue : List Nat) :
    Leads line s line { s with queue } :=
  ⟨fun well => well.requeue queue, fun _ => .of_eq (fun _ => rfl) rfl rfl rfl⟩

theorem leads_emitCancellation (line : List Nat) (s : Queue β) (task : Nat)
    (type : CancellationType) : Leads line s line (s.emitCancellation task type) :=
  ⟨fun well => { well with }, fun _ => .of_eq (fun _ => rfl) rfl rfl rfl⟩

theorem leads_requestCancel (line : List Nat) (s : Queue β) (task : Nat)
    (type : CancellationType) : Leads line s line (s.requestCancel task type) where
  later _ := .of_eq (fun _ => completed_requestCancel ..) rfl rfl rfl
  wellFormed well :=
    have length : (s.requestCancel task type).tasks.length = s.tasks.length :=
      length_modify ..
    { well with
      calls := by rw [length]; exact well.calls
      current := fun other now => by
        rw [completed_requestCancel]
        exact well.current other now
      handed := fun other mem past => by
        rw [completed_requestCancel]
        exact well.handed other mem past
      waiting := fun other mem unsent gone => by
        rw [completed_requestCancel]
        exact well.waiting other mem unsent gone
      handler := fun other bound unsent notYet => by
        rw [holdsHandler_requestCancel]
        rw [length] at bound
        rw [completed_requestCancel] at notYet
        exact well.handler other bound unsent notYet
      pending := fun other notYet => by
        rw [completed_requestCancel] at notYet
        exact well.pending other notYet
      once := fun other done => by
        rw [completed_requestCancel] at done
        exact well.once other done
      signalled := fun other type mem => by
        rw [length]
        exact well.signalled other type mem }

/-- The steps of the strand that only carry a cancellation leave the lists of the
invariant alone. -/
theorem leads_raise (line : List Nat) (s : Queue β) (task : Nat) (type : CancellationType) :
    Leads line s line (s.raise task type) := by
  rw [raise]
  split
  · rename_i accepted
    refine (leads_requestCancel line s task type).trans ⟨fun well => ?_, fun _ => ?_⟩
    · have sends : sendsOf [StrandStep.onTaskCancel task type] = [] := rfl
      have cancels : cancelsOf [StrandStep.onTaskCancel task type] = [] := rfl
      have ends : finishing [StrandStep.onTaskCancel task type] = [] := rfl
      exact { well with
        calls := by
          rw [sendsOf, filterMap_append, ← sendsOf, ← sendsOf, sends, append_nil]
          exact well.calls
        active := by
          rw [finishing, filterMap_append, ← finishing, ← finishing, ends, append_nil]
          exact well.active
        cancels := by
          rw [cancelsOf, filterMap_append, ← cancelsOf, ← cancelsOf, cancels,
            append_nil]
          exact well.cancels
        signalled := fun other otherType mem => by
          rcases mem_append.mp mem with before | added
          · exact well.signalled other otherType before
          · cases mem_singleton.mp added
            obtain ⟨found, here, -⟩ := Option.any_eq_true _ _ |>.mp accepted.1
            rw [requestCancel, length_modify]
            exact (List.getElem?_eq_some_iff.mp here).1 }
    · exact .of_eq (fun _ => rfl) rfl rfl rfl
  · exact .refl line s

theorem Accounted.settle (accounted : s.Accounted) (bound : task < s.tasks.length)
    (notYet : s.completed task = false) (errorCode : ErrorCode)
    (cancelled : task ∉ s.handed → errorCode = Error.Code.operationCancelled) :
    (s.settle task errorCode).Accounted where
  handler other inside unsent open' := by
    rw [completed_settle bound] at open'
    split at open'
    · cases open'
    · rename_i different
      rw [holdsHandler_settle_of_ne different]
      rw [length_tasks_settle] at inside
      exact accounted.handler other inside unsent open'
  pending other open' := by
    rw [completed_settle bound] at open'
    split at open'
    · cases open'
    · rename_i different
      rw [codes_settle, if_neg different, append_nil]
      exact accounted.pending other open'
  once other done := by
    rw [completed_settle bound] at done
    rw [codes_settle]
    split at done
    · rename_i same
      subst same
      refine ⟨errorCode, ?_, cancelled⟩
      rw [accounted.pending task notYet, if_pos rfl, nil_append]
    · rename_i different
      obtain ⟨first, one, only⟩ := accounted.once other done
      refine ⟨first, ?_, only⟩
      rw [one, if_neg different, append_nil]
  posted := by
    show (s.posted ++ [Completion.send task errorCode] ++ s.invoked).Perm
      (s.initiated ++ [Completion.send task errorCode])
    rw [append_assoc]
    exact (perm_append_comm_assoc ..).trans
      ((accounted.posted.append_left _).trans perm_append_comm)

/-- Completing a task keeps what was completed and hands out nothing. -/
theorem later_settle (bound : task < s.tasks.length) (errorCode : ErrorCode) :
    Later s (s.settle task errorCode) where
  completed other done := by
    rw [completed_settle bound]
    split
    · rfl
    · exact done
  initiated := subset_append_left ..
  handed := List.Subset.refl _
  fresh _ mem gone := absurd mem gone
  barrier _ _ now := by
    refine ⟨now, ?_⟩
    rw [cancelsIn_settle]
    exact List.Subset.refl _

/-- A task that was not handed to the transport is completed with its own handler. -/
theorem leads_complete (line : List Nat) (s : Queue β) (task : Nat)
    (unsent : s.WellFormed line → task < s.tasks.length ∧ task ∉ s.handed) :
    Leads line s line (s.complete task Error.Code.operationCancelled) := by
  cases notYet : s.completed task with
  | true =>
    rw [complete, if_pos notYet]
    exact .refl line s
  | false =>
    have opened (well : s.WellFormed line) :
        s.complete task Error.Code.operationCancelled =
          s.settle task Error.Code.operationCancelled := by
      obtain ⟨bound, absent⟩ := unsent well
      rw [complete, notYet, if_neg Bool.false_ne_true,
        if_pos (well.handler task bound absent notYet)]
    refine ⟨fun well => ?_, fun well => ?_⟩
    · rw [opened well]
      obtain ⟨bound, absent⟩ := unsent well
      exact { well.toAccounted.settle bound notYet _ fun _ => rfl with
        calls := by
          rw [length_tasks_settle]
          exact well.calls
        order := well.order
        active := well.active
        current := fun other now => by
          obtain ⟨mem, open'⟩ := well.current other now
          refine ⟨mem, ?_⟩
          rw [completed_settle bound, if_neg (ne_of_mem_of_not_mem mem absent).symm]
          exact open'
        handed := fun other mem past => by
          rw [completed_settle bound, if_neg (ne_of_mem_of_not_mem mem absent).symm]
          exact well.handed other mem past
        waiting := fun other mem notSent gone => by
          rw [completed_settle bound]
          split
          · rfl
          · exact well.waiting other mem notSent gone
        signalled := fun other type mem => by
          rw [length_tasks_settle]
          exact well.signalled other type mem
        cancels := by
          rw [cancelsIn_settle]
          exact well.cancels
        sound := well.sound }
    · rw [opened well]
      exact later_settle (unsent well).1 _

/-- A completed task leaves the line. -/
theorem leads_skip {rest : List Nat} (done : s.completed task = true) :
    Leads (task :: rest) s rest s where
  later _ := .refl s
  wellFormed well := { well with
    order := ((sublist_cons_self task rest).append_left _).trans well.order
    waiting := fun other mem unsent gone => by
      by_cases same : other = task
      · rw [same]
        exact done
      · exact well.waiting other mem unsent (not_mem_cons_of_ne_of_not_mem same gone) }

/-- The task at the head of the line is handed to the transport. -/
theorem leads_start (rest : List Nat) (idle : s.current = none)
    (open' : s.completed task = false) : Leads (task :: rest) s rest (s.start task) where
  later well := by
    have unsent := well.notMem_handed_of_line mem_cons_self
    refine ⟨fun other done => ?_, List.Subset.refl _, subset_append_left ..,
      fun other mem gone => ?_, fun other mem now => ?_⟩
    · rw [completed_start]
      exact done
    · rcases mem_append.mp mem with before | added
      · exact absurd before gone
      · rw [mem_singleton.mp added]
        exact open'
    · cases now
      exact absurd mem unsent
  wellFormed well := by
    have unsent := well.notMem_handed_of_line mem_cons_self
    have length : (s.start task).tasks.length = s.tasks.length := length_modify ..
    have silent : s.outstanding ++ finishing s.strand = [] := by
      have active := well.active
      rw [idle] at active
      exact perm_nil.mp active
    obtain ⟨noneOut, noneBack⟩ := append_eq_nil_iff.mp silent
    exact {
      calls := by
        rw [length]
        exact well.calls
      order := by
        show (s.handed ++ [task] ++ rest).Sublist s.started
        rw [append_assoc]
        exact well.order
      active := by
        show (s.outstanding ++ [task] ++ finishing s.strand).Perm [task]
        rw [noneOut, noneBack]
        exact .refl _
      current := fun other now => by
        cases now
        refine ⟨mem_append_right _ mem_cons_self, ?_⟩
        rw [completed_start]
        exact open'
      handed := fun other mem past => by
        rw [completed_start]
        rcases mem_append.mp mem with before | added
        · refine well.handed other before ?_
          rw [idle]
          exact fun impossible => nomatch impossible
        · exact absurd (congrArg some (mem_singleton.mp added).symm) past
      waiting := fun other mem notSent gone => by
        rw [completed_start]
        have different : other ≠ task :=
          fun same => notSent (mem_append_right _ (mem_singleton.mpr same))
        exact well.waiting other mem (fun before => notSent (mem_append_left _ before))
          (not_mem_cons_of_ne_of_not_mem different gone)
      handler := fun other bound notSent notYet => by
        have different : task ≠ other :=
          fun same => notSent (mem_append_right _ (mem_singleton.mpr same.symm))
        rw [holdsHandler_start_of_ne different]
        rw [length] at bound
        rw [completed_start] at notYet
        exact well.handler other bound (fun before => notSent (mem_append_left _ before))
          notYet
      pending := fun other notYet => by
        rw [completed_start] at notYet
        exact well.pending other notYet
      once := fun other done => by
        rw [completed_start] at done
        obtain ⟨errorCode, one, cancelled⟩ := well.once other done
        exact ⟨errorCode, one, fun notSent => cancelled fun before =>
          notSent (mem_append_left _ before)⟩
      posted := well.posted
      signalled := fun other type mem => by
        rw [length]
        exact well.signalled other type mem
      cancels := well.cancels
      sound := well.sound }

/-! ## The functions -/

/-- What `process` and `process_next` leave behind: at most one task is current, and
while none is nobody waits. -/
structure Processed (line : List Nat) (s t : Queue β) : Prop where
  leads : Leads line s t.queue t
  idle : t.current = none → t.queue = []
  cancelHandlers : t.cancelHandlers = s.cancelHandlers

theorem Processed.of_leads {rest : List Nat} (first : Leads line s rest t)
    (same : t.cancelHandlers = s.cancelHandlers) (second : Processed rest t u) :
    Processed line s u :=
  ⟨first.trans second.leads, second.idle, second.cancelHandlers.trans same⟩

/-- Completing a task moves nothing but its flags and the history. -/
theorem complete_frame (task : Nat) (errorCode : ErrorCode) (s : Queue β) :
    (s.complete task errorCode).current = s.current ∧
      (s.complete task errorCode).queue = s.queue ∧
      (s.complete task errorCode).cancelHandlers = s.cancelHandlers := by
  rw [complete]
  split
  · exact ⟨rfl, rfl, rfl⟩
  · split <;> exact ⟨rfl, rfl, rfl⟩

theorem raise_frame (task : Nat) (type : CancellationType) (s : Queue β) :
    (s.raise task type).current = s.current ∧ (s.raise task type).queue = s.queue ∧
      (s.raise task type).cancelHandlers = s.cancelHandlers := by
  rw [raise]
  split <;> exact ⟨rfl, rfl, rfl⟩

theorem completed_complete (bound : task < s.tasks.length)
    (holds : s.completed task = false → s.holdsHandler task = true) (errorCode : ErrorCode) :
    (s.complete task errorCode).completed task = true := by
  cases notYet : s.completed task with
  | true =>
    rw [complete, if_pos notYet]
    exact notYet
  | false =>
    rw [complete, notYet, if_neg Bool.false_ne_true, if_pos (holds notYet),
      completed_settle bound, if_pos rfl]

/-- The task at the head of the line is completed instead of being handed out. -/
theorem leads_complete_head (task : Nat) (rest : List Nat) (s : Queue β) :
    Leads (task :: rest) s rest (s.complete task Error.Code.operationCancelled) := by
  have unsent (well : s.WellFormed (task :: rest)) :
      task < s.tasks.length ∧ task ∉ s.handed :=
    ⟨well.lt_of_started (well.started_of_line mem_cons_self),
      well.notMem_handed_of_line mem_cons_self⟩
  have done (well : s.WellFormed (task :: rest)) :
      (s.complete task Error.Code.operationCancelled).completed task = true := by
    obtain ⟨bound, absent⟩ := unsent well
    exact completed_complete bound (well.handler task bound absent) _
  have leads := leads_complete (task :: rest) s task unsent
  exact ⟨fun well => (leads_skip (done well)).wellFormed (leads.wellFormed well),
    fun well => leads.later well⟩

theorem processed_process {next : Queue β → Queue β} {rest : List Nat}
    (late : Nat → CancellationType) (task : Nat) (idle : s.current = none)
    (queue : s.queue = rest)
    (nextProcessed : ∀ t : Queue β, t.current = none → t.queue = rest →
      Processed rest t (next t)) :
    Processed (task :: rest) s (process next late task s) := by
  obtain ⟨sameCurrent, sameQueue, sameHandlers⟩ := raise_frame task (late task) s
  have raised := leads_raise (task :: rest) s task (late task)
  rw [process]
  generalize s.raise task (late task) = t at sameCurrent sameQueue sameHandlers raised ⊢
  have stillIdle : t.current = none := sameCurrent.trans idle
  have stillQueue : t.queue = rest := sameQueue.trans queue
  cases done : t.completed task with
  | true =>
    rw [if_pos rfl]
    exact .of_leads (raised.trans (leads_skip done)) sameHandlers
      (nextProcessed t stillIdle stillQueue)
  | false =>
    rw [if_neg Bool.false_ne_true]
    split
    · obtain ⟨current, queue, handlers⟩ :=
        complete_frame task Error.Code.operationCancelled t
      exact .of_leads (raised.trans (leads_complete_head task rest t))
        (handlers.trans sameHandlers)
        (nextProcessed _ (current.trans stillIdle) (queue.trans stillQueue))
    · refine ⟨raised.trans ?_, (fun impossible => nomatch impossible), sameHandlers⟩
      have started := leads_start rest stillIdle done
      rw [← stillQueue] at started ⊢
      exact started

/-- The loop of `process_next`, by induction on the tasks that wait. -/
theorem processed_processNextFrom (late : Nat → CancellationType) (rest : List Nat)
    (s : Queue β) (idle : s.current = none) (queue : s.queue = rest) :
    Processed rest s (processNextFrom late rest s) := by
  induction rest generalizing s with
  | nil =>
    refine ⟨?_, fun _ => queue, rfl⟩
    rw [processNextFrom, queue]
    exact .refl [] s
  | cons task rest ih =>
    have popped := leads_requeue (task :: rest) s rest
    rw [processNextFrom]
    generalize hold : ({ s with queue := rest } : Queue β) = t at popped
    have stillIdle : t.current = none := hold ▸ idle
    have newQueue : t.queue = rest := hold ▸ rfl
    have handlers : t.cancelHandlers = s.cancelHandlers := hold ▸ rfl
    cases done : t.completed task with
    | true =>
      rw [if_pos rfl]
      exact .of_leads (popped.trans (leads_skip done)) handlers (ih t stillIdle newQueue)
    | false =>
      rw [if_neg Bool.false_ne_true]
      split
      · obtain ⟨current, sameQueue, sameHandlers⟩ :=
          complete_frame task Error.Code.operationCancelled t
        exact .of_leads (popped.trans (leads_complete_head task rest t))
          (sameHandlers.trans handlers)
          (ih _ (current.trans stillIdle) (sameQueue.trans newQueue))
      · exact .of_leads popped handlers
          (processed_process late task stillIdle newQueue ih)

theorem processed_processNext (late : Nat → CancellationType) (s : Queue β)
    (idle : s.current = none) : Processed s.queue s (s.processNext late) :=
  processed_processNextFrom late s.queue s idle rfl

end Queue

end Rstream.Io
