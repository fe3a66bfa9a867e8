import Rstream.Io.Queue.WellFormed

/-!
# The discipline of the send queue

Each strand step takes its own entry from the strand and then runs; the invariant
before the step is the one of the state in which the entry is still there. Between
two steps the line is `m_queue`, and while no task is current neither a task nor a
handler of `async_cancel` waits (`Settled`).

From the invariant of all runs follows what the queue promises to its callers
(`send_discipline`).
-/

namespace Rstream.Io.Queue

open Library List
open IoRstrm

variable {β : Type} {s t u : Queue β} {line line' : List Nat} {task : Nat}

/-! ## Taking a step from the strand -/

/-- The order of the steps that wait does not matter. -/
theorem WellFormed.strand_perm {strand : List StrandStep} (well : s.WellFormed line)
    (same : s.strand.Perm strand) : ({ s with strand } : Queue β).WellFormed line :=
  { well with
    calls := ((same.filterMap _).symm.append_right _).trans well.calls
    active := ((same.filterMap _).symm.append_left _).trans well.active
    signalled := fun task type mem => well.signalled task type (same.mem_iff.mpr mem)
    cancels := (((same.filterMap _).symm.append_right _).append_right _).trans well.cancels }

/-- A `send` step puts its task at the end of the line. -/
theorem leads_begin (line : List Nat) (s : Queue β) (task : Nat) :
    Leads line { s with strand := .send task :: s.strand } (line ++ [task])
      { s with started := s.started ++ [task] } where
  later _ := .of_eq (fun _ => rfl) rfl rfl rfl
  wellFormed well := { well with
    calls := by
      show (sendsOf s.strand ++ (s.started ++ [task])).Perm (range s.tasks.length)
      rw [← append_assoc]
      exact (perm_append_singleton ..).trans well.calls
    order := by
      show (s.handed ++ (line ++ [task])).Sublist (s.started ++ [task])
      rw [← append_assoc]
      exact well.order.append_right [task]
    waiting := fun other mem unsent gone => by
      rw [mem_append, not_or] at gone
      rcases mem_append.mp mem with before | added
      · exact well.waiting other before unsent gone.1
      · exact absurd added gone.2
    signalled := fun other type mem => well.signalled other type (mem_cons_of_mem _ mem) }

/-- An `async_cancel` step puts its handler at the end of the waiting handlers. -/
theorem leads_register (line : List Nat) (s : Queue β) (operation : Nat) :
    Leads line { s with strand := .asyncCancelInternal operation :: s.strand } line
      { s with cancelHandlers := s.cancelHandlers ++ [operation] } where
  later _ := .of_eq (fun _ => rfl) rfl rfl rfl
  wellFormed well := { well with
    signalled := fun other type mem => well.signalled other type (mem_cons_of_mem _ mem)
    cancels := by
      show (cancelsOf s.strand ++ (s.cancelHandlers ++ [operation]) ++
        cancelsIn s.initiated).Perm (range s.cancels)
      rw [← append_assoc]
      exact ((perm_append_singleton ..).append_right _).trans well.cancels }

/-- Steps that carry no operation of their own. -/
theorem leads_cancelInternal_taken (line : List Nat) (s : Queue β) :
    Leads line { s with strand := .cancelInternal :: s.strand } line s where
  later _ := .of_eq (fun _ => rfl) rfl rfl rfl
  wellFormed well := { well with
    signalled := fun other type mem => well.signalled other type (mem_cons_of_mem _ mem) }

theorem leads_onTaskCancel_taken (line : List Nat) (s : Queue β) (task : Nat)
    (type : CancellationType) :
    Leads line { s with strand := .onTaskCancel task type :: s.strand } line s where
  later _ := .of_eq (fun _ => rfl) rfl rfl rfl
  wellFormed well := { well with
    signalled := fun other type mem => well.signalled other type (mem_cons_of_mem _ mem) }

/-- The completion by the transport belongs to the current task. -/
theorem WellFormed.current_of_onSend {errorCode : ErrorCode}
    (well : ({ s with strand := .onSend task errorCode :: s.strand } : Queue β).WellFormed line) :
    s.current = some task ∧ s.outstanding = [] ∧ finishing s.strand = [] := by
  have active : (s.outstanding ++ task :: finishing s.strand).Perm s.current.toList :=
    well.active
  have here : task ∈ s.current.toList :=
    active.mem_iff.mp (mem_append_right _ mem_cons_self)
  have current : s.current = some task := Option.mem_toList.mp here
  rw [current] at active
  have length := active.length_eq
  simp only [length_append, length_cons, Option.toList_some, length_nil] at length
  exact ⟨current, length_eq_zero_iff.mp (by omega), length_eq_zero_iff.mp (by omega)⟩

theorem leads_finish (line : List Nat) (s : Queue β) (task : Nat) (errorCode : ErrorCode) :
    Leads line { s with strand := .onSend task errorCode :: s.strand } line
      { s.settle task errorCode with current := none } := by
  have facts (well : ({ s with strand := .onSend task errorCode :: s.strand } :
      Queue β).WellFormed line) :
      s.current = some task ∧ task ∈ s.handed ∧ s.completed task = false ∧
        task < s.tasks.length := by
    have current := well.current_of_onSend.1
    obtain ⟨mem, notYet⟩ := well.current task current
    exact ⟨current, mem, notYet, well.lt_of_started (well.started_of_handed mem)⟩
  refine ⟨fun well => ?_, fun well => ?_⟩
  · obtain ⟨current, mem, notYet, bound⟩ := facts well
    obtain ⟨-, noneOut, noneBack⟩ := well.current_of_onSend
    have before : s.Accounted := ⟨well.handler, well.pending, well.once, well.posted⟩
    have accounted := before.settle bound notYet errorCode fun unsent => absurd mem unsent
    exact { accounted with
      calls := by
        show (sendsOf s.strand ++ s.started).Perm
          (range (s.settle task errorCode).tasks.length)
        rw [length_tasks_settle]
        exact well.calls
      order := well.order
      active := by
        show (s.outstanding ++ finishing s.strand).Perm []
        rw [noneOut, noneBack]
        exact .refl _
      current := fun _ impossible => nomatch impossible
      handed := fun other sent _ => by
        refine (completed_settle bound errorCode other).trans ?_
        split
        · rfl
        · rename_i different
          refine well.handed other sent fun now => different ?_
          exact Option.some.inj (current.symm.trans now)
      waiting := fun other begun unsent gone =>
        (later_settle bound errorCode).completed other (well.waiting other begun unsent gone)
      signalled := fun other type waits => by
        show other < (s.settle task errorCode).tasks.length
        rw [length_tasks_settle]
        exact well.signalled other type (mem_cons_of_mem _ waits)
      cancels := by
        show (cancelsOf s.strand ++ s.cancelHandlers ++
          cancelsIn (s.settle task errorCode).initiated).Perm (range s.cancels)
        rw [cancelsIn_settle]
        exact well.cancels
      sound := well.sound }
  · obtain ⟨-, -, -, bound⟩ := facts well
    have settled := later_settle bound errorCode
    exact ⟨settled.completed, settled.initiated, settled.handed, settled.fresh,
      fun _ _ impossible => nomatch impossible⟩

/-! ## Cancelling -/

theorem cancelCurrent_frame (s : Queue β) :
    s.cancelCurrent.current = s.current ∧ s.cancelCurrent.queue = s.queue ∧
      s.cancelCurrent.cancelHandlers = s.cancelHandlers := by
  rw [cancelCurrent]
  split <;> exact ⟨rfl, rfl, rfl⟩

theorem leads_cancelCurrent (line : List Nat) (s : Queue β) :
    Leads line s line s.cancelCurrent := by
  rw [cancelCurrent]
  split
  · exact .refl line s
  · exact (leads_requestCancel ..).trans (leads_emitCancellation ..)

/-- What the loop of `cancel_pending` leaves behind. -/
structure Emptied (line : List Nat) (s t : Queue β) : Prop where
  leads : Leads line s [] t
  current : t.current = s.current
  queue : t.queue = []
  cancelHandlers : t.cancelHandlers = s.cancelHandlers
  /-- Everything that waited is completed. -/
  completed : s.WellFormed line → ∀ task ∈ line, t.completed task = true

theorem emptied_cancelQueued (rest : List Nat) (s : Queue β) (queue : s.queue = rest) :
    Emptied rest s (cancelQueued rest s) := by
  induction rest generalizing s with
  | nil => exact ⟨.refl [] s, rfl, queue, rfl, fun _ _ none => nomatch none⟩
  | cons task rest ih =>
    have first : Leads (task :: rest) s (task :: rest)
        (({ s with queue := rest } : Queue β).requestCancel task CancellationType.terminal) :=
      (leads_requeue ..).trans (leads_requestCancel ..)
    rw [cancelQueued]
    generalize hold : ({ s with queue := rest } : Queue β).requestCancel task
      CancellationType.terminal = t at first
    have taken := first.trans (leads_complete_head task rest t)
    obtain ⟨current, sameQueue, handlers⟩ :=
      complete_frame task Error.Code.operationCancelled t
    have emptied := ih _ (sameQueue.trans (hold ▸ rfl))
    refine ⟨taken.trans emptied.leads, (emptied.current.trans current).trans (hold ▸ rfl),
      emptied.queue, (emptied.cancelHandlers.trans handlers).trans (hold ▸ rfl),
      fun well other mem => ?_⟩
    have after := taken.wellFormed well
    rcases mem_cons.mp mem with same | later
    · have before := first.wellFormed well
      have bound := before.lt_of_started (before.started_of_line mem_cons_self)
      have absent := before.notMem_handed_of_line mem_cons_self
      refine (emptied.leads.later after).completed other ?_
      rw [same]
      exact completed_complete bound (before.handler task bound absent) _
    · exact emptied.completed after other later

theorem emptied_cancelPending (s : Queue β) : Emptied s.queue s s.cancelPending := by
  obtain ⟨current, queue, handlers⟩ := s.cancelCurrent_frame
  have first := leads_cancelCurrent s.queue s
  have emptied := emptied_cancelQueued s.cancelCurrent.queue s.cancelCurrent rfl
  rw [queue] at emptied
  rw [cancelPending, queue]
  exact ⟨first.trans emptied.leads, emptied.current.trans current, emptied.queue,
    emptied.cancelHandlers.trans handlers,
    fun well => emptied.completed (first.wellFormed well)⟩

/-- A waiting handler of `async_cancel` is invoked while no task is current. -/
theorem leads_invoke_cancel {operation : Nat} {rest : List Nat} (line : List Nat)
    (idle : s.current = none) (first : s.cancelHandlers = operation :: rest) :
    Leads line s line (({ s with cancelHandlers := rest } : Queue β).invokeCompletionHandler
      (.cancel operation)) where
  later _ := ⟨fun _ done => done, subset_append_left .., List.Subset.refl _,
    fun _ mem gone => absurd mem gone, fun other _ now => by
      have impossible : s.current = some other := now
      rw [idle] at impossible
      cases impossible⟩
  wellFormed well := { well with
    pending := fun other notYet => (codes_append ..).trans (by
      rw [codes_cancel, append_nil]
      exact well.pending other notYet)
    once := fun other done => by
      obtain ⟨errorCode, one, cancelled⟩ := well.once other done
      refine ⟨errorCode, (codes_append ..).trans ?_, cancelled⟩
      rw [codes_cancel, append_nil]
      exact one
    posted := by
      show (s.posted ++ [Completion.cancel operation] ++ s.invoked).Perm
        (s.initiated ++ [Completion.cancel operation])
      rw [append_assoc]
      exact (perm_append_comm_assoc ..).trans
        ((well.posted.append_left _).trans perm_append_comm)
    cancels := by
      have before := well.cancels
      rw [first] at before
      have grown : cancelsIn (s.initiated ++ [Completion.cancel operation]) =
          cancelsIn s.initiated ++ [operation] := by simp [cancelsIn]
      show (cancelsOf s.strand ++ rest ++ cancelsIn (s.initiated ++ [_])).Perm (range s.cancels)
      rw [grown, ← append_assoc]
      refine (perm_append_singleton ..).trans (.trans ?_ before)
      rw [append_assoc, append_assoc]
      exact perm_middle.symm }

theorem drained_drainCancelHandlers (line rest : List Nat) (s : Queue β)
    (idle : s.current = none) (waiting : s.cancelHandlers = rest) :
    Leads line s line (drainCancelHandlers rest s) ∧
      (drainCancelHandlers rest s).cancelHandlers = [] ∧
      (drainCancelHandlers rest s).current = none ∧
      (drainCancelHandlers rest s).queue = s.queue := by
  induction rest generalizing s with
  | nil => exact ⟨.refl line s, waiting, idle, rfl⟩
  | cons operation rest ih =>
    obtain ⟨leads, empty, still, queue⟩ := ih
      (({ s with cancelHandlers := rest } : Queue β).invokeCompletionHandler
        (.cancel operation)) idle rfl
    exact ⟨(leads_invoke_cancel line idle waiting).trans leads, empty, still, queue⟩

/-- What is initiated stays so through `complete_cancel_handlers`, and the handlers it
finds are initiated. -/
theorem initiated_drainCancelHandlers (rest : List Nat) (s : Queue β) :
    (drainCancelHandlers rest s).initiated = s.initiated ++ rest.map .cancel := by
  induction rest generalizing s with
  | nil => rw [drainCancelHandlers, map_nil, append_nil]
  | cons operation rest ih =>
    rw [drainCancelHandlers, ih, map_cons]
    show s.initiated ++ [Completion.cancel operation] ++ _ = _
    rw [append_assoc, singleton_append]

/-- `complete_cancel_handlers` leaves a handler waiting only while a task is current. -/
theorem leads_completeCancelHandlers (line : List Nat) (s : Queue β) :
    Leads line s line s.completeCancelHandlers ∧
      s.completeCancelHandlers.current = s.current ∧
      s.completeCancelHandlers.queue = s.queue ∧
      (s.completeCancelHandlers.current = none →
        s.completeCancelHandlers.cancelHandlers = []) := by
  rw [completeCancelHandlers]
  cases now : s.current with
  | some task =>
    rw [Option.isSome_some, if_pos rfl]
    refine ⟨.refl line s, now, rfl, fun impossible => ?_⟩
    rw [now] at impossible
    cases impossible
  | none =>
    rw [Option.isSome_none, if_neg Bool.false_ne_true]
    obtain ⟨leads, empty, still, queue⟩ :=
      drained_drainCancelHandlers line s.cancelHandlers s now rfl
    exact ⟨leads, still, queue, fun _ => empty⟩

/-! ## The strand steps -/

/-- The invariant between two steps of the strand. -/
structure Settled (s : Queue β) : Prop where
  wellFormed : s.WellFormed s.queue
  idle : s.current = none → s.queue = []
  released : s.current = none → s.cancelHandlers = []

/-- A step keeps the invariant and only adds to the history. -/
structure Advances (s t : Queue β) : Prop where
  settled : s.Settled → t.Settled
  later : s.Settled → Later s t

/-- A function that leads from `m_queue` to `m_queue` advances once the queue is idle
only when nobody waits. -/
theorem Advances.of_leads (leads : Leads s.queue s t.queue t)
    (idle : s.Settled → t.current = none → t.queue = [])
    (released : s.Settled → t.current = none → t.cancelHandlers = []) : Advances s t :=
  ⟨fun settled => ⟨leads.wellFormed settled.wellFormed, idle settled, released settled⟩,
    fun settled => leads.later settled.wellFormed⟩

variable (late : Nat → CancellationType)

/-- `send`: the task is the last in line, and it is alone there when nothing is current. -/
theorem advances_send (task : Nat) (s : Queue β) :
    Advances { s with strand := .send task :: s.strand } (s.send late task) := by
  have begun := leads_begin s.queue s task
  rw [send]
  generalize hold : ({ s with started := s.started ++ [task] } : Queue β) = t at begun
  have current : t.current = s.current := hold ▸ rfl
  have queue : t.queue = s.queue := hold ▸ rfl
  have handlers : t.cancelHandlers = s.cancelHandlers := hold ▸ rfl
  -- A task that is completed here is not in the line afterwards, wherever it stood.
  have left {u : Queue β} (leads : Leads (s.queue ++ [task]) t (s.queue ++ [task]) u)
      (frame : u.current = t.current ∧ u.queue = t.queue ∧ u.cancelHandlers = t.cancelHandlers)
      (done : t.WellFormed (s.queue ++ [task]) → u.completed task = true) :
      Advances { s with strand := .send task :: s.strand } u := by
    obtain ⟨sameCurrent, sameQueue, sameHandlers⟩ := frame
    rw [queue] at sameQueue
    rw [current] at sameCurrent
    have whole := begun.trans leads
    refine ⟨fun settled => ⟨?_, fun idle => ?_, fun idle => ?_⟩,
      fun settled => whole.later settled.wellFormed⟩
    · have well := whole.wellFormed settled.wellFormed
      rw [sameQueue]
      exact { well with
        order := ((sublist_append_left s.queue [task]).append_left _).trans well.order
        waiting := fun other mem unsent gone => by
          by_cases same : other = task
          · rw [same]
            exact done (begun.wellFormed settled.wellFormed)
          · refine well.waiting other mem unsent fun inLine => ?_
            rcases mem_append.mp inLine with before | added
            · exact gone before
            · exact same (mem_singleton.mp added) }
    · exact sameQueue.trans (settled.idle (sameCurrent.symm.trans idle))
    · exact (sameHandlers.trans handlers).trans
        (settled.released (sameCurrent.symm.trans idle))
  cases done : t.completed task with
  | true =>
    rw [if_pos rfl]
    exact left (.refl _ t) ⟨rfl, rfl, rfl⟩ fun _ => done
  | false =>
    rw [if_neg Bool.false_ne_true]
    split
    · have unsent (well : t.WellFormed (s.queue ++ [task])) :
          task < t.tasks.length ∧ task ∉ t.handed :=
        have mem : task ∈ s.queue ++ [task] := mem_append_right _ mem_cons_self
        ⟨well.lt_of_started (well.started_of_line mem), well.notMem_handed_of_line mem⟩
      refine left (leads_complete _ t task unsent) (complete_frame ..) fun well => ?_
      obtain ⟨bound, absent⟩ := unsent well
      exact completed_complete bound (well.handler task bound absent) _
    · split
      · rename_i unoccupied
        have now : s.current = none := current ▸ Option.isNone_iff_eq_none.mp unoccupied
        have processed (empty : s.queue = []) :=
          processed_process late task (current.trans now) (queue.trans empty)
            fun u idle noneWait => noneWait ▸ processed_processNext late u idle
        have whole (empty : s.queue = []) := begun.trans ((by
          rw [empty]
          exact (processed empty).leads) : Leads (s.queue ++ [task]) t _ _)
        refine ⟨fun settled => ?_, fun settled => ?_⟩
        · have empty : s.queue = [] := settled.idle now
          have after := processed empty
          refine ⟨(whole empty).wellFormed settled.wellFormed, after.idle, fun _ => ?_⟩
          exact (after.cancelHandlers.trans handlers).trans (settled.released now)
        · exact (whole (settled.idle now)).later settled.wellFormed
      · rename_i occupied
        have busy : t.current ≠ none := fun now => occupied (Option.isNone_iff_eq_none.mpr now)
        refine .of_leads ?_ (fun _ idle => absurd idle busy) fun _ idle => absurd idle busy
        show Leads s.queue _ (t.queue ++ [task]) _
        rw [queue]
        exact begun.trans (leads_requeue ..)

/-- `cancel_internal` without a handler. -/
theorem advances_cancelInternal (s : Queue β) :
    Advances { s with strand := .cancelInternal :: s.strand } s.cancelPending := by
  have emptied := s.emptied_cancelPending
  have leads := (leads_cancelInternal_taken s.queue s).trans emptied.leads
  refine .of_leads ?_ (fun _ _ => emptied.queue) fun settled idle => ?_
  · rw [emptied.queue]
    exact leads
  · exact emptied.cancelHandlers.trans (settled.released (emptied.current.symm.trans idle))

theorem advances_asyncCancelInternal (operation : Nat) (s : Queue β) :
    Advances { s with strand := .asyncCancelInternal operation :: s.strand }
      (s.asyncCancelInternal operation) := by
  have registered := leads_register s.queue s operation
  rw [asyncCancelInternal]
  generalize hold : ({ s with cancelHandlers := s.cancelHandlers ++ [operation] } :
    Queue β) = t at registered
  have queue : t.queue = s.queue := hold ▸ rfl
  have emptied := t.emptied_cancelPending
  rw [queue] at emptied
  obtain ⟨leads, -, sameQueue, released⟩ := leads_completeCancelHandlers [] t.cancelPending
  have noneWait := sameQueue.trans emptied.queue
  refine .of_leads ?_ (fun _ _ => noneWait) fun _ => released
  rw [noneWait]
  exact (registered.trans emptied.leads).trans leads

theorem advances_onTaskCancel (task : Nat) (type : CancellationType) (s : Queue β) :
    Advances { s with strand := .onTaskCancel task type :: s.strand }
      (s.onTaskCancel task type) := by
  have taken := leads_onTaskCancel_taken s.queue s task type
  rw [onTaskCancel]
  split
  · exact .of_leads taken (fun settled => settled.idle) fun settled => settled.released
  · rename_i notYet
    rw [Bool.not_eq_true] at notYet
    split
    · exact .of_leads (taken.trans (leads_emitCancellation ..)) (fun settled => settled.idle)
        fun settled => settled.released
    · rename_i other
      obtain ⟨current, queue, handlers⟩ :=
        complete_frame task Error.Code.operationCancelled s
      -- A task that is handed out and not current would be completed.
      have unsent (well : ({ s with strand := .onTaskCancel task type :: s.strand } :
          Queue β).WellFormed s.queue) : task < s.tasks.length ∧ task ∉ s.handed := by
        refine ⟨well.signalled task type mem_cons_self, fun mem => ?_⟩
        have done : s.completed task = true := well.handed task mem other
        rw [notYet] at done
        cases done
      have leads (well : ({ s with strand := .onTaskCancel task type :: s.strand } :
          Queue β).WellFormed s.queue) := leads_complete s.queue s task fun _ => unsent well
      refine ⟨fun settled => ⟨?_, fun idle => ?_, fun idle => ?_⟩, fun settled => ?_⟩
      · rw [queue]
        exact (taken.trans (leads settled.wellFormed)).wellFormed settled.wellFormed
      · exact queue.trans (settled.idle (current.symm.trans idle))
      · exact handlers.trans (settled.released (current.symm.trans idle))
      · exact (taken.trans (leads settled.wellFormed)).later settled.wellFormed

/-- The completion that `on_send` is called with is the one of the current task. -/
theorem onSend_eq {errorCode : ErrorCode}
    (settled : ({ s with strand := .onSend task errorCode :: s.strand } : Queue β).Settled) :
    s.onSend late task errorCode =
      processNext late
        ({ s.settle task errorCode with current := none } : Queue β).completeCancelHandlers := by
  have current := settled.wellFormed.current_of_onSend.1
  have notYet : s.completed task = false := (settled.wellFormed.current task current).2
  rw [onSend, current]
  simp only [if_true, completeWith, notYet, Bool.false_eq_true, if_false]

/-- `on_send`: the current task is completed, the handlers of `async_cancel` are
invoked, and only then is the next task handed out. -/
theorem advances_onSend (task : Nat) (errorCode : ErrorCode) (s : Queue β) :
    Advances { s with strand := .onSend task errorCode :: s.strand }
      (s.onSend late task errorCode) := by
  have finished := leads_finish s.queue s task errorCode
  obtain ⟨leads, current, queue, released⟩ := leads_completeCancelHandlers s.queue
    ({ s.settle task errorCode with current := none } : Queue β)
  have processed := processed_processNext late
    ({ s.settle task errorCode with current := none } : Queue β).completeCancelHandlers current
  rw [queue] at processed
  have whole := (finished.trans leads).trans processed.leads
  refine ⟨fun settled => ?_, fun settled => ?_⟩
  · rw [onSend_eq late settled]
    exact ⟨whole.wellFormed settled.wellFormed, processed.idle,
      fun _ => processed.cancelHandlers.trans (released current)⟩
  · rw [onSend_eq late settled]
    exact whole.later settled.wellFormed

theorem advances_runStrand (work : StrandStep) (s : Queue β) :
    Advances { s with strand := work :: s.strand } (runStrand late work s) := by
  cases work with
  | send task => exact advances_send late task s
  | cancelInternal => exact advances_cancelInternal s
  | asyncCancelInternal operation => exact advances_asyncCancelInternal operation s
  | onTaskCancel task type => exact advances_onTaskCancel task type s
  | onSend task errorCode => exact advances_onSend late task errorCode s

/-! ## The other events -/

theorem sendsOf_concat (strand : List StrandStep) (work : StrandStep) :
    sendsOf (strand ++ [work]) = sendsOf strand ++ sendsOf [work] :=
  filterMap_append

theorem cancelsOf_concat (strand : List StrandStep) (work : StrandStep) :
    cancelsOf (strand ++ [work]) = cancelsOf strand ++ cancelsOf [work] :=
  filterMap_append

theorem finishing_concat (strand : List StrandStep) (work : StrandStep) :
    finishing (strand ++ [work]) = finishing strand ++ finishing [work] :=
  filterMap_append

theorem advances_asyncSend (buffer : β) (armed : Bool) (s : Queue β) :
    Advances s { s with
      tasks := s.tasks ++ [{ buffer, armed }]
      strand := s.strand ++ [.send s.tasks.length] } := by
  have flags (other : Nat) :
      (s.tasks ++ [({ buffer, armed } : Task β)])[other]?.any (·.completed) =
        s.completed other := by
    rw [completed, getElem?_append]
    split
    · rfl
    · rename_i beyond
      rw [getElem?_eq_none (Nat.le_of_not_lt beyond)]
      cases other - s.tasks.length <;> rfl
  have length : (s.tasks ++ [({ buffer, armed } : Task β)]).length = s.tasks.length + 1 :=
    length_append
  refine ⟨fun settled => ⟨?_, settled.idle, settled.released⟩,
    fun _ => .of_eq flags rfl rfl rfl⟩
  have well := settled.wellFormed
  exact { well with
    calls := by
      show (sendsOf (s.strand ++ [StrandStep.send s.tasks.length]) ++ s.started).Perm (range _)
      rw [length, range_succ, sendsOf_concat, append_assoc]
      exact perm_middle.trans ((well.calls.cons _).trans
        (perm_append_singleton ..).symm)
    active := by
      show (s.outstanding ++ finishing (s.strand ++ [StrandStep.send s.tasks.length])).Perm _
      rw [finishing_concat]
      exact (append_nil _).symm ▸ well.active
    current := fun other now => by
      obtain ⟨mem, notYet⟩ := well.current other now
      exact ⟨mem, (flags other).trans notYet⟩
    handed := fun other mem past => (flags other).trans (well.handed other mem past)
    waiting := fun other mem unsent gone =>
      (flags other).trans (well.waiting other mem unsent gone)
    handler := fun other bound unsent notYet => by
      rw [holdsHandler, getElem?_append]
      split
      · rename_i inside
        exact well.handler other inside unsent ((flags other).symm.trans notYet)
      · rename_i beyond
        have last : other - s.tasks.length = 0 := by
          rw [length] at bound
          omega
        rw [last]
        rfl
    pending := fun other notYet => well.pending other ((flags other).symm.trans notYet)
    once := fun other done => well.once other ((flags other).symm.trans done)
    signalled := fun other type mem => by
      show other < (s.tasks ++ [({ buffer, armed } : Task β)]).length
      rw [length]
      rcases mem_append.mp mem with before | added
      · exact Nat.lt_succ_of_lt (well.signalled other type before)
      · cases mem_singleton.mp added
    cancels := by
      show (cancelsOf (s.strand ++ [StrandStep.send s.tasks.length]) ++ _ ++ _).Perm _
      rw [cancelsOf_concat]
      exact (append_nil (cancelsOf s.strand)).symm ▸ well.cancels }

theorem advances_cancel (s : Queue β) :
    Advances s { s with strand := s.strand ++ [.cancelInternal] } := by
  refine .of_leads ⟨fun well => ?_, fun _ => .of_eq (fun _ => rfl) rfl rfl rfl⟩
    (fun settled => settled.idle) fun settled => settled.released
  have known := (perm_append_singleton StrandStep.cancelInternal s.strand).symm
  have waits : ({ s with strand := .cancelInternal :: s.strand } : Queue β).WellFormed s.queue :=
    { well with
      signalled := fun other type mem => by
        rcases mem_cons.mp mem with same | before
        · cases same
        · exact well.signalled other type before }
  exact waits.strand_perm known

theorem advances_asyncCancel (s : Queue β) :
    Advances s { s with
      cancels := s.cancels + 1
      strand := s.strand ++ [.asyncCancelInternal s.cancels] } := by
  refine .of_leads ⟨fun well => ?_, fun _ => .of_eq (fun _ => rfl) rfl rfl rfl⟩
    (fun settled => settled.idle) fun settled => settled.released
  have known := (perm_append_singleton (.asyncCancelInternal s.cancels) s.strand).symm
  have waits : ({ s with
      cancels := s.cancels + 1
      strand := .asyncCancelInternal s.cancels :: s.strand } : Queue β).WellFormed s.queue :=
    { well with
      signalled := fun other type mem => by
        rcases mem_cons.mp mem with same | before
        · cases same
        · exact well.signalled other type before
      cancels := by
        show (s.cancels :: (cancelsOf s.strand ++ s.cancelHandlers ++
          cancelsIn s.initiated)).Perm (range (s.cancels + 1))
        rw [range_succ]
        exact (well.cancels.cons _).trans (perm_append_singleton ..).symm }
  exact waits.strand_perm known

theorem advances_raise (task : Nat) (type : CancellationType) (s : Queue β) :
    Advances s (s.raise task type) := by
  obtain ⟨current, queue, handlers⟩ := raise_frame task type s
  refine .of_leads ?_ (fun settled idle => ?_) fun settled idle => ?_
  · rw [queue]
    exact leads_raise s.queue s task type
  · exact queue.trans (settled.idle (current.symm.trans idle))
  · exact handlers.trans (settled.released (current.symm.trans idle))

theorem advances_run {index : Nat} {work : StrandStep} (taken : s.strand[index]? = some work) :
    Advances s (runStrand late work { s with strand := s.strand.eraseIdx index }) := by
  have advances := advances_runStrand late work
    ({ s with strand := s.strand.eraseIdx index } : Queue β)
  have perm := (perm_of_taken taken).symm
  refine ⟨fun settled => advances.settled ?_, fun settled => ?_⟩
  · exact ⟨settled.wellFormed.strand_perm perm, settled.idle, settled.released⟩
  · have later := advances.later
      ⟨settled.wellFormed.strand_perm perm, settled.idle, settled.released⟩
    exact ⟨later.completed, later.initiated, later.handed, later.fresh, later.barrier⟩

theorem advances_transport {index : Nat} {task : Nat}
    (taken : s.outstanding[index]? = some task) (errorCode : ErrorCode) :
    Advances s { s with
      outstanding := s.outstanding.eraseIdx index
      strand := s.strand ++ [.onSend task errorCode] } := by
  refine .of_leads ⟨fun well => ?_, fun _ => .of_eq (fun _ => rfl) rfl rfl rfl⟩
    (fun settled => settled.idle) fun settled => settled.released
  have known := (perm_append_singleton (.onSend task errorCode) s.strand).symm
  have waits : ({ s with
      outstanding := s.outstanding.eraseIdx index
      strand := .onSend task errorCode :: s.strand } : Queue β).WellFormed s.queue :=
    { well with
      active := perm_middle.trans
        (((perm_of_taken taken).append_right _).trans well.active)
      signalled := fun other type mem => by
        rcases mem_cons.mp mem with same | before
        · cases same
        · exact well.signalled other type before }
  exact waits.strand_perm known

theorem advances_invoke {index : Nat} {completion : Completion}
    (taken : s.posted[index]? = some completion) :
    Advances s { s with
      posted := s.posted.eraseIdx index
      invoked := s.invoked ++ [completion] } := by
  refine .of_leads ⟨fun well => ?_, fun _ => .of_eq (fun _ => rfl) rfl rfl rfl⟩
    (fun settled => settled.idle) fun settled => settled.released
  exact { well with
    posted := by
      show (s.posted.eraseIdx index ++ (s.invoked ++ [completion])).Perm s.initiated
      rw [← append_assoc]
      exact (perm_append_singleton ..).trans
        (((perm_of_taken taken).append_right _).trans well.posted) }

/-- One step keeps the invariant and only adds to the history. -/
theorem advances_step {event : Event β} (taken : s.step event = some t) : Advances s t := by
  cases event with
  | asyncSend buffer armed =>
    cases taken
    exact advances_asyncSend buffer armed s
  | cancel =>
    cases taken
    exact advances_cancel s
  | asyncCancel =>
    cases taken
    exact advances_asyncCancel s
  | signal task type =>
    cases taken
    exact advances_raise task type s
  | run index late =>
    obtain ⟨work, found, rest⟩ := Option.bind_eq_some_iff.mp taken
    cases rest
    exact advances_run late found
  | transport index errorCode =>
    obtain ⟨task, found, rest⟩ := Option.bind_eq_some_iff.mp taken
    cases rest
    exact advances_transport found errorCode
  | invoke index =>
    obtain ⟨completion, found, rest⟩ := Option.bind_eq_some_iff.mp taken
    cases rest
    exact advances_invoke found

theorem settled_empty : ({} : Queue β).Settled where
  wellFormed := {
    handler := fun _ bound => absurd bound (Nat.not_lt_zero _)
    pending := fun _ _ => rfl
    once := fun _ done => nomatch done
    posted := .refl _
    calls := .refl _
    order := .refl _
    active := .refl _
    current := fun _ impossible => nomatch impossible
    handed := fun _ mem => nomatch mem
    waiting := fun _ mem => nomatch mem
    signalled := fun _ _ mem => nomatch mem
    cancels := .refl _
    sound := rfl }
  idle _ := rfl
  released _ := rfl

/-- The invariant holds in every state of every run. -/
theorem Reachable.settled (reachable : s.Reachable) : s.Settled :=
  reachable.invariant settled_empty fun _ _ _ settled _ taken =>
    (advances_step taken).settled settled

/-! ## What the callers rely on -/

/-- The buffers of a list of tasks. -/
def buffers (s : Queue β) (tasks : List Nat) : List β :=
  tasks.filterMap fun task => s.tasks[task]?.map (·.buffer)

section

variable (well : s.WellFormed line)

include well

/-- A task was completed at most once, and exactly once when it is marked so. -/
theorem WellFormed.length_codes (task : Nat) :
    (codes task s.initiated).length = if s.completed task then 1 else 0 := by
  cases done : s.completed task with
  | false =>
    rw [well.pending task done]
    rfl
  | true =>
    obtain ⟨errorCode, one, -⟩ := well.once task done
    rw [one]
    rfl

theorem WellFormed.codes_perm (task : Nat) :
    (codes task s.posted ++ codes task s.invoked).Perm (codes task s.initiated) := by
  rw [← codes_append]
  exact well.posted.filterMap _

theorem WellFormed.length_codes_invoked_le (task : Nat) :
    (codes task s.invoked).length ≤ 1 := by
  have total := (well.codes_perm task).length_eq
  rw [length_append, well.length_codes] at total
  split at total <;> omega

theorem WellFormed.codes_invoked (drained : s.posted = [])
    (task : Nat) : codes task s.invoked = codes task s.initiated := by
  have all := well.codes_perm task
  rw [drained] at all
  cases done : s.completed task with
  | false =>
    rw [well.pending task done] at all ⊢
    exact perm_nil.mp all
  | true =>
    obtain ⟨errorCode, one, -⟩ := well.once task done
    rw [one] at all ⊢
    exact perm_singleton.mp all

end

theorem Settled.completed_of_idle (settled : s.Settled) (idle : s.current = none)
    (bound : task < s.tasks.length) (ran : StrandStep.send task ∉ s.strand) :
    s.completed task = true := by
  have well := settled.wellFormed
  have mem : task ∈ sendsOf s.strand ++ s.started :=
    well.calls.mem_iff.mpr (mem_range.mpr bound)
  have started : task ∈ s.started := by
    rcases mem_append.mp mem with waits | started
    · obtain ⟨work, inStrand, found⟩ := mem_filterMap.mp waits
      cases work with
      | send other =>
        cases found
        exact absurd inStrand ran
      | cancelInternal | asyncCancelInternal operation | onTaskCancel other type
      | onSend other errorCode => cases found
    · exact started
  by_cases sent : task ∈ s.handed
  · exact well.handed task sent (fun now => nomatch idle.symm.trans now)
  · refine well.waiting task started sent ?_
    rw [settled.idle idle]
    exact not_mem_nil

/-- In every run, at most one send is outstanding at the transport; the buffers are
handed to it in the order in which the `async_send` steps ran; no handler is invoked
twice; and once the queue is idle every send whose step ran has been completed exactly
once, with `operation_cancelled` when its buffer was never handed to the transport. -/
theorem send_discipline (s : Queue β) (reachable : s.Reachable) :
    s.outstanding.length + (finishing s.strand).length ≤ 1 ∧
    s.handed.Nodup ∧ (s.buffers s.handed).Sublist (s.buffers s.started) ∧
    (∀ task, (codes task s.invoked).length ≤ 1) ∧
    (∀ task, task ∉ s.handed →
      ∀ errorCode ∈ codes task s.initiated, errorCode = Error.Code.operationCancelled) ∧
    (s.current = none → s.queue = [] →
      ∀ task < s.tasks.length, StrandStep.send task ∉ s.strand →
        (codes task s.initiated).length = 1 ∧
        (task ∉ s.handed → codes task s.initiated = [↑Error.Code.operationCancelled]) ∧
        (s.posted = [] → codes task s.invoked = codes task s.initiated)) ∧
    s.faults = 0 := by
  have settled := reachable.settled
  have well := settled.wellFormed
  refine ⟨?_, (nodup_append.mp well.nodup_places).1, ?_, well.length_codes_invoked_le,
    fun task unsent errorCode mem => ?_, fun idle _ task bound ran => ?_, well.sound⟩
  · rw [← length_append, well.active.length_eq]
    cases s.current <;> simp
  · exact ((sublist_append_left ..).trans well.order).filterMap _
  · cases done : s.completed task with
    | false =>
      rw [well.pending task done] at mem
      cases mem
    | true =>
      obtain ⟨only, one, cancelled⟩ := well.once task done
      rw [one, mem_singleton] at mem
      exact mem.trans (cancelled unsent)
  · have done := settled.completed_of_idle idle bound ran
    obtain ⟨errorCode, one, cancelled⟩ := well.once task done
    refine ⟨by rw [one]; rfl, fun unsent => ?_, fun drained => well.codes_invoked drained task⟩
    rw [one, cancelled unsent]

/-- Three sends: the first is handed out, the second is cancelled while it waits, the
third follows the first. -/
def cancelledWaiting : List (Event Nat) :=
  [.asyncSend 10 false, .asyncSend 11 true, .asyncSend 12 false,
    .run 0 fun _ => 0, .run 0 fun _ => 0, .run 0 fun _ => 0, .signal 1 1,
    .transport 0 .none, .run 1 fun _ => 0, .transport 0 .none, .run 1 fun _ => 0,
    .run 0 fun _ => 0, .invoke 0, .invoke 0, .invoke 0]

theorem cancelledWaiting_isSome : (exec step {} cancelledWaiting).isSome = true := by
  decide

theorem send_discipline_cancelledWaiting :
    let s := (exec step {} cancelledWaiting).get cancelledWaiting_isSome
    s.buffers s.handed = [10, 12] ∧ s.buffers s.started = [10, 11, 12] ∧
      codes 1 s.invoked = [↑Error.Code.operationCancelled] :=
  have discipline := send_discipline _ (Reaches.of_exec cancelledWaiting_isSome)
  have one := discipline.2.2.2.2.2.1 (by decide) (by decide) 1 (by decide) (by decide)
  ⟨by decide, by decide, (one.2.2 (by decide)).trans (one.2.1 (by decide))⟩

end Rstream.Io.Queue
