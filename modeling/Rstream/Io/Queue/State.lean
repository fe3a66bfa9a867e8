import Mathlib.Data.List.Perm.Basic
import Mathlib.Data.List.Range
import Rstream.Io.Error
import Rstream.Library.Runs

/-!
# The send queue

`io::queue` serialises the sends of a transport: one send is handed to the
transport at a time and the others wait in `m_queue`. All members except the
cancellation flags of the tasks are touched on the strand only, so a state of the
queue is the members together with the steps that wait for the strand, the sends
the transport has not completed and the completion handlers that are posted to
the executor. A step of the system is a call from any thread, a cancellation
signal, the execution of one waiting strand step, a completion of the transport
or the execution of one posted handler, in any order.

A cancellation signal sets the flag of its task on the thread that raises it and
so may fall between two reads of the flag in one strand step. The only two reads
of the flag of one task in one step are the ones of `send` or `process_next` and
of `process`: the signals raised between them are an input (`late`) of the step.

The fields from `started` on are the history of the run, no function reads them.
-/

namespace Rstream.Io

open IoRstrm

/-- `boost::asio::cancellation_type`, a set of flags; zero is `none`. -/
abbrev CancellationType := UInt32

def CancellationType.terminal : CancellationType := 1

/-- `queue::impl::task`. The identity of a task is its position in `Queue.tasks`. -/
structure Task (β : Type) where
  buffer : β
  /-- The handler came with a connected cancellation slot (`arm`). -/
  armed : Bool
  /-- `m_handler` has not been moved from. -/
  handler : Bool := true
  cancelled : CancellationType := 0
  completed : Bool := false

/-- What `invoke_completion_handler` posts. -/
inductive Completion where
  | send (task : Nat) (errorCode : ErrorCode)
  | cancel (operation : Nat)
  deriving DecidableEq, Repr

/-- The functions dispatched to the strand. -/
inductive StrandStep where
  | send (task : Nat)
  | cancelInternal
  | asyncCancelInternal (operation : Nat)
  | onTaskCancel (task : Nat) (type : CancellationType)
  | onSend (task : Nat) (errorCode : ErrorCode)
  deriving DecidableEq

/-- `queue::impl` and what is in flight around it. -/
structure Queue (β : Type) where
  /-- Every task ever made, in the order of the calls of `async_send`. -/
  tasks : List (Task β) := []
  current : Option Nat := none
  queue : List Nat := []
  cancelHandlers : List Nat := []
  /-- The number of calls of `async_cancel`. -/
  cancels : Nat := 0
  /-- Steps waiting for the strand. -/
  strand : List StrandStep := []
  /-- Sends handed to the transport that it has not completed. -/
  outstanding : List Nat := []
  /-- Completion handlers posted to the executor that have not run. -/
  posted : List Completion := []
  /-- The tasks in the order in which their `send` steps ran. -/
  started : List Nat := []
  /-- The tasks in the order in which their buffers were handed to the transport. -/
  handed : List Nat := []
  /-- The handlers given to `invoke_completion_handler`. -/
  initiated : List Completion := []
  /-- The handlers that ran. -/
  invoked : List Completion := []
  /-- The cancellations forwarded to the transport. -/
  emitted : List (Nat × CancellationType) := []
  /-- Uses of a handler that was moved from and of a null `m_current`. -/
  faults : Nat := 0

namespace Queue

variable {β : Type}

def completed (s : Queue β) (task : Nat) : Bool := s.tasks[task]?.any (·.completed)

def cancelled (s : Queue β) (task : Nat) : Bool := s.tasks[task]?.any (·.cancelled != 0)

/-- Whether `m_handler` of the task still holds the handler. -/
def holdsHandler (s : Queue β) (task : Nat) : Bool := s.tasks[task]?.any (·.handler)

def requestCancel (task : Nat) (type : CancellationType) (s : Queue β) : Queue β :=
  { s with tasks := s.tasks.modify task fun t => { t with cancelled := t.cancelled ||| type } }

def emitCancellation (task : Nat) (type : CancellationType) (s : Queue β) : Queue β :=
  { s with emitted := s.emitted ++ [(task, type)] }

def invokeCompletionHandler (completion : Completion) (s : Queue β) : Queue β :=
  { s with posted := s.posted ++ [completion], initiated := s.initiated ++ [completion] }

/-- The end of `task::complete`: `m_completed` is set and the handler is posted. -/
def settle (task : Nat) (errorCode : ErrorCode) (s : Queue β) : Queue β :=
  let s := { s with tasks := s.tasks.modify task fun t =>
    { t with completed := true, handler := false } }
  s.invokeCompletionHandler (.send task errorCode)

/-- `task::complete` with a handler that was moved out of the task before. -/
def completeWith (task : Nat) (errorCode : ErrorCode) (s : Queue β) : Queue β :=
  if s.completed task then s else s.settle task errorCode

/-- `task::complete` with the handler of the task. -/
def complete (task : Nat) (errorCode : ErrorCode) (s : Queue β) : Queue β :=
  if s.completed task then s
  else if s.holdsHandler task then s.settle task errorCode
  else { s with faults := s.faults + 1 }

/-- The slot handler installed by `task::arm`: the flag is set at once and
`on_task_cancel` is dispatched to the strand. -/
def raise (task : Nat) (type : CancellationType) (s : Queue β) : Queue β :=
  if s.tasks[task]?.any (·.armed) ∧ type ≠ 0 then
    let s := s.requestCancel task type
    { s with strand := s.strand ++ [.onTaskCancel task type] }
  else s

/-- The end of `process`: the task becomes current and its handler and its buffer
go to the transport. -/
def start (task : Nat) (s : Queue β) : Queue β :=
  { s with
    current := some task
    tasks := s.tasks.modify task fun t => { t with handler := false }
    outstanding := s.outstanding ++ [task]
    handed := s.handed ++ [task] }

/-- `process`, where `next` is the call of `process_next`. -/
def process (next : Queue β → Queue β) (late : Nat → CancellationType) (task : Nat)
    (s : Queue β) : Queue β :=
  let s := s.raise task (late task)
  if s.completed task then next s
  else if s.cancelled task then next (s.complete task Error.Code.operationCancelled)
  else s.start task

/-- The loop of `process_next` over the tasks that wait. A call of `process` ends the
loop, and its own call of `process_next` goes on with the rest. -/
def processNextFrom (late : Nat → CancellationType) : List Nat → Queue β → Queue β
  | [], s => s
  | task :: rest, s =>
    let s := { s with queue := rest }
    if s.completed task then processNextFrom late rest s
    else if s.cancelled task then
      processNextFrom late rest (s.complete task Error.Code.operationCancelled)
    else process (processNextFrom late rest) late task s

def processNext (late : Nat → CancellationType) (s : Queue β) : Queue β :=
  processNextFrom late s.queue s

def send (late : Nat → CancellationType) (task : Nat) (s : Queue β) : Queue β :=
  let s := { s with started := s.started ++ [task] }
  if s.completed task then s
  else if s.cancelled task then s.complete task Error.Code.operationCancelled
  else if s.current.isNone then process (processNext late) late task s
  else { s with queue := s.queue ++ [task] }

/-- The loop of `cancel_pending` over the tasks that wait. -/
def cancelQueued : List Nat → Queue β → Queue β
  | [], s => s
  | task :: rest, s =>
    let s := { s with queue := rest }
    let s := s.requestCancel task CancellationType.terminal
    cancelQueued rest (s.complete task Error.Code.operationCancelled)

/-- The cancellation of the current task in `cancel_pending`. -/
def cancelCurrent (s : Queue β) : Queue β :=
  match s.current with
  | none => s
  | some task =>
    (s.requestCancel task CancellationType.terminal).emitCancellation task
      CancellationType.terminal

def cancelPending (s : Queue β) : Queue β :=
  let s := s.cancelCurrent
  cancelQueued s.queue s

/-- The loop of `complete_cancel_handlers`. -/
def drainCancelHandlers : List Nat → Queue β → Queue β
  | [], s => s
  | operation :: rest, s =>
    let s := { s with cancelHandlers := rest }
    drainCancelHandlers rest (s.invokeCompletionHandler (.cancel operation))

def completeCancelHandlers (s : Queue β) : Queue β :=
  if s.current.isSome then s else drainCancelHandlers s.cancelHandlers s

/-- `cancel_internal` with a handler. -/
def asyncCancelInternal (operation : Nat) (s : Queue β) : Queue β :=
  let s := { s with cancelHandlers := s.cancelHandlers ++ [operation] }
  s.cancelPending.completeCancelHandlers

def onTaskCancel (task : Nat) (type : CancellationType) (s : Queue β) : Queue β :=
  if s.completed task then s
  else if s.current = some task then s.emitCancellation task type
  else s.complete task Error.Code.operationCancelled

/-- `on_send`. The handler in the completion is the one of `completing`, the task
that is completed is `m_current`. -/
def onSend (late : Nat → CancellationType) (completing : Nat) (errorCode : ErrorCode)
    (s : Queue β) : Queue β :=
  match s.current with
  | none => { s with faults := s.faults + 1 }
  | some task =>
    let s := if task = completing then s else { s with faults := s.faults + 1 }
    let s := s.completeWith task errorCode
    let s := { s with current := none }
    processNext late s.completeCancelHandlers

/-- The execution of a strand step. -/
def runStrand (late : Nat → CancellationType) : StrandStep → Queue β → Queue β
  | .send task, s => s.send late task
  | .cancelInternal, s => s.cancelPending
  | .asyncCancelInternal operation, s => s.asyncCancelInternal operation
  | .onTaskCancel task type, s => s.onTaskCancel task type
  | .onSend task errorCode, s => s.onSend late task errorCode

/-- What can happen to a queue. -/
inductive Event (β : Type) where
  /-- A call of `async_send`; `armed` tells whether its handler has a cancellation slot. -/
  | asyncSend (buffer : β) (armed : Bool)
  /-- A call of `cancel`. -/
  | cancel
  /-- A call of `async_cancel`. -/
  | asyncCancel
  /-- A cancellation signal is emitted to the slot of a send. -/
  | signal (task : Nat) (type : CancellationType)
  /-- The strand runs one of its steps. -/
  | run (index : Nat) (late : Nat → CancellationType)
  /-- The transport completes a send; the completion handler is bound to the strand. -/
  | transport (index : Nat) (errorCode : ErrorCode)
  /-- The executor runs a posted completion handler. -/
  | invoke (index : Nat)

/-- One step of the queue and its surroundings. -/
def step (s : Queue β) : Event β → Option (Queue β)
  | .asyncSend buffer armed =>
    some { s with
      tasks := s.tasks ++ [{ buffer, armed }]
      strand := s.strand ++ [.send s.tasks.length] }
  | .cancel => some { s with strand := s.strand ++ [.cancelInternal] }
  | .asyncCancel =>
    some { s with
      cancels := s.cancels + 1
      strand := s.strand ++ [.asyncCancelInternal s.cancels] }
  | .signal task type => some (s.raise task type)
  | .run index late => do
      let work ← s.strand[index]?
      some (runStrand late work { s with strand := s.strand.eraseIdx index })
  | .transport index errorCode => do
      let task ← s.outstanding[index]?
      some { s with
        outstanding := s.outstanding.eraseIdx index
        strand := s.strand ++ [.onSend task errorCode] }
  | .invoke index => do
      let completion ← s.posted[index]?
      some { s with
        posted := s.posted.eraseIdx index
        invoked := s.invoked ++ [completion] }

/-- The runs of a queue that starts out empty. -/
abbrev Reachable (s : Queue β) : Prop := Library.Reaches step ({} : Queue β) s

end Queue

end Rstream.Io
