import Rstream.Nperf.Client

/-!
# The execution loop of the nperf client

`client::impl::async_run_internal` makes a task that runs the requested tests one after
the other, as often as the settings ask. Two functions call each other: `run` starts the
next test or, when none is left, ends the execution; `on_run` is the completion of a test
and of the pause between two executions, and `run` calls it itself for an option that is
not requested.

A test is the `base` of `Nperf/Client`, here represented by its operation in flight: it may
complete at any time with any error, and to cancel it is to ask for that. The wait of the
timer completes with success once its expiry is reached, and with an error only after the
timer was cancelled or destroyed. All functions of the task run on one strand, so they are
the steps; but `cancel` is dispatched to that strand, so when the caller's metrics callback
calls it from within `on_run`, it is executed there and then.

The tests of an execution and what they ended with are recorded in `current`, those of the
earlier executions in `history`, and what the handler was invoked with in `completions`.
-/

namespace Rstream.Nperf.Impl

open IoRstrm

/-! ### The options -/

def ping : UInt32 := 1 <<< (1 : UInt32)

def download : UInt32 := 1 <<< (2 : UInt32)

def upload : UInt32 := 1 <<< (3 : UInt32)

/-- A combination of the defined options that is not empty. -/
def Defined (options : UInt32) : Prop :=
  options ≠ 0 ∧ options &&& ~~~(ping ||| download ||| upload) = 0

instance (options : UInt32) : Decidable (Defined options) := inferInstanceAs (Decidable (_ ∧ _))

/-- The tests an execution consists of, in increasing order of their options. -/
def requested (options : UInt32) : List UInt32 :=
  [ping, download, upload].filter fun option => options &&& option ≠ 0

/-! ### The task -/

/-- `settings_client`, as far as the task reads it. -/
structure Settings where
  executionCount : UInt32
  periodMs : UInt32
  retry : Bool
  deriving DecidableEq, Repr

/-- A test that was started, and what it ended with. -/
structure Test where
  option : UInt32
  result : Option ErrorCode := Option.none
  deriving DecidableEq, Repr

/-- `task` of `client::impl::async_run_internal`, and what is in flight around it. -/
structure Task where
  settings : Settings
  options : UInt32
  /-- `m_callbacks.m_on_metrics_cb` is set. -/
  onMetricsCb : Bool
  handler : Bool
  executionCount : UInt32 := 0
  cancelled : Bool := false
  complete : Bool := false
  optionsTmp : UInt32 := options
  i : UInt32 := 1
  start : Nat := 0
  base : Bool := false
  /-- `m_signal_state` is connected to the cancel signal. -/
  signalState : Bool := true
  /-- The expiry of the timer, if there is one. -/
  timer : Option Nat := Option.none
  /-- The options of the tests in flight. -/
  running : List UInt32 := []
  /-- The expiries of the waits in flight. -/
  waits : List Nat := []
  /-- The tests of the execution that is going on, or was the last one. -/
  current : List Test := []
  /-- The tests of the executions before it. -/
  history : List (List Test) := []
  /-- The options and errors of the metrics that `on_run` reported. -/
  reports : List (UInt32 × ErrorCode) := []
  /-- What the handler was invoked with. -/
  completions : List ErrorCode := []
  deriving DecidableEq, Repr

namespace Task

/-- The option at the cursor, `1U << m_i`. -/
def option (s : Task) : UInt32 := 1 <<< s.i

def reset (s : Task) : Task :=
  { s with optionsTmp := s.options, i := 1, current := [], history := s.current :: s.history }

/-- `cancel`; the operations it asks to complete are in flight. -/
def cancel (s : Task) : Task := { s with cancelled := true }

/-- `m_cancel_signal()`, as far as this task is connected to it. -/
def cancelSignal (s : Task) : Task := if s.signalState then s.cancel else s

def onComplete (errorCode : ErrorCode) (s : Task) : Task :=
  if s.complete then s
  else
    { s with
      complete := true, base := false, timer := Option.none, signalState := false,
      handler := false,
      completions := if s.handler then s.completions ++ [errorCode] else s.completions }

/-- The metrics `on_run` reports for a test that failed; the callback may call `cancel`. -/
def report (cancels : Bool) (errorCode : ErrorCode) (s : Task) : Task :=
  if s.options &&& s.option ≠ 0 ∧ s.onMetricsCb then
    let s := { s with reports := s.reports ++ [(s.option, errorCode)] }
    if cancels then s.cancelSignal else s
  else s

/-- The first half of `on_run`: the cause, and the state after the metrics were reported. -/
def causeOf (cancels : Bool) (errorCode : ErrorCode) (s : Task) : ErrorCode × Task :=
  if s.cancelled then (Error.Code.operationAborted, s)
  else if errorCode.failed ∧ s.settings.retry then (.none, s.report cancels errorCode)
  else (errorCode, s)

/-- The cursor after a test, or unchanged after a pause. -/
def advance (errorCode : ErrorCode) (s : Task) : Task :=
  if s.timer.isSome then s
  else if errorCode.failed then { s with base := false, optionsTmp := 0 }
  else { s with base := false, optionsTmp := s.optionsTmp &&& ~~~s.option, i := s.i + 1 }

/-- `on_run`, with the function it calls in the end. -/
def onRun (run : Bool → Task → Option Task) (cancels : Bool) (errorCode : ErrorCode)
    (s : Task) : Option Task :=
  let (cause, s) := s.causeOf cancels errorCode
  if cause.failed ∨ s.cancelled then some (s.onComplete cause)
  else run errorCode.failed (s.advance errorCode)

/-- An execution that ended without error is counted, but not when its pause is over. -/
def countExecution (errorOccured : Bool) (s : Task) : Task :=
  if s.timer.isNone ∧ errorOccured = false then
    { s with executionCount := s.executionCount + 1 }
  else s

/-- The timer for the pause before the next execution, in nanoseconds. -/
def armTimer (s : Task) : Task :=
  let expiry := s.start + 1000000 * s.settings.periodMs.toNat
  { s with timer := some expiry, waits := expiry :: s.waits }

/-- The second half of `run`: the option at the cursor is started, or skipped. -/
def startTest (now : Nat) (skip : Task → Option Task) (s : Task) : Option Task :=
  let s := if s.optionsTmp = s.options then { s with start := now } else s
  if s.optionsTmp &&& s.option ≠ 0 then
    some { s with
      base := true, running := s.option :: s.running,
      current := s.current ++ [{ option := s.option }] }
  else skip s

/-- `run`, for at most as many calls within each other as `depth` says. -/
def run : Nat → Nat → Bool → Task → Option Task
  | 0, _, _, _ => Option.none
  | depth + 1, now, errorOccured, s =>
    let startNext := startTest now (onRun (run depth now) false .none)
    if s.optionsTmp ≠ 0 then startNext s
    else
      let s := s.countExecution errorOccured
      if s.settings.executionCount ≠ 0 ∧ s.settings.executionCount ≤ s.executionCount then
        some (s.onComplete .none)
      else if s.settings.periodMs = 0 then startNext s.reset
      else if s.timer.isNone then some s.armTimer
      else startNext (reset { s with timer := Option.none })

/-- The calls of `run` within each other that one event needs at most. -/
def depth : Nat := 3

end Task

/-- `client::impl::async_run_internal`: a refusal of the options, or a task. -/
def asyncRunInternal (settings : Settings) (options : UInt32) (onMetricsCb handler : Bool)
    (now : Nat) : Except ErrorCode (Option Task) :=
  if options = 0 then .error Error.Code.invalidArgument
  else .ok (Task.run Task.depth now false { settings, options, onMetricsCb, handler })

namespace Task

/-! ### Events -/

/-- What happens on the strand of the task. -/
inductive Event where
  /-- A test completes; `cancels` tells whether the metrics callback, if `on_run` calls it,
  calls `cancel`. -/
  | testCompleted (option : UInt32) (errorCode : ErrorCode) (cancels : Bool) (now : Nat)
  /-- The wait for a timer completes. -/
  | timerCompleted (expiry : Nat) (errorCode : ErrorCode) (now : Nat)
  /-- `cancel` is called. -/
  | cancel
  deriving DecidableEq, Repr

/-- The result of the test in flight is recorded. -/
def conclude (option : UInt32) (errorCode : ErrorCode) (s : Task) : Task :=
  { s with
    running := s.running.erase option
    current := s.current.map fun test =>
      if test.option = option ∧ test.result = Option.none then
        { test with result := some errorCode }
      else test }

/-- The wait of a timer is not in flight any more. -/
def elapse (expiry : Nat) (s : Task) : Task := { s with waits := s.waits.erase expiry }

/-- The event can happen: an operation is in flight, and a wait that was not cancelled
completes when its expiry is reached. -/
def Enabled (s : Task) : Event → Prop
  | .testCompleted option _ _ _ => option ∈ s.running
  | .timerCompleted expiry errorCode now => expiry ∈ s.waits ∧
      if errorCode.failed then s.cancelled ∨ s.timer.isNone else expiry ≤ now
  | .cancel => True

instance (s : Task) : (event : Event) → Decidable (s.Enabled event)
  | .testCompleted option _ _ _ => inferInstanceAs (Decidable (option ∈ s.running))
  | .timerCompleted expiry errorCode now => inferInstanceAs (Decidable (expiry ∈ s.waits ∧
      if errorCode.failed then s.cancelled ∨ s.timer.isNone else expiry ≤ now))
  | .cancel => isTrue trivial

/-- The handler of an event, with calls of `run` within each other up to a depth. -/
def handle (depth : Nat) (s : Task) : Event → Option Task
  | .testCompleted option errorCode cancels now =>
    (s.conclude option errorCode).onRun (run depth now) cancels errorCode
  | .timerCompleted expiry errorCode now =>
    (s.elapse expiry).onRun (run depth now) false errorCode
  | .cancel => some s.cancelSignal

/-- One event of the task. -/
def step (s : Task) (event : Event) : Option Task :=
  if s.Enabled event then s.handle depth event else Option.none

end Task

end Rstream.Nperf.Impl
