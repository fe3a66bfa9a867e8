import Rstream.Nperf.Execution

/-!
# What the execution loop keeps

Between two events the task is in one of three phases: a test is in flight (`Testing`), the
pause between two executions is (`Pausing`), or the task is complete (`Finished`). In each
of them the tests of every execution are a beginning of the requested ones, and all but the
last of them succeeded.

The one call that breaks the rule is `cancel` from within the metrics callback, when
`on_run` calls it for a failed test that is to be tried again: `on_run` has read
`m_cancelled` before, clears the cause after, and ends the task with success.
-/

namespace Rstream.Nperf.Impl

open IoRstrm Library Nat List

/-! ### Tests and executions -/

/-- The test ended without error. -/
def Test.Succeeded (test : Test) : Prop := test.result.map ErrorCode.failed = some false

instance (test : Test) : Decidable test.Succeeded := inferInstanceAs (Decidable (_ = _))

/-- The execution ran its tests in order, each after the one before it succeeded. -/
structure Ordered (options : UInt32) (tests : List Test) : Prop where
  beginning : tests.map Test.option <+: requested options
  succeeded : ∀ test ∈ tests.dropLast, test.Succeeded

/-- All requested tests succeeded. -/
def Completed (options : UInt32) (tests : List Test) : Prop :=
  tests.map Test.option = requested options ∧ ∀ test ∈ tests, test.Succeeded

instance (options : UInt32) (tests : List Test) : Decidable (Completed options tests) :=
  inferInstanceAs (Decidable (_ ∧ _))

/-- How many of the executions completed without error. -/
def completedCount (options : UInt32) (executions : List (List Test)) : Nat :=
  executions.countP fun tests => Completed options tests

/-- The execution is over: its last test has ended, too. -/
def Ended (options : UInt32) (tests : List Test) : Prop :=
  Ordered options tests ∧ ∀ test ∈ tests, test.result ≠ none

theorem Test.Succeeded.result_ne_none {test : Test} (succeeded : test.Succeeded) :
    test.result ≠ none := by
  intro absent
  simp [Test.Succeeded, absent] at succeeded

/-- The requested tests are in increasing order of their options. -/
theorem pairwise_requested (options : UInt32) : (requested options).Pairwise (· < ·) := by
  apply List.Pairwise.filter
  decide

theorem Ordered.append {options : UInt32} {done : List Test} {last : Test}
    (beginning : done.map Test.option ++ [last.option] <+: requested options)
    (succeeded : ∀ test ∈ done, test.Succeeded) : Ordered options (done ++ [last]) := by
  constructor
  · simpa using beginning
  · simpa using succeeded

theorem not_completed_append {options : UInt32} {done : List Test} {last : Test}
    (unsuccessful : ¬ last.Succeeded) : ¬ Completed options (done ++ [last]) := by
  intro completed
  exact unsuccessful (completed.2 last (by simp))

/-! ### The cursor -/

/-- The option at a position of the cursor. -/
def optionAt (i : Nat) : UInt32 := 1 <<< UInt32.ofNat i

/-- The options from a position of the cursor on. -/
def remaining (options : UInt32) (i : Nat) : UInt32 :=
  options &&& ~~~(optionAt i - 1)

/-- The requested tests before a position of the cursor. -/
def requestedBefore (options : UInt32) (i : Nat) : List UInt32 :=
  (requested options).filter fun option => option < optionAt i

/-- The combinations of the defined options. -/
def combinations : List UInt32 := [2, 4, 6, 8, 10, 12, 14]

theorem Defined.mem_combinations {options : UInt32} (defined : Defined options) :
    options ∈ combinations := by
  have distributed : options &&& (14 ||| ~~~(ping ||| download ||| upload)) =
      (options &&& 14) ||| (options &&& ~~~(ping ||| download ||| upload)) := by
    apply UInt32.toBitVec_inj.mp
    exact BitVec.and_or_distrib_left
  have masked : options = options &&& 14 :=
    calc options = options &&& (14 ||| ~~~(ping ||| download ||| upload)) := by
          rw [show (14 ||| ~~~(ping ||| download ||| upload) : UInt32) = -1 from by decide]
          exact UInt32.and_neg_one.symm
      _ = options &&& 14 := by rw [distributed, defined.2, UInt32.or_zero]
  have small : options.toNat ≤ 14 := by
    rw [masked, UInt32.toNat_and]
    exact and_le_right
  have all : ∀ n ≤ 14, Defined (UInt32.ofNat n) → UInt32.ofNat n ∈ combinations := by decide
  have found := all options.toNat small
  rw [UInt32.ofNat_toNat] at found
  exact found defined

/-- A position of the cursor, and what moving it over the option there does. -/
structure Position (options : UInt32) (i : Nat) : Prop where
  beginning : requestedBefore options i <+: requested options
  all_iff : requestedBefore options i = requested options ↔ remaining options i = 0
  here : remaining options i &&& optionAt i = options &&& optionAt i
  next : remaining options i &&& ~~~optionAt i = remaining options (i + 1)
  skipped : options &&& optionAt i = 0 → remaining options (i + 1) = remaining options i ∧
    requestedBefore options (i + 1) = requestedBefore options i
  asked : options &&& optionAt i ≠ 0 →
    requestedBefore options (i + 1) = requestedBefore options i ++ [optionAt i]

instance (options : UInt32) (i : Nat) : Decidable (Position options i) :=
  decidable_of_iff
    (requestedBefore options i <+: requested options ∧
      (requestedBefore options i = requested options ↔ remaining options i = 0) ∧
      remaining options i &&& optionAt i = options &&& optionAt i ∧
      remaining options i &&& ~~~optionAt i = remaining options (i + 1) ∧
      (options &&& optionAt i = 0 → remaining options (i + 1) = remaining options i ∧
        requestedBefore options (i + 1) = requestedBefore options i) ∧
      (options &&& optionAt i ≠ 0 →
        requestedBefore options (i + 1) =
          requestedBefore options i ++ [optionAt i]))
    ⟨fun ⟨a, b, c, d, e, f⟩ => ⟨a, b, c, d, e, f⟩,
      fun ⟨a, b, c, d, e, f⟩ => ⟨a, b, c, d, e, f⟩⟩

theorem Defined.position {options : UInt32} (defined : Defined options) {i : Nat}
    (mem : i ∈ [1, 2, 3, 4]) : Position options i := by
  have all : combinations.all (fun options => [1, 2, 3, 4].all fun i => Position options i) := by
    decide
  simp only [all_eq_true, decide_eq_true_eq] at all
  exact all options defined.mem_combinations i mem

/-- Before the first position nothing was asked, and after the last nothing remains. -/
theorem Defined.ends {options : UInt32} (defined : Defined options) :
    remaining options 1 = options ∧ requestedBefore options 1 = [] ∧ remaining options 4 = 0 := by
  have all : combinations.all fun options =>
      remaining options 1 = options ∧ requestedBefore options 1 = [] ∧
        remaining options 4 = 0 := by decide
  simp only [all_eq_true, decide_eq_true_eq] at all
  exact all options defined.mem_combinations

/-- Some test is requested. -/
theorem Defined.requested_ne_nil {options : UInt32} (defined : Defined options) :
    requested options ≠ [] := by
  intro nothing
  have mem : 1 ∈ [1, 2, 3, 4] := by decide
  have all := (defined.position mem).all_iff
  rw [defined.ends.2.1, defined.ends.1, nothing] at all
  exact defined.1 (all.mp rfl)

theorem Defined.not_completed_nil {options : UInt32} (defined : Defined options) :
    ¬ Completed options [] := fun completed => defined.requested_ne_nil completed.1.symm

namespace Task

/-! ### The phases -/

/-- The executions of the task, the latest one first. -/
def executions (s : Task) : List (List Test) := s.current :: s.history

/-- The executions before the latest one are over, and the counter counts those among
`counted` that completed without error. -/
structure Counts (options asked count : UInt32) (history counted : List (List Test)) : Prop where
  defined : Defined options
  history : ∀ tests ∈ history, Ended options tests
  count : count = UInt32.ofNat (completedCount options counted)
  most : asked ≠ 0 → completedCount options counted ≤ asked.toNat

abbrev Recorded (s : Task) (counted : List (List Test)) : Prop :=
  Counts s.options s.settings.executionCount s.executionCount s.history counted

/-- The executions asked for are not all done yet. -/
abbrev Below (s : Task) (counted : List (List Test)) : Prop :=
  s.settings.executionCount ≠ 0 →
    completedCount s.options counted < s.settings.executionCount.toNat

/-- The task is not complete. -/
abbrev Active (s : Task) : Prop :=
  s.complete = false ∧ s.signalState = true ∧ s.completions = []

/-- The cursor is at a position that is not behind the last option. -/
structure Cursor (options optionsTmp cursor : UInt32) (i : Nat) : Prop where
  mem : i ∈ [1, 2, 3]
  cursor : cursor = UInt32.ofNat i
  optionsTmp : optionsTmp = remaining options i

/-- The task between two calls: nothing is in flight. -/
structure Idle (s : Task) (counted : List (List Test)) : Prop where
  recorded : s.Recorded counted
  active : s.Active
  uncancelled : s.cancelled = false
  running : s.running = []
  waits : s.waits = []

/-- The tests before the cursor succeeded, and at least one remains. -/
structure AtCursor (s : Task) (i : Nat) : Prop extends Idle s s.executions where
  below : Below s s.executions
  timer : s.timer = none
  cursor : Cursor s.options s.optionsTmp s.i i
  remains : remaining s.options i ≠ 0
  before : s.current.map Test.option = requestedBefore s.options i
  succeeded : ∀ test ∈ s.current, test.Succeeded

/-- The test at the cursor is in flight, after the tests `done`. -/
structure Testing (s : Task) (i : Nat) (done : List Test) : Prop where
  recorded : s.Recorded s.executions
  active : s.Active
  below : Below s s.executions
  timer : s.timer = none
  waits : s.waits = []
  cursor : Cursor s.options s.optionsTmp s.i i
  asked : s.options &&& optionAt i ≠ 0
  running : s.running = [optionAt i]
  current : s.current = done ++ [{ option := optionAt i }]
  before : done.map Test.option = requestedBefore s.options i
  succeeded : ∀ test ∈ done, test.Succeeded

/-- The pause after an execution is in flight. -/
structure Pausing (s : Task) (expiry : Nat) : Prop where
  recorded : s.Recorded s.executions
  active : s.Active
  below : Below s s.executions
  period : s.settings.periodMs ≠ 0
  timer : s.timer = some expiry
  waits : s.waits = [expiry]
  running : s.running = []
  optionsTmp : s.optionsTmp = 0
  ended : Ended s.options s.current

/-- Why the task is complete: it was cancelled, all executions completed, or a test failed
and is not tried again. -/
abbrev Verdict (s : Task) (errorCode : ErrorCode) : Prop :=
  (s.cancelled = true ∧ errorCode = Error.Code.operationAborted) ∨
    s.cancelled = false ∧
      ((errorCode.failed = false ∧ s.settings.executionCount ≠ 0 ∧
          completedCount s.options s.executions = s.settings.executionCount.toNat) ∨
        (errorCode.failed = true ∧ s.settings.retry = false ∧
          ∃ test, s.current.getLast? = some test ∧ test.result = some errorCode))

/-- The task is complete; the handler, if there was one, was invoked. An execution that
completed after a cancellation is not counted. -/
structure Finished (s : Task) (counted : List (List Test)) : Prop where
  recorded : s.Recorded counted
  latest : counted = s.executions ∨ s.cancelled = true ∧ counted = s.history
  complete : s.complete = true
  disconnected : s.signalState = false
  running : s.running = []
  waits : s.waits = []
  ended : Ended s.options s.current
  verdict : s.completions = [] ∨ ∃ errorCode, s.completions = [errorCode] ∧ s.Verdict errorCode

/-- What holds between two events. -/
inductive Kept (s : Task) : Prop where
  | testing {i : Nat} {done : List Test} (phase : s.Testing i done)
  | pausing {expiry : Nat} (phase : s.Pausing expiry)
  | finished {counted : List (List Test)} (phase : s.Finished counted)

variable {s : Task} {i depth now : Nat} {counted : List (List Test)} {errorCode : ErrorCode}

/-! ### The counter -/

section Counts

variable {options asked count : UInt32} {history other : List (List Test)}

theorem Counts.congr (counts : Counts options asked count history counted)
    (same : completedCount options counted = completedCount options other) :
    Counts options asked count history other :=
  ⟨counts.defined, counts.history, counts.count.trans (congrArg UInt32.ofNat same),
    fun limited => Nat.le_trans (Nat.le_of_eq same.symm) (counts.most limited)⟩

theorem Counts.eq_of_le (counts : Counts options asked count history counted)
    (limited : asked ≠ 0) (reached : asked ≤ count) :
    completedCount options counted = asked.toNat := by
  have most := counts.most limited
  rw [counts.count, UInt32.le_iff_toNat_le, UInt32.toNat_ofNat'] at reached
  have wraps := mod_le (completedCount options counted) (2 ^ 32)
  omega

/-- And as long as it does not, fewer did. -/
theorem Counts.lt_of_not_le (counts : Counts options asked count history counted)
    (unreached : ¬ (asked ≠ 0 ∧ asked ≤ count)) (limited : asked ≠ 0) :
    completedCount options counted < asked.toNat := by
  have most := counts.most limited
  have less : ¬ asked ≤ count := fun reached => unreached ⟨limited, reached⟩
  rw [counts.count, UInt32.le_iff_toNat_le, UInt32.toNat_ofNat'] at less
  have bounded := asked.toNat_lt
  rw [mod_eq_of_lt (by omega)] at less
  omega

end Counts

/-! ### Starting a test -/

theorem Cursor.position {options optionsTmp cursor : UInt32}
    (at_ : Cursor options optionsTmp cursor i) (defined : Defined options) {k : Nat}
    (one : i ≤ k) (two : k ≤ i + 1) : Position options k := by
  apply defined.position
  have mem := at_.mem
  simp only [mem_cons, not_mem_nil, or_false] at mem ⊢
  omega

theorem Cursor.option_eq (cursor : Cursor s.options s.optionsTmp s.i i) :
    s.option = optionAt i := by
  rw [option, cursor.cursor, optionAt]

/-- Something remains at the next position, so it is not behind the last one. -/
theorem Cursor.next {options optionsTmp cursor : UInt32}
    (at_ : Cursor options optionsTmp cursor i) (defined : Defined options)
    (remains : remaining options (i + 1) ≠ 0) : i + 1 ∈ [1, 2, 3] := by
  have mem := at_.mem
  have last : i ≠ 3 := by
    rintro rfl
    exact remains defined.ends.2.2
  simp only [mem_cons, not_mem_nil, or_false] at mem ⊢
  omega

theorem AtCursor.position (here : s.AtCursor i) : Position s.options i :=
  here.cursor.position here.recorded.defined (Nat.le_refl i) (Nat.le_succ i)

theorem AtCursor.testing (here : s.AtCursor i) (asked : s.options &&& optionAt i ≠ 0) :
    Testing
      { s with
        base := true, running := optionAt i :: s.running,
        current := s.current ++ [{ option := optionAt i }] }
      i s.current := by
  have uncompleted : ¬ Completed s.options s.current := fun completed =>
    here.remains (here.position.all_iff.mp (here.before.symm.trans completed.1))
  have unfinished : ¬ Completed s.options (s.current ++ [{ option := optionAt i }]) :=
    not_completed_append (by simp [Test.Succeeded])
  have same : completedCount s.options s.executions =
      completedCount s.options ((s.current ++ [{ option := optionAt i }]) :: s.history) := by
    simp [completedCount, executions, uncompleted, unfinished]
  exact
    { recorded := here.recorded.congr same
      active := here.active
      below := fun limited => same ▸ here.below limited
      timer := here.timer
      waits := here.waits
      cursor := here.cursor
      asked
      running := congrArg (optionAt i :: ·) here.running
      current := rfl
      before := here.before
      succeeded := here.succeeded }

theorem AtCursor.advance (here : s.AtCursor i) (skipped : s.options &&& optionAt i = 0) :
    (s.advance .none).AtCursor (i + 1) := by
  obtain ⟨remaining_eq, before_eq⟩ := here.position.skipped skipped
  have remains : remaining s.options (i + 1) ≠ 0 := remaining_eq ▸ here.remains
  have moved : s.advance .none =
      { s with
        base := false, optionsTmp := s.optionsTmp &&& ~~~optionAt i, i := s.i + 1 } := by
    simp [Task.advance, here.timer, here.cursor.option_eq]
  rw [moved]
  exact
    { recorded := here.recorded
      active := here.active
      uncancelled := here.uncancelled
      running := here.running
      waits := here.waits
      below := here.below
      timer := here.timer
      cursor :=
        ⟨here.cursor.next here.recorded.defined remains, by simp [here.cursor.cursor],
          by simpa [here.cursor.optionsTmp] using here.position.next⟩
      remains
      before := here.before.trans before_eq.symm
      succeeded := here.succeeded }

section OnRun

variable {run : Bool → Task → Option Task} {cancels : Bool}

/-- After a cancellation the task is complete. -/
theorem onRun_of_cancelled (cancelled : s.cancelled = true) :
    s.onRun run cancels errorCode = some (s.onComplete Error.Code.operationAborted) := by
  simp only [onRun, causeOf, if_pos cancelled, if_pos (Or.inr cancelled)]

/-- Without a cancellation and an error, `on_run` goes on. -/
theorem onRun_of_success (uncancelled : s.cancelled = false)
    (success : errorCode.failed = false) :
    s.onRun run cancels errorCode = run false (s.advance errorCode) := by
  simp [onRun, causeOf, uncancelled, success]

/-- An error is the end when it is not to be tried again. -/
theorem onRun_of_failure (uncancelled : s.cancelled = false) (failure : errorCode.failed = true)
    (final : s.settings.retry = false) :
    s.onRun run cancels errorCode = some (s.onComplete errorCode) := by
  simp [onRun, causeOf, uncancelled, failure, final]

/-- After an error that was reported, `on_run` goes on when nothing was cancelled by then. -/
theorem onRun_of_retry {reported : Task} (uncancelled : s.cancelled = false)
    (failure : errorCode.failed = true) (retry : s.settings.retry = true)
    (called : s.report cancels errorCode = reported) (going : reported.cancelled = false) :
    s.onRun run cancels errorCode = run true (reported.advance errorCode) := by
  simp [onRun, causeOf, uncancelled, failure, retry, called, going]

theorem onRun_of_noise {reported : Task} (uncancelled : s.cancelled = false)
    (failure : errorCode.failed = true) (retry : s.settings.retry = true)
    (called : s.report cancels errorCode = reported) (cancelled : reported.cancelled = true) :
    s.onRun run cancels errorCode = some (reported.onComplete .none) := by
  simp [onRun, causeOf, uncancelled, failure, retry, called, cancelled]

end OnRun

theorem run_of_remaining (errorOccured : Bool) (remains : s.optionsTmp ≠ 0) :
    run (depth + 1) now errorOccured s =
      s.startTest now (onRun (run depth now) false .none) := by
  rw [run, if_pos remains]

theorem AtCursor.startTest_eq (here : s.AtCursor i) (skip : Task → Option Task) :
    ∃ later, later.AtCursor i ∧
      s.startTest now skip =
        if later.options &&& optionAt i ≠ 0 then
          some { later with
            base := true, running := optionAt i :: later.running,
            current := later.current ++ [{ option := optionAt i }] }
        else skip later := by
  by_cases first : s.optionsTmp = s.options
  · refine ⟨{ s with start := now }, ?_, ?_⟩
    · exact ⟨⟨here.recorded, here.active, here.uncancelled, here.running, here.waits⟩, here.below,
        here.timer, here.cursor, here.remains, here.before, here.succeeded⟩
    · rw [← here.position.here, ← here.cursor.optionsTmp, ← here.cursor.option_eq, startTest,
        if_pos first]
      rfl
  · refine ⟨s, here, ?_⟩
    rw [← here.position.here, ← here.cursor.optionsTmp, ← here.cursor.option_eq, startTest,
      if_neg first]

theorem AtCursor.startTest (here : s.AtCursor i) (enough : 3 ≤ depth + i) :
    ∃ t, s.startTest now (onRun (run depth now) false .none) = some t ∧ t.Kept := by
  induction depth generalizing s i with
  | zero =>
    obtain ⟨later, there, started⟩ := here.startTest_eq (onRun (run 0 now) false .none)
    have asked : later.options &&& optionAt i ≠ 0 := by
      intro skipped
      have mem := (there.advance skipped).cursor.mem
      simp only [mem_cons, not_mem_nil, or_false] at mem
      omega
    rw [if_pos asked] at started
    exact ⟨_, started, .testing (there.testing asked)⟩
  | succ depth ih =>
    obtain ⟨later, there, started⟩ :=
      here.startTest_eq (onRun (run (depth + 1) now) false .none)
    by_cases asked : later.options &&& optionAt i ≠ 0
    · rw [if_pos asked] at started
      exact ⟨_, started, .testing (there.testing asked)⟩
    · have next := there.advance (Decidable.not_not.mp asked)
      have remains : (later.advance .none).optionsTmp ≠ 0 :=
        next.cursor.optionsTmp ▸ next.remains
      rw [if_neg asked, onRun_of_success there.uncancelled rfl,
        run_of_remaining _ remains] at started
      rw [started]
      exact ih next (by omega)

/-! ### The end of an execution -/

/-- The handler is invoked, and nothing is in flight any more. -/
theorem kept_onComplete (recorded : s.Recorded counted) (active : s.Active)
    (latest : counted = s.executions ∨ s.cancelled = true ∧ counted = s.history)
    (running : s.running = []) (waits : s.waits = []) (ended : Ended s.options s.current)
    (verdict : s.Verdict errorCode) : (s.onComplete errorCode).Kept := by
  obtain ⟨going, _, silent⟩ := active
  rw [Task.onComplete, if_neg (by simp [going])]
  refine .finished
    { recorded, latest, complete := rfl, disconnected := rfl, running, waits, ended
      verdict := ?_ }
  cases handler : s.handler with
  | false => exact .inl silent
  | true => exact .inr ⟨errorCode, by simp [silent], verdict⟩

theorem Idle.reset (idle : s.Idle s.executions) (below : s.Below s.executions)
    (timer : s.timer = none) (ended : Ended s.options s.current) : s.reset.AtCursor 1 := by
  have defined := idle.recorded.defined
  have same : completedCount s.options s.executions =
      completedCount s.options ([] :: s.current :: s.history) := by
    simp [completedCount, executions, defined.not_completed_nil]
  have history : ∀ tests ∈ s.current :: s.history, Ended s.options tests := by
    intro tests mem
    rcases mem_cons.mp mem with rfl | mem
    · exact ended
    · exact idle.recorded.history tests mem
  obtain ⟨all, nothing, _⟩ := defined.ends
  exact
    { recorded := { idle.recorded.congr same with history }
      active := idle.active
      uncancelled := idle.uncancelled
      running := idle.running
      waits := idle.waits
      below := fun limited => same ▸ below limited
      timer
      cursor := ⟨by decide, rfl, all.symm⟩
      remains := all.symm ▸ defined.1
      before := nothing.symm
      succeeded := fun _ mem => nomatch mem }

theorem countExecution_true : s.countExecution true = s := by
  simp [countExecution]

theorem countExecution_of_timer {errorOccured : Bool} (armed : s.timer.isSome) :
    s.countExecution errorOccured = s := by
  cases timer : s.timer with
  | none => simp [timer] at armed
  | some expiry => simp [countExecution, timer]

/-- After an execution the task is complete, pauses, or starts the next execution. -/
theorem Idle.run {errorOccured : Bool}
    (idle : (s.countExecution errorOccured).Idle (s.countExecution errorOccured).executions)
    (paused : s.timer.isSome → s.settings.periodMs ≠ 0)
    (empty : s.optionsTmp = 0) (ended : Ended s.options s.current) (enough : 2 ≤ depth) :
    ∃ t, s.run (depth + 1) now errorOccured = some t ∧ t.Kept := by
  rw [Task.run, if_neg (by simp [empty])]
  have kept : (s.countExecution errorOccured).optionsTmp = 0 ∧
      Ended (s.countExecution errorOccured).options (s.countExecution errorOccured).current ∧
      ((s.countExecution errorOccured).timer.isSome →
        (s.countExecution errorOccured).settings.periodMs ≠ 0) := by
    unfold countExecution
    split <;> exact ⟨empty, ended, paused⟩
  generalize s.countExecution errorOccured = c at idle kept
  obtain ⟨empty, ended, paused⟩ := kept
  by_cases reached : c.settings.executionCount ≠ 0 ∧ c.settings.executionCount ≤ c.executionCount
  · refine ⟨_, if_pos reached, ?_⟩
    exact kept_onComplete idle.recorded idle.active (.inl rfl) idle.running idle.waits ended
      (.inr ⟨idle.uncancelled,
        .inl ⟨rfl, reached.1, idle.recorded.eq_of_le reached.1 reached.2⟩⟩)
  · have below : c.Below c.executions := idle.recorded.lt_of_not_le reached
    simp only [if_neg reached]
    by_cases immediate : c.settings.periodMs = 0
    · have timer : c.timer = none :=
        Option.not_isSome_iff_eq_none.mp fun armed => paused armed immediate
      rw [if_pos immediate]
      exact (idle.reset below timer ended).startTest (by omega)
    · rw [if_neg immediate]
      cases timer : c.timer with
      | none =>
        have phase : c.armTimer.Pausing (c.start + 1000000 * c.settings.periodMs.toNat) :=
          ⟨idle.recorded, idle.active, below, immediate, rfl,
            congrArg (_ :: ·) idle.waits, idle.running, empty, ended⟩
        exact ⟨_, rfl, .pausing phase⟩
      | some expiry =>
        have stopped : Idle { c with timer := none } c.executions :=
          ⟨idle.recorded, idle.active, idle.uncancelled, idle.running, idle.waits⟩
        exact (stopped.reset below rfl ended).startTest (by omega)

/-! ### The completion of a test -/

/-- The state after the test in flight completed and `on_run` reported it, if it did. -/
def concluded (done : List Test) (test : Test) (reports : List (UInt32 × ErrorCode))
    (s : Task) : Task :=
  { s with running := [], current := done ++ [test], reports }

section Completion

variable {done : List Test} {reports : List (UInt32 × ErrorCode)}

section

variable (testing : s.Testing i done)

include testing

theorem Testing.conclude :
    s.conclude (optionAt i) errorCode =
      s.concluded done ⟨optionAt i, some errorCode⟩ s.reports := by
  have unchanged : done.map (fun test =>
      if test.option = optionAt i ∧ test.result = none then
        { test with result := some errorCode }
      else test) = done.map id := by
    apply map_congr_left
    intro test mem
    exact if_neg fun ⟨_, absent⟩ => (testing.succeeded test mem).result_ne_none absent
  rw [map_id] at unchanged
  simp [Task.conclude, concluded, testing.running, testing.current, unchanged]

theorem Testing.position : Position s.options i :=
  testing.cursor.position testing.recorded.defined (Nat.le_refl i) (Nat.le_succ i)

theorem Testing.position_next : Position s.options (i + 1) :=
  testing.cursor.position testing.recorded.defined (Nat.le_succ i) (Nat.le_refl _)

/-- The tests up to the one that completed. -/
theorem Testing.before_append :
    done.map Test.option ++ [optionAt i] = requestedBefore s.options (i + 1) := by
  rw [testing.before, testing.position.asked testing.asked]

theorem Testing.ordered (result : Option ErrorCode) :
    Ordered s.options (done ++ [⟨optionAt i, result⟩]) := by
  apply Ordered.append _ testing.succeeded
  rw [testing.before_append]
  exact testing.position_next.beginning

theorem Testing.ended :
    Ended s.options (done ++ [⟨optionAt i, some errorCode⟩]) := by
  refine ⟨testing.ordered _, ?_⟩
  intro test mem
  rcases mem_append.mp mem with earlier | last
  · exact (testing.succeeded test earlier).result_ne_none
  · rw [mem_singleton.mp last]
    simp

theorem Testing.not_completed : ¬ Completed s.options s.current := by
  rw [testing.current]
  exact not_completed_append (by simp [Test.Succeeded])

/-- Neither is it when the test failed, or is not the last one. -/
theorem Testing.count_eq {test : Test}
    (uncompleted : ¬ Completed s.options (done ++ [test])) :
    completedCount s.options s.executions =
      completedCount s.options ((done ++ [test]) :: s.history) := by
  simp [completedCount, executions, testing.not_completed, uncompleted]

theorem Testing.recorded_failed
    (failure : errorCode.failed = true) :
    s.Recorded ((done ++ [⟨optionAt i, some errorCode⟩]) :: s.history) :=
  testing.recorded.congr
    (testing.count_eq (not_completed_append (by simp [Test.Succeeded, failure])))

/-- The executions before the one with a test in flight are counted, whatever it ends with. -/
theorem Testing.recorded_history : s.Recorded s.history :=
  testing.recorded.congr (by simp [completedCount, executions, testing.not_completed])

/-- A failed test that is tried again ends the execution, which is not counted. -/
theorem Testing.run_failed (uncancelled : s.cancelled = false)
    (failure : errorCode.failed = true) (enough : 2 ≤ depth) :
    ∃ t, run (depth + 1) now true
        ((s.concluded done ⟨optionAt i, some errorCode⟩ reports).advance errorCode) = some t ∧
      t.Kept := by
  have moved : (s.concluded done ⟨optionAt i, some errorCode⟩ reports).advance errorCode =
      { s.concluded done ⟨optionAt i, some errorCode⟩ reports with
        base := false, optionsTmp := 0 } := by
    simp [advance, concluded, testing.timer, failure]
  rw [moved]
  refine Idle.run ?_ (fun armed => ?_) rfl testing.ended enough
  · rw [countExecution_true]
    exact ⟨testing.recorded_failed failure, testing.active, uncancelled, rfl, testing.waits⟩
  · simp [concluded, testing.timer] at armed

theorem Testing.all_succeeded (success : errorCode.failed = false) :
    ∀ test ∈ done ++ [⟨optionAt i, some errorCode⟩], test.Succeeded := by
  intro test mem
  rcases mem_append.mp mem with earlier | last
  · exact testing.succeeded test earlier
  · rw [mem_singleton.mp last]
    simp [Test.Succeeded, success]

theorem Testing.completed_iff (success : errorCode.failed = false) :
    Completed s.options (done ++ [⟨optionAt i, some errorCode⟩]) ↔
      remaining s.options (i + 1) = 0 := by
  rw [← testing.position_next.all_iff, ← testing.before_append, Completed, map_append]
  exact and_iff_left (testing.all_succeeded success)

end

/-- The state after a test that succeeded. -/
def passed (done : List Test) (i : Nat) (errorCode : ErrorCode)
    (reports : List (UInt32 × ErrorCode)) (s : Task) : Task :=
  { s.concluded done ⟨optionAt i, some errorCode⟩ reports with
    base := false, optionsTmp := remaining s.options (i + 1), i := UInt32.ofNat (i + 1) }

theorem Testing.idle_completed (testing : s.Testing i done) (uncancelled : s.cancelled = false)
    (success : errorCode.failed = false) (last : remaining s.options (i + 1) = 0) :
    Idle ((s.passed done i errorCode reports).countExecution false)
      ((s.passed done i errorCode reports).countExecution false).executions := by
  have more : completedCount s.options ((done ++ [⟨optionAt i, some errorCode⟩]) :: s.history) =
      completedCount s.options s.executions + 1 := by
    simp [completedCount, executions, testing.not_completed,
      (testing.completed_iff success).mpr last]
  have count : s.executionCount + 1 = UInt32.ofNat
      (completedCount s.options ((done ++ [⟨optionAt i, some errorCode⟩]) :: s.history)) := by
    rw [more, UInt32.ofNat_add, ← testing.recorded.count]
    rfl
  rw [countExecution, if_pos ⟨by simp [passed, concluded, testing.timer], rfl⟩]
  exact
    { recorded :=
        ⟨testing.recorded.defined, testing.recorded.history, count,
          fun limited => Nat.le_trans (Nat.le_of_eq more) (testing.below limited)⟩
      active := testing.active
      uncancelled
      running := rfl
      waits := testing.waits }

theorem Testing.atCursor (testing : s.Testing i done) (uncancelled : s.cancelled = false)
    (success : errorCode.failed = false) (remains : remaining s.options (i + 1) ≠ 0) :
    (s.passed done i errorCode reports).AtCursor (i + 1) := by
  have same := testing.count_eq (mt (testing.completed_iff success).mp remains)
  exact
    { recorded := testing.recorded.congr same
      active := testing.active
      uncancelled
      running := rfl
      waits := testing.waits
      below := fun limited => Nat.lt_of_le_of_lt (Nat.le_of_eq same.symm) (testing.below limited)
      timer := testing.timer
      cursor := ⟨testing.cursor.next testing.recorded.defined remains, rfl, rfl⟩
      remains
      before := map_append.trans testing.before_append
      succeeded := testing.all_succeeded success }

/-- After a test that succeeded the next one is started, or the execution is over. -/
theorem Testing.run_succeeded (testing : s.Testing i done) (uncancelled : s.cancelled = false)
    (success : errorCode.failed = false) (enough : 2 ≤ depth) :
    ∃ t, run (depth + 1) now false
        ((s.concluded done ⟨optionAt i, some errorCode⟩ reports).advance errorCode) = some t ∧
      t.Kept := by
  have moved : (s.concluded done ⟨optionAt i, some errorCode⟩ reports).advance errorCode =
      s.passed done i errorCode reports := by
    rw [passed, ← testing.position.next]
    simp [advance, concluded, testing.timer, success, option, optionAt, testing.cursor.cursor,
      testing.cursor.optionsTmp]
  rw [moved]
  by_cases last : remaining s.options (i + 1) = 0
  · refine Idle.run (testing.idle_completed uncancelled success last) (fun armed => ?_) last
      testing.ended enough
    simp [passed, concluded, testing.timer] at armed
  · have next : (s.passed done i errorCode reports).AtCursor (i + 1) :=
      testing.atCursor uncancelled success last
    rw [run_of_remaining _ last]
    have mem := next.cursor.mem
    simp only [mem_cons, not_mem_nil, or_false] at mem
    exact next.startTest (by omega)

/-- `on_run` calls the metrics callback when a test ends with the error. -/
def Reports (s : Task) (errorCode : ErrorCode) : Prop :=
  s.cancelled = false ∧ errorCode.failed = true ∧ s.settings.retry = true ∧
    s.options &&& s.option ≠ 0 ∧ s.onMetricsCb = true

instance (s : Task) (errorCode : ErrorCode) : Decidable (s.Reports errorCode) :=
  inferInstanceAs (Decidable (_ ∧ _))

/-- The metrics callback that `on_run` calls for the event, if it does, does not cancel. -/
def Quiet (s : Task) : Event → Prop
  | .testCompleted _ errorCode cancels _ => ¬ (cancels = true ∧ s.Reports errorCode)
  | .timerCompleted _ _ _ => True
  | .cancel => True

instance (s : Task) : (event : Event) → Decidable (s.Quiet event)
  | .testCompleted _ errorCode cancels _ =>
    inferInstanceAs (Decidable (¬ (cancels = true ∧ s.Reports errorCode)))
  | .timerCompleted _ _ _ => isTrue trivial
  | .cancel => isTrue trivial

theorem Testing.report {cancels : Bool} (testing : s.Testing i done)
    (quiet : ¬ (cancels = true ∧ s.Reports errorCode)) (uncancelled : s.cancelled = false)
    (failure : errorCode.failed = true) (retry : s.settings.retry = true) :
    ∃ reports, (s.concluded done ⟨optionAt i, some errorCode⟩ s.reports).report cancels errorCode =
      s.concluded done ⟨optionAt i, some errorCode⟩ reports := by
  have cursor := testing.cursor.option_eq
  have silent : s.onMetricsCb = true → cancels = false := by
    intro callback
    rw [← Bool.not_eq_true]
    intro cancel
    exact quiet ⟨cancel, uncancelled, failure, retry, cursor ▸ testing.asked, callback⟩
  unfold Task.report
  split
  · rename_i called
    rw [silent called.2]
    exact ⟨_, rfl⟩
  · exact ⟨_, rfl⟩

/-- A callback that cancels ends the task with success, whatever `run` would do. -/
theorem Testing.noise (testing : s.Testing i done) (reports : s.Reports errorCode) :
    ∃ t, t.cancelled = true ∧ (s.handler = true → t.completions = [.none]) ∧
      ∀ run, (s.conclude (optionAt i) errorCode).onRun run true errorCode = some t := by
  obtain ⟨uncancelled, failure, retry, asked, callback⟩ := reports
  let c := s.concluded done ⟨optionAt i, some errorCode⟩ s.reports
  let r : Task := { c with reports := s.reports ++ [(s.option, errorCode)], cancelled := true }
  have called : c.report true errorCode = r := by
    have connected := testing.active.2.1
    have asked : c.options &&& c.option ≠ 0 ∧ c.onMetricsCb = true := ⟨asked, callback⟩
    rw [Task.report, if_pos asked]
    simp [cancelSignal, cancel, c, r, concluded, connected, option]
  have alive : r.complete = false := testing.active.1
  refine ⟨r.onComplete .none, ?_, fun handler => ?_, fun run => ?_⟩
  · rw [Task.onComplete, if_neg (by simp [alive])]
  · have present : r.handler = true := handler
    have silent : r.completions = [] := testing.active.2.2
    rw [Task.onComplete, if_neg (by simp [alive])]
    simp [present, silent]
  · rw [testing.conclude]
    exact onRun_of_noise uncancelled failure retry called rfl

/-- The completion of the test in flight. -/
theorem Testing.testCompleted {cancels : Bool} (testing : s.Testing i done)
    (quiet : ¬ (cancels = true ∧ s.Reports errorCode)) (enough : 2 ≤ depth) :
    ∃ t, (s.conclude (optionAt i) errorCode).onRun (run (depth + 1) now) cancels errorCode =
      some t ∧ t.Kept := by
  rw [testing.conclude]
  cases cancelled : s.cancelled with
  | true =>
    refine ⟨_, onRun_of_cancelled cancelled, ?_⟩
    exact kept_onComplete testing.recorded_history testing.active (.inr ⟨cancelled, rfl⟩) rfl
      testing.waits testing.ended (.inl ⟨cancelled, rfl⟩)
  | false =>
    have going : (s.concluded done ⟨optionAt i, some errorCode⟩ s.reports).cancelled = false :=
      cancelled
    cases failed : errorCode.failed with
    | false =>
      rw [onRun_of_success going failed]
      exact testing.run_succeeded cancelled failed enough
    | true =>
      cases retry : s.settings.retry with
      | false =>
        refine ⟨_, onRun_of_failure cancelled failed retry, ?_⟩
        exact kept_onComplete (testing.recorded_failed failed) testing.active (.inl rfl) rfl
          testing.waits testing.ended
          (.inr ⟨cancelled, .inr ⟨failed, retry, _, getLast?_concat, rfl⟩⟩)
      | true =>
        obtain ⟨reports, reported⟩ := testing.report quiet cancelled failed retry
        rw [onRun_of_retry going failed retry reported cancelled]
        exact testing.run_failed cancelled failed enough

end Completion

/-- The completion of the wait for the timer. -/
theorem Pausing.timerCompleted {expiry : Nat} {cancels : Bool} (pausing : s.Pausing expiry)
    (success : s.cancelled = false → errorCode.failed = false) (enough : 2 ≤ depth) :
    ∃ t, (s.elapse expiry).onRun (run (depth + 1) now) cancels errorCode = some t ∧
      t.Kept := by
  have waits : (s.elapse expiry).waits = [] := by simp [elapse, pausing.waits]
  cases cancelled : (s.elapse expiry).cancelled with
  | true =>
    refine ⟨_, onRun_of_cancelled cancelled, ?_⟩
    exact kept_onComplete pausing.recorded pausing.active (.inl rfl) pausing.running waits
      pausing.ended (.inl ⟨cancelled, rfl⟩)
  | false =>
    have armed : (s.elapse expiry).timer.isSome := by simp [elapse, pausing.timer]
    have stays : (s.elapse expiry).advance errorCode = s.elapse expiry := if_pos armed
    rw [onRun_of_success cancelled (success cancelled), stays]
    refine Idle.run ?_ (fun _ => pausing.period) pausing.optionsTmp pausing.ended enough
    rw [countExecution_of_timer armed]
    exact ⟨pausing.recorded, pausing.active, cancelled, pausing.running, waits⟩

/-! ### One event, and all of them -/

/-- `cancel` only marks the task as cancelled, as long as it is not complete. -/
theorem Kept.cancelSignal (kept : s.Kept) : s.cancelSignal.Kept := by
  cases kept with
  | testing phase =>
    rw [Task.cancelSignal, if_pos phase.active.2.1]
    exact .testing
      ⟨phase.recorded, phase.active, phase.below, phase.timer, phase.waits, phase.cursor,
        phase.asked, phase.running, phase.current, phase.before, phase.succeeded⟩
  | pausing phase =>
    rw [Task.cancelSignal, if_pos phase.active.2.1]
    exact .pausing
      ⟨phase.recorded, phase.active, phase.below, phase.period, phase.timer, phase.waits,
        phase.running, phase.optionsTmp, phase.ended⟩
  | finished phase =>
    rw [Task.cancelSignal, if_neg (by simp [phase.disconnected])]
    exact .finished phase

variable {event : Event} {t : Task}

/-- Every event that can happen is handled within a bounded number of calls, and what is
kept is kept when the metrics callback does not cancel. -/
theorem Kept.handle (kept : s.Kept) (quiet : s.Quiet event) (enabled : s.Enabled event)
    (enough : 2 ≤ depth) : ∃ t, s.handle (depth + 1) event = some t ∧ t.Kept := by
  cases event with
  | testCompleted option errorCode cancels now =>
    have mem : option ∈ s.running := enabled
    cases kept with
    | testing phase =>
      have same : option = optionAt _ := mem_singleton.mp (phase.running ▸ mem)
      rw [same]
      exact phase.testCompleted quiet enough
    | pausing phase => exact absurd (phase.running ▸ mem) not_mem_nil
    | finished phase => exact absurd (phase.running ▸ mem) not_mem_nil
  | timerCompleted expiry errorCode now =>
    obtain ⟨mem, outcome⟩ := enabled
    cases kept with
    | testing phase => exact absurd (phase.waits ▸ mem) not_mem_nil
    | pausing phase =>
      have same : expiry = _ := mem_singleton.mp (phase.waits ▸ mem)
      rw [same]
      refine phase.timerCompleted (fun uncancelled => ?_) enough
      simp only [uncancelled, phase.timer, Option.isNone_some, Bool.false_eq_true,
        or_self] at outcome
      split at outcome
      · exact outcome.elim
      · rename_i success
        exact Bool.eq_false_iff.mpr success
    | finished phase => exact absurd (phase.waits ▸ mem) not_mem_nil
  | cancel => exact ⟨_, rfl, kept.cancelSignal⟩

theorem Kept.step (kept : s.Kept) (quiet : s.Quiet event) (taken : s.step event = some t) :
    t.Kept := by
  rw [Task.step, Option.ite_none_right_eq_some] at taken
  obtain ⟨enabled, taken⟩ := taken
  obtain ⟨u, handled, kept⟩ := kept.handle quiet enabled (Nat.le_refl 2)
  have same : u = t := Option.some.inj (handled.symm.trans taken)
  exact same ▸ kept

theorem exists_kept {settings : Settings} {options : UInt32} {onMetricsCb handler : Bool}
    (defined : Defined options) :
    ∃ first, asyncRunInternal settings options onMetricsCb handler now = .ok (some first) ∧
      first.Kept := by
  obtain ⟨all, nothing, _⟩ := defined.ends
  have none_completed : completedCount options [[]] = 0 := by
    simp [completedCount, defined.not_completed_nil]
  have here : AtCursor { settings, options, onMetricsCb, handler } 1 :=
    { recorded :=
        ⟨defined, (fun _ mem => nomatch mem), congrArg UInt32.ofNat none_completed.symm,
          fun _ => Nat.le_trans (Nat.le_of_eq none_completed) (Nat.zero_le _)⟩
      active := ⟨rfl, rfl, rfl⟩
      uncancelled := rfl
      running := rfl
      waits := rfl
      below := by
        intro counts
        rw [executions, none_completed, Nat.pos_iff_ne_zero]
        exact fun zero => counts (UInt32.toNat_inj.mp zero)
      timer := rfl
      cursor := ⟨by decide, rfl, all.symm⟩
      remains := all.symm ▸ defined.1
      before := nothing.symm
      succeeded := fun _ mem => nomatch mem }
  have enough : 3 ≤ 2 + 1 := Nat.le_refl 3
  obtain ⟨first, started, kept⟩ : ∃ first, startTest now (onRun (run 2 now) false .none)
      { settings, options, onMetricsCb, handler } = some first ∧ first.Kept :=
    here.startTest enough
  refine ⟨first, ?_, kept⟩
  rw [asyncRunInternal, if_neg defined.1, ← started]
  exact congrArg Except.ok (run_of_remaining false defined.1)

/-! ### More calls within each other -/

/-- What a function returns, a larger one returns, too. -/
def Extends (f g : Task → Option Task) : Prop := ∀ s t, f s = some t → g s = some t

theorem ite_extends {p : Prop} [Decidable p] {a a' b b' : Option Task}
    (yes : a = some t → a' = some t) (no : b = some t → b' = some t)
    (returned : (if p then a else b) = some t) : (if p then a' else b') = some t := by
  by_cases holds : p
  · rw [if_pos holds] at returned ⊢
    exact yes returned
  · rw [if_neg holds] at returned ⊢
    exact no returned

theorem Extends.startTest {f g : Task → Option Task} (larger : Extends f g) :
    Extends (startTest now f) (startTest now g) := by
  intro s t returned
  unfold Task.startTest at returned ⊢
  dsimp only at returned ⊢
  exact ite_extends id (larger _ t) returned

theorem Extends.onRun {f g : Bool → Task → Option Task} {cancels : Bool}
    (larger : ∀ errorOccured, Extends (f errorOccured) (g errorOccured)) :
    Extends (onRun f cancels errorCode) (onRun g cancels errorCode) := by
  intro s t returned
  unfold Task.onRun at returned ⊢
  generalize s.causeOf cancels errorCode = result at returned ⊢
  exact ite_extends id (larger _ _ t) returned

theorem extends_run_succ (errorOccured : Bool) :
    Extends (run depth now errorOccured) (run (depth + 1) now errorOccured) := by
  induction depth generalizing errorOccured with
  | zero =>
    intro s t returned
    cases returned
  | succ depth ih =>
    have larger : Extends (Task.startTest now (Task.onRun (run depth now) false .none))
        (Task.startTest now (Task.onRun (run (depth + 1) now) false .none)) :=
      Extends.startTest (Extends.onRun ih)
    intro s t returned
    unfold run at returned ⊢
    dsimp only at returned ⊢
    refine ite_extends (larger _ t) (ite_extends id ?_) returned
    exact ite_extends (larger _ t) (ite_extends id (larger _ t))

/-- What an event leads to does not depend on how many calls are allowed. -/
theorem extends_handle {more : Nat} (event : Event) (enough : depth ≤ more) :
    Extends (handle depth · event) (handle more · event) := by
  induction enough with
  | refl => exact fun _ _ returned => returned
  | step _ ih =>
    intro s t returned
    have handled := ih s t returned
    cases event with
    | testCompleted option errorCode cancels now =>
      exact Extends.onRun extends_run_succ _ t handled
    | timerCompleted expiry errorCode now =>
      exact Extends.onRun extends_run_succ _ t handled
    | cancel => exact handled

/-! ### The execution loop -/

/-- What is asked of the task in a state. -/
structure Conforms (s : Task) : Prop where
  /-- The tests of an execution run in order, each after the one before it succeeded. -/
  ordered : ∀ tests ∈ s.executions, Ordered s.options tests
  /-- So they are in increasing order, each at most once. -/
  increasing : ∀ tests ∈ s.executions, (tests.map Test.option).Pairwise (· < ·)
  /-- The tests in flight are those without a result, and there is at most one. -/
  running : s.running =
    (s.executions.flatten.filter fun test => test.result = none).map Test.option
  single : s.running.length ≤ 1
  /-- The counter counts the executions that completed without error; after a cancellation
  the latest one is not counted any more. -/
  counted : ∃ counted, s.executionCount = UInt32.ofNat (completedCount s.options counted) ∧
    (counted = s.executions ∨ s.cancelled = true ∧ counted = s.history)
  /-- The handler is invoked at most once, -/
  once : s.completions.length ≤ 1
  /-- with success when all executions asked for completed without error, -/
  success : ∀ errorCode ∈ s.completions, errorCode.failed = false →
    s.settings.executionCount ≠ 0 ∧
      completedCount s.options s.executions = s.settings.executionCount.toNat
  /-- with the error of the latest test when it is not to be tried again, -/
  failure : ∀ errorCode ∈ s.completions, errorCode.failed = true → s.cancelled = false →
    s.settings.retry = false ∧
      ∃ test, s.current.getLast? = some test ∧ test.result = some errorCode
  /-- and with `operation_aborted` after a cancellation, -/
  aborted : s.cancelled = true → ∀ errorCode ∈ s.completions,
    errorCode = Error.Code.operationAborted
  /-- which comes with the next completion. -/
  aborts : s.cancelled = true → s.complete = false → ∀ event t, event ≠ .cancel →
    s.step event = some t →
      t.complete = true ∧ (s.handler = true → t.completions = [↑Error.Code.operationAborted])
  /-- Every event that can happen is handled, with a bounded number of calls of `run` within
  each other, and more would not make a difference. -/
  returns : ∀ event, s.Enabled event → ∃ t, ∀ n ≥ Task.depth, s.handle n event = some t

theorem Kept.ordered (kept : s.Kept) : ∀ tests ∈ s.executions, Ordered s.options tests := by
  have both (current : Ordered s.options s.current)
      (history : ∀ tests ∈ s.history, Ended s.options tests) :
      ∀ tests ∈ s.executions, Ordered s.options tests := by
    intro tests mem
    rcases mem_cons.mp mem with rfl | mem
    · exact current
    · exact (history tests mem).1
  cases kept with
  | testing phase =>
    exact both (phase.current ▸ phase.ordered none) phase.recorded.history
  | pausing phase => exact both phase.ended.1 phase.recorded.history
  | finished phase => exact both phase.ended.1 phase.recorded.history

theorem filter_ended {options : UInt32} {executions : List (List Test)}
    (ended : ∀ tests ∈ executions, Ended options tests) :
    executions.flatten.filter (fun test => test.result = none) = [] := by
  rw [filter_eq_nil_iff]
  intro test mem
  obtain ⟨tests, inside, mem⟩ := mem_flatten.mp mem
  simpa using (ended tests inside).2 test mem

section

variable (kept : s.Kept)

include kept

theorem Kept.running :
    s.running = (s.executions.flatten.filter fun test => test.result = none).map Test.option ∧
      s.running.length ≤ 1 := by
  have over' (running : s.running = []) (current : Ended s.options s.current)
      (history : ∀ tests ∈ s.history, Ended s.options tests) :
      s.running = (s.executions.flatten.filter fun test => test.result = none).map Test.option ∧
        s.running.length ≤ 1 := by
    have ended : ∀ tests ∈ s.executions, Ended s.options tests := by
      intro tests mem
      rcases mem_cons.mp mem with rfl | mem
      · exact current
      · exact history tests mem
    rw [running, filter_ended ended]
    exact ⟨rfl, zero_le 1⟩
  cases kept with
  | @testing i done phase =>
    have before : done.filter (fun test => test.result = none) = [] := by
      rw [filter_eq_nil_iff]
      intro test mem
      simpa using (phase.succeeded test mem).result_ne_none
    rw [phase.running, executions, flatten_cons, filter_append,
      filter_ended phase.recorded.history, phase.current, filter_append, before]
    exact ⟨rfl, Nat.le_refl 1⟩
  | pausing phase => exact over' phase.running phase.ended phase.recorded.history
  | finished phase => exact over' phase.running phase.ended phase.recorded.history

theorem Kept.counts :
    ∃ counted, s.executionCount = UInt32.ofNat (completedCount s.options counted) ∧
      (counted = s.executions ∨ s.cancelled = true ∧ counted = s.history) := by
  cases kept with
  | testing phase => exact ⟨_, phase.recorded.count, .inl rfl⟩
  | pausing phase => exact ⟨_, phase.recorded.count, .inl rfl⟩
  | finished phase => exact ⟨_, phase.recorded.count, phase.latest⟩

/-- The handler was not invoked yet, or it was, once and for a reason. -/
theorem Kept.completions :
    s.completions = [] ∨ ∃ errorCode, s.completions = [errorCode] ∧ s.Verdict errorCode := by
  cases kept with
  | testing phase => exact .inl phase.active.2.2
  | pausing phase => exact .inl phase.active.2.2
  | finished phase => exact phase.verdict

theorem Kept.verdict (told : errorCode ∈ s.completions) :
    s.Verdict errorCode := by
  rcases kept.completions with silent | ⟨only, same, verdict⟩
  · rw [silent] at told
    cases told
  · rw [same] at told
    exact mem_singleton.mp told ▸ verdict

theorem Kept.silent (going : s.complete = false) : s.completions = [] := by
  cases kept with
  | testing phase => exact phase.active.2.2
  | pausing phase => exact phase.active.2.2
  | finished phase => simp [phase.complete] at going

/-- After a cancellation the next completion ends the task. -/
theorem Kept.aborts (cancelled : s.cancelled = true) (going : s.complete = false)
    (completion : event ≠ .cancel) (taken : s.step event = some t) :
    t.complete = true ∧ (s.handler = true → t.completions = [↑Error.Code.operationAborted]) := by
  have ends (r : Task) (mark : r.cancelled = true) (alive : r.complete = false)
      (handler : r.handler = s.handler) (silent : r.completions = [])
      {run : Bool → Task → Option Task} {cancels : Bool} {errorCode : ErrorCode}
      (returned : r.onRun run cancels errorCode = some t) :
      t.complete = true ∧
        (s.handler = true → t.completions = [↑Error.Code.operationAborted]) := by
    rw [onRun_of_cancelled mark, Task.onComplete, if_neg (by simp [alive])] at returned
    cases returned
    refine ⟨rfl, fun present => ?_⟩
    rw [← handler] at present
    simp [present, silent]
  have silent := kept.silent going
  rw [Task.step, Option.ite_none_right_eq_some] at taken
  cases event with
  | testCompleted option errorCode cancels now =>
    exact ends (s.conclude option errorCode) cancelled going rfl silent taken.2
  | timerCompleted expiry errorCode now =>
    exact ends (s.elapse expiry) cancelled going rfl silent taken.2
  | cancel => exact absurd rfl completion

/-- Only a test in flight can end in a way that is not quiet. -/
theorem Kept.noise (noise : ¬ s.Quiet event) (enabled : s.Enabled event) :
    ∃ t, t.cancelled = true ∧ (s.handler = true → t.completions = [.none]) ∧
      ∀ n, s.handle n event = some t := by
  cases event with
  | testCompleted option errorCode cancels now =>
    obtain ⟨cancel, reports⟩ := Decidable.not_not.mp noise
    have mem : option ∈ s.running := enabled
    cases kept with
    | testing phase =>
      obtain ⟨t, cancelled, told, returned⟩ := phase.noise reports
      have same : option = optionAt _ := mem_singleton.mp (phase.running ▸ mem)
      refine ⟨t, cancelled, told, fun n => ?_⟩
      rw [same, cancel]
      exact returned _
    | pausing phase => exact absurd (phase.running ▸ mem) not_mem_nil
    | finished phase => exact absurd (phase.running ▸ mem) not_mem_nil
  | timerCompleted expiry errorCode now => exact absurd trivial noise
  | cancel => exact absurd trivial noise

/-- Every event that can happen is handled in a bounded number of calls, also one whose
metrics callback cancels. -/
theorem Kept.returns (enabled : s.Enabled event) :
    ∃ t, ∀ n ≥ Task.depth, s.handle n event = some t := by
  by_cases quiet : s.Quiet event
  · obtain ⟨t, handled, _⟩ := kept.handle quiet enabled (Nat.le_refl 2)
    exact ⟨t, fun _ enough => extends_handle event enough s t handled⟩
  · obtain ⟨t, _, _, handled⟩ := kept.noise quiet enabled
    exact ⟨t, fun n _ => handled n⟩

theorem Kept.conforms : s.Conforms where
  ordered := kept.ordered
  increasing := fun tests mem =>
    (pairwise_requested s.options).sublist (kept.ordered tests mem).beginning.sublist
  running := kept.running.1
  single := kept.running.2
  counted := kept.counts
  once := by
    rcases kept.completions with silent | ⟨only, same, _⟩
    · simp [silent]
    · simp [same]
  success := by
    intro errorCode told success
    obtain ⟨_, rfl⟩ | ⟨_, ⟨_, all⟩ | ⟨failure, _⟩⟩ := kept.verdict told
    · cases success
    · exact all
    · simp [failure] at success
  failure := by
    intro errorCode told failure uncancelled
    obtain ⟨cancelled, _⟩ | ⟨_, ⟨success, _⟩ | ⟨_, last⟩⟩ := kept.verdict told
    · simp [cancelled] at uncancelled
    · simp [success] at failure
    · exact last
  aborted := by
    intro cancelled errorCode told
    obtain ⟨_, aborted⟩ | ⟨uncancelled, _⟩ := kept.verdict told
    · exact aborted
    · simp [cancelled] at uncancelled
  aborts := fun cancelled going _ _ completion taken =>
    kept.aborts cancelled going completion taken
  returns := fun _ enabled => kept.returns enabled

end

/-- **The execution loop.** As long as the metrics callback that `on_run` calls for a failed
test does not cancel, the task conforms in every state reached; and the first event at which
it does ends the run with success instead of `operation_aborted`. -/
theorem conforms_of_quiet (settings : Settings) (options : UInt32) (onMetricsCb handler : Bool)
    (now : Nat) (defined : Defined options) :
    ∃ first, asyncRunInternal settings options onMetricsCb handler now = .ok (some first) ∧
      (∀ s, Run step Quiet first s → s.Conforms) ∧
      ∀ s event t, Run step Quiet first s → s.handler = true → s.step event = some t →
        (t.Conforms ↔ s.Quiet event) := by
  obtain ⟨first, started, kept⟩ :
      ∃ first, asyncRunInternal settings options onMetricsCb handler now = .ok (some first) ∧
        first.Kept := exists_kept defined
  have always : ∀ s, Run step Quiet first s → s.Kept := by
    intro s run
    exact run.invariant kept fun _ _ _ kept quiet taken => kept.step quiet taken
  refine ⟨first, started, fun s run => (always s run).conforms, ?_⟩
  intro s event t run present taken
  refine ⟨fun conforms => ?_, fun quiet => ((always s run).step quiet taken).conforms⟩
  apply Decidable.byContradiction
  intro noise
  rw [Task.step, Option.ite_none_right_eq_some] at taken
  obtain ⟨enabled, taken⟩ := taken
  obtain ⟨u, cancelled, told, handled⟩ := (always s run).noise noise enabled
  have same : u = t := Option.some.inj ((handled _).symm.trans taken)
  subst same
  have success : ErrorCode.none ∈ u.completions := by simp [told present]
  have aborted := conforms.aborted cancelled _ success
  cases aborted

/-- A run of all three tests, once. -/
theorem conforms_all_tests :
    ∃ first, asyncRunInternal ⟨1, 1000, false⟩ 14 true true 0 = .ok (some first) ∧
      (∀ s, Run step Quiet first s → s.Conforms) ∧
      ∀ s event t, Run step Quiet first s → s.handler = true → s.step event = some t →
        (t.Conforms ↔ s.Quiet event) :=
  conforms_of_quiet ⟨1, 1000, false⟩ 14 true true 0 (by decide)

/-- A ping that is to be tried again, in flight. -/
def pinging : Task :=
  { settings := ⟨1, 0, true⟩, options := ping, onMetricsCb := true, handler := true,
    base := true, running := [ping], current := [⟨ping, none⟩] }

/-- The ping fails, and the metrics callback that is told so cancels. -/
def cancelledByCallback : List Event := [.testCompleted ping ErrorCode.operationAborted true 0]

/-- A run that tries again and is cancelled by its metrics callback ends with success. -/
theorem success_of_cancelledByCallback :
    ∃ first s, asyncRunInternal ⟨1, 0, true⟩ ping true true 0 = .ok (some first) ∧
      Reaches step first s ∧ s.cancelled = true ∧ s.completions = [.none] ∧
      completedCount s.options s.executions = 0 ∧ ¬ s.Conforms := by
  refine ⟨pinging, (exec step pinging cancelledByCallback).getD pinging, rfl,
    Reaches.of_exec_getD cancelledByCallback (by decide), by decide, by decide, by decide, ?_⟩
  intro conforms
  have aborted := conforms.aborted (by decide) .none (by decide)
  cases aborted

end Task

end Rstream.Nperf.Impl
