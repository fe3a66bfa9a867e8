import Rstream.Webtty.Server.Tending

/-!
# The process group of a session

The child of a session leads a process group of its own, and the session signals the
whole group. The number of a group may be given to another one as soon as its leader has
been reaped, so a signal after that would hit a stranger. `detail::process` keeps the
leader unreaped until the group is stopped: `waitid` with `WNOWAIT` only observes the
exit, then the group is killed, and `child::running` reaps the leader and the group is
released.

`Process` is the operating system's side of it: the leader may exit at any moment, and
the calls answer as they like, except that a leader that was reaped is not found any more.
`Supervised` is a session with its process. A handler asks for terminations first, which
the session records, and then at most once for the exit; that it does so is seen from the
answer making a difference (`recovers`).
-/

namespace Rstream.Webtty.Server

open List
open IoRstrm (ErrorCode)

/-- `ECHILD`, `EINTR` and `ESRCH`. -/
def echild : ErrorCode := ⟨10, .system⟩

@[inherit_doc echild]
def eintr : ErrorCode := ⟨4, .system⟩

@[inherit_doc echild]
def esrch : ErrorCode := ⟨3, .system⟩

/-- The leader of the group: it runs, it has exited, or it was reaped as well. -/
inductive Leader where
  | running | exited | reaped
  deriving DecidableEq, Repr

/-- The signals that are sent to the group. -/
inductive Signal where
  | hup | int | kill
  deriving DecidableEq, Repr

/-- A call of `kill` for the group, the leader at that time, and what the call answers. -/
structure Kill where
  signal : Signal
  leader : Leader
  answer : ErrorCode
  deriving DecidableEq, Repr

/-- What the system answers to the calls within one step. -/
structure Answers where
  kill : ErrorCode := .none
  waitid : ErrorCode := .none
  deriving DecidableEq, Repr

/-- The process group, the object `group` that owns it, and what was done to it. -/
structure Process where
  leader : Leader := .running
  /-- `group::released`. -/
  released : Bool := false
  kills : List Kill := []
  /-- The errors that `recover_exit` has reported. -/
  errors : List ErrorCode := []
  deriving DecidableEq, Repr

namespace Process

def requestTermination (answers : Answers) (usingPty force : Bool) (p : Process) :
    ErrorCode × Process :=
  if p.released then (.none, p)
  else
    let signal : Signal := if force then .kill else if usingPty then .hup else .int
    (if answers.kill.failed ∧ answers.kill ≠ esrch then answers.kill else .none,
      { p with kills := p.kills ++ [⟨signal, p.leader, answers.kill⟩] })

/-- `waitid`, which does not find a leader that was reaped. -/
def waitid (answers : Answers) (p : Process) : ErrorCode :=
  if p.leader = .reaped then echild else answers.waitid

def recoverExit (answers : Answers) (p : Process) : (Bool × ErrorCode) × Process :=
  let errno := p.waitid answers
  if errno.failed then
    let p := if errno = echild then { p with released := true } else p
    ((false, if errno = eintr then .none else errno), p)
  else if p.leader ≠ .exited then ((false, .none), p)
  else
    let (errorCode, p) := p.requestTermination answers false true
    if errorCode.failed then ((false, errorCode), p)
    else ((true, .none), { p with leader := .reaped, released := true })

/-- An error that `recover_exit` reports is recorded. -/
def report (errorCode : ErrorCode) (p : Process) : Process :=
  if errorCode.failed then { p with errors := p.errors ++ [errorCode] } else p

/-- `recover_exit`, with the error it reports recorded. -/
def recover (answers : Answers) (p : Process) : (Bool × ErrorCode) × Process :=
  let (answer, p) := p.recoverExit answers
  (answer, p.report answer.2)

/-- The requests of a handler, one after another, and the answer to the last. -/
def requestAll (answers : Answers) (usingPty : Bool) : List Bool → Process → ErrorCode × Process
  | [], p => (.none, p)
  | force :: forces, p =>
    let (errorCode, p) := p.requestTermination answers usingPty force
    if forces = [] then (errorCode, p) else requestAll answers usingPty forces p

/-! ## What the calls keep -/

/-- The whole group was killed before the leader was reaped. -/
def Recovered (p : Process) : Prop :=
  p.leader = .reaped ∧ ∃ kill ∈ p.kills, kill.signal = .kill ∧ kill.leader ≠ .reaped ∧
    (kill.answer.failed = false ∨ kill.answer = esrch)

/-- No signal was sent after the leader was reaped, and the group is released by then. It is
released earlier only when `recover_exit` has reported an error. -/
structure Safe (p : Process) : Prop where
  kills : ∀ kill ∈ p.kills, kill.leader ≠ .reaped
  reaped : p.leader = .reaped → p.released = true
  released : p.released = true → p.leader = .reaped ∨ p.errors ≠ []

variable {p : Process}

theorem safe_requestTermination (answers : Answers) (safe : Safe p) (usingPty force : Bool) :
    Safe (p.requestTermination answers usingPty force).2 := by
  rw [requestTermination]
  split
  · exact safe
  · rename_i held
    refine ⟨fun kill mem => ?_, safe.reaped, safe.released⟩
    rcases mem_append.mp mem with before | last
    · exact safe.kills kill before
    · rw [mem_singleton.mp last]
      exact fun reaped => held (safe.reaped reaped)

/-- A request changes neither the leader nor what was reported, and keeps the signals. -/
theorem requestTermination_keeps (answers : Answers) (usingPty force : Bool) (p : Process) :
    (p.requestTermination answers usingPty force).2.leader = p.leader ∧
      (p.requestTermination answers usingPty force).2.errors = p.errors ∧
      p.kills <+: (p.requestTermination answers usingPty force).2.kills := by
  rw [requestTermination]
  split
  · exact ⟨rfl, rfl, prefix_rfl⟩
  · exact ⟨rfl, rfl, prefix_append _ _⟩

theorem requestAll_keeps (answers : Answers) (usingPty : Bool) (forces : List Bool) (p : Process) :
    (Safe p → Safe (p.requestAll answers usingPty forces).2) ∧
      (p.requestAll answers usingPty forces).2.leader = p.leader ∧
      (p.requestAll answers usingPty forces).2.errors = p.errors ∧
      p.kills <+: (p.requestAll answers usingPty forces).2.kills := by
  induction forces generalizing p with
  | nil => exact ⟨fun safe => safe, rfl, rfl, prefix_rfl⟩
  | cons force forces ih =>
    have first := requestTermination_keeps answers usingPty force p
    have safe : Safe p → Safe (p.requestTermination answers usingPty force).2 :=
      fun safe => safe_requestTermination answers safe usingPty force
    obtain ⟨safeRest, leader, errors, kills⟩ :=
      ih (p.requestTermination answers usingPty force).2
    rw [requestAll]
    simp only
    split
    · exact ⟨safe, first⟩
    · exact ⟨fun before => safeRest (safe before), leader.trans first.1, errors.trans first.2.1,
        first.2.2.trans kills⟩

/-- What `recover_exit` does: `waitid` fails, the leader runs, the group cannot be killed, or
it is killed and the leader reaped. -/
theorem recoverExit_cases (answers : Answers) (p : Process) :
    (∃ errno, errno.failed = true ∧ p.recoverExit answers =
        ((false, if errno = eintr then .none else errno),
          if errno = echild then { p with released := true } else p)) ∨
      p.recoverExit answers = ((false, .none), p) ∨
      ((p.requestTermination answers false true).1.failed = true ∧ p.recoverExit answers =
        ((false, (p.requestTermination answers false true).1),
          (p.requestTermination answers false true).2)) ∨
      (p.leader = .exited ∧ (p.requestTermination answers false true).1.failed = false ∧
        p.recoverExit answers = ((true, .none),
          { (p.requestTermination answers false true).2 with
            leader := .reaped, released := true })) := by
  rw [recoverExit]
  simp only
  split
  · rename_i failed
    exact .inl ⟨_, failed, rfl⟩
  · split
    · exact .inr (.inl rfl)
    · rename_i exited
      rw [not_not] at exited
      split
      · rename_i failed
        exact .inr (.inr (.inl ⟨failed, rfl⟩))
      · rename_i passed
        exact .inr (.inr (.inr ⟨exited, Bool.eq_false_iff.mpr passed, rfl⟩))

theorem report_of_failed {errorCode : ErrorCode} (failed : errorCode.failed = true) :
    p.report errorCode = { p with errors := p.errors ++ [errorCode] } := if_pos failed

theorem safe_report {errorCode : ErrorCode} (failed : errorCode.failed = true)
    (kills : ∀ kill ∈ p.kills, kill.leader ≠ .reaped)
    (reaped : p.leader = .reaped → p.released = true) : Safe (p.report errorCode) := by
  rw [report_of_failed failed]
  refine ⟨kills, reaped, fun _ => .inr ?_⟩
  exact append_ne_nil_of_right_ne_nil _ (cons_ne_nil _ _)

/-- A leader that has exited and whose group `request_termination` has signalled. -/
theorem killed_of_passed (safe : Safe p) (exited : p.leader = .exited) {answers : Answers}
    (passed : (p.requestTermination answers false true).1.failed = false) :
    p.errors ≠ [] ∨ ∃ kill ∈ (p.requestTermination answers false true).2.kills,
      kill.signal = .kill ∧ kill.leader ≠ .reaped ∧
        (kill.answer.failed = false ∨ kill.answer = esrch) := by
  by_cases free : p.released = true
  · left
    rcases safe.released free with reaped | errors
    · rw [exited] at reaped
      cases reaped
    · exact errors
  · right
    rw [requestTermination, if_neg free] at passed ⊢
    refine ⟨_, mem_append_right _ (mem_singleton.mpr rfl), rfl, ?_, ?_⟩
    · show p.leader ≠ .reaped
      rw [exited]
      nofun
    · by_contra other
      rw [not_or, Bool.not_eq_false] at other
      simp only at passed
      rw [if_pos other, other.1] at passed
      cases passed

/-- An exit that `recover_exit` reports was found after the group was killed, unless the group
was released by an error before. -/
theorem recover_spec (safe : Safe p) (answers : Answers) :
    Safe (p.recover answers).2 ∧
      ((p.recover answers).1.1 = true → (p.recover answers).2.Recovered ∨ p.errors ≠ []) ∧
      ((p.recover answers).1.2.failed = true → (p.recover answers).2.errors ≠ []) := by
  have reported : ∀ (q : Process) {errorCode : ErrorCode}, errorCode.failed = true →
      (q.report errorCode).errors ≠ [] := by
    intro q errorCode failed
    rw [report_of_failed failed]
    exact append_ne_nil_of_right_ne_nil _ (cons_ne_nil _ _)
  have asked := safe_requestTermination answers safe false true
  rw [recover]
  rcases recoverExit_cases answers p with ⟨errno, failed, same⟩ | same | ⟨failed, same⟩ |
    ⟨exited, passed, same⟩
  · rw [same]
    by_cases interrupted : errno = eintr
    · have other : ¬ eintr = echild := by decide
      rw [if_pos interrupted, interrupted, if_neg other]
      exact ⟨safe, nofun, nofun⟩
    · rw [if_neg interrupted]
      refine ⟨safe_report failed ?_ ?_, nofun, fun _ => reported _ failed⟩
      · split
        · exact safe.kills
        · exact safe.kills
      · split
        · exact fun _ => rfl
        · exact safe.reaped
  · rw [same]
    exact ⟨safe, nofun, nofun⟩
  · rw [same]
    exact ⟨safe_report failed asked.kills asked.reaped, nofun, fun _ => reported _ failed⟩
  · rw [same]
    refine ⟨⟨asked.kills, fun _ => rfl, fun _ => .inl rfl⟩, fun _ => ?_, nofun⟩
    rcases killed_of_passed safe exited passed with errors | killed
    · exact .inr errors
    · exact .inl ⟨rfl, killed⟩

/-- What happened before remains so. -/
theorem recover_keeps (answers : Answers) (p : Process) :
    (p.leader = .reaped → (p.recover answers).2.leader = .reaped) ∧
      p.kills <+: (p.recover answers).2.kills ∧ p.errors <+: (p.recover answers).2.errors := by
  have reported : ∀ (q : Process) (errorCode : ErrorCode), (q.report errorCode).leader = q.leader ∧
      (q.report errorCode).kills = q.kills ∧ q.errors <+: (q.report errorCode).errors := by
    intro q errorCode
    rw [report]
    split
    · exact ⟨rfl, rfl, prefix_append _ _⟩
    · exact ⟨rfl, rfl, prefix_rfl⟩
  obtain ⟨leader, errors, kills⟩ := requestTermination_keeps answers false true p
  rw [recover]
  rcases recoverExit_cases answers p with ⟨errno, -, same⟩ | same | ⟨-, same⟩ | ⟨-, -, same⟩
  · rw [same]
    obtain ⟨leader, kills, errors⟩ := reported
      (if errno = echild then { p with released := true } else p)
      (if errno = eintr then .none else errno)
    simp only
    rw [leader, kills]
    by_cases lost : errno = echild
    · rw [if_pos lost] at errors ⊢
      exact ⟨fun reaped => reaped, prefix_rfl, errors⟩
    · rw [if_neg lost] at errors ⊢
      exact ⟨fun reaped => reaped, prefix_rfl, errors⟩
  · rw [same]
    exact ⟨fun reaped => reaped, prefix_rfl, prefix_rfl⟩
  · rw [same]
    obtain ⟨leaderToo, killsToo, errorsToo⟩ := reported
      (p.requestTermination answers false true).2 (p.requestTermination answers false true).1
    simp only
    rw [leaderToo, killsToo, leader]
    rw [errors] at errorsToo
    exact ⟨fun reaped => reaped, kills, errorsToo⟩
  · rw [same]
    refine ⟨fun _ => rfl, kills, ?_⟩
    show p.errors <+: (p.requestTermination answers false true).2.errors
    exact errors.symm ▸ prefix_rfl

end Process

end Rstream.Webtty.Server
