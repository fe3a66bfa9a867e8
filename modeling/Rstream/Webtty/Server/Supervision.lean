import Rstream.Webtty.Server.Process

/-!
# A session and its process group

In a run of a session and its process group, no signal is sent to the group after its
leader was reaped, and the run handler of a session that has started a child is invoked
only when the leader was reaped after the whole group was killed, or when `recover_exit`
has reported an error.

The first does not depend on the session: the group is released together with the reaping,
and `request_termination` leaves a released group alone. For the second, `m_child_done` is
set only by an exit that `recover_exit` has found, and the resources are closed only when
the child is done or `recover_exit` failed.
-/

namespace Rstream.Webtty.Server

open Library
open IoRstrm (ErrorCode)

/-- A session and the process group of its child. -/
structure Supervised where
  session : Session := {}
  process : Process := {}

/-- The leader exits, or a handler of the session runs; the system answers to its requests,
and then to its question for the exit. -/
inductive Occurrence where
  | exits
  | handler (event : Event) (world : World) (requested recovered : Answers)

/-! ## The question for the exit -/

namespace Session

end Session

namespace Supervised

variable (prims : ProofPrimitives) (settings : Settings)

/-- What a handler makes of an answer of `recover_exit`. -/
def outcome (s : Session) (event : Event) (world : World) (answer : Bool × ErrorCode) :
    Option (Bool × Bool) :=
  (s.step prims settings (event, { world with recoverExit := answer })).map fun t =>
    (t.childDone, t.resourcesClosed)

/-- The handler calls `recover_exit`: the answer makes a difference, as it is in
`m_child_done` when it is asked for. -/
def recovers (s : Session) (event : Event) (world : World) : Bool :=
  decide (outcome prims settings s event world (true, .none) ≠
      outcome prims settings s event world (false, .none)) ||
    decide (outcome prims settings s event world world.recoverExit ≠
      outcome prims settings s event world (false, .none))

/-- One occurrence; the answers of the world are the ones of the system. -/
def step (x : Supervised) : Occurrence → Option Supervised
  | .exits =>
    if x.process.leader = .running then
      some { x with process := { x.process with leader := .exited } }
    else none
  | .handler event world requested recovered =>
    match x.session.step prims settings (event, world) with
    | none => none
    | some session =>
      let forces := session.terminations.drop x.session.terminations.length
      let (answer, process) := x.process.requestAll requested
        (decide (x.session.stream = some Backend.tty)) forces
      if forces ≠ [] ∧ world.requestTermination ≠ answer then none
      else if recovers prims settings x.session event world then
        let (answer, process) := process.recover recovered
        if world.recoverExit ≠ answer then none else some { session, process }
      else some { session, process }

/-- What becomes of the process while a handler of the session runs. -/
structure Served (x : Supervised) (event : Event) (world : World) (y : Supervised) : Prop where
  taken : x.session.step prims settings (event, world) = some y.session
  process : ∃ process, (x.process.Safe → process.Safe) ∧ process.leader = x.process.leader ∧
    process.errors = x.process.errors ∧ x.process.kills <+: process.kills ∧
    ((recovers prims settings x.session event world = true ∧ ∃ answers,
        world.recoverExit = (process.recover answers).1 ∧
        y.process = (process.recover answers).2) ∨
      (recovers prims settings x.session event world = false ∧ y.process = process))

variable {prims settings} {x y : Supervised}

theorem served_of_step {event : Event} {world : World} {requested recovered : Answers}
    (taken : step prims settings x (.handler event world requested recovered) = some y) :
    Served prims settings x event world y := by
  rw [step] at taken
  split at taken
  · cases taken
  · rename_i session stepped
    obtain ⟨safe, leader, errors, kills⟩ := Process.requestAll_keeps requested
      (decide (x.session.stream = some Backend.tty))
      (session.terminations.drop x.session.terminations.length) x.process
    simp only at taken
    split at taken
    · cases taken
    · split at taken
      · rename_i asks
        split at taken
        · cases taken
        · rename_i agreed
          cases taken
          exact ⟨stepped, _, safe, leader, errors, kills,
            .inl ⟨asks, recovered, Classical.not_not.mp agreed, rfl⟩⟩
      · rename_i silent
        cases taken
        exact ⟨stepped, _, safe, leader, errors, kills, .inr ⟨Bool.eq_false_iff.mpr silent, rfl⟩⟩

/-! ## What a step of the session means for the child -/

/-- Early sessions have no child, and resources are closed at the end only. -/
structure Staged (s : Session) : Prop where
  live : s.Live
  early : s.state = .null ∨ s.state = .connecting → s.child = false
  shut : s.resourcesClosed = true → s.state = .disconnected
  handled : s.handler = false → s.state ≠ .null → s.resourcesClosed = true

section

variable {s t : Session} {event : Event} {world : World}

/-- The child is done when it was before, or `recover_exit` has found it exited. -/
theorem childDone_of_step (staged : Staged s)
    (taken : s.step prims settings (event, world) = some t) :
    (s.childDone = true → t.childDone = true) ∧
      (t.childDone = true → s.childDone = true ∨ world.Exited) := by
  rcases Session.step_tended prims settings world staged.live taken with
    tended | ⟨-, tended⟩ | ⟨-, opens⟩
  · exact ⟨tended.done, tended.exited⟩
  · exact ⟨tended.done, tended.exited⟩
  · obtain ⟨payloadCrypto, backend, launches, tended⟩ := opens.tended
    refine ⟨tended.done, fun done => ?_⟩
    rcases tended.exited done with before | exited
    · exact .inl before
    · cases exited.1

/-- The resources of a session with a child are closed when the child is done or
`recover_exit` has failed. -/
theorem resourcesClosed_of_step (staged : Staged s)
    (taken : s.step prims settings (event, world) = some t) (closed : t.resourcesClosed = true)
    (child : t.child = true) :
    (s.resourcesClosed = true ∧ s.child = true) ∨ t.childDone = true ∨
      (s.child = true ∧ world.recoverExit.2.failed = true) := by
  rcases Session.step_tended prims settings world staged.live taken with
    tended | ⟨null, tended⟩ | ⟨-, opens⟩
  · have before : s.child = true := tended.child.symm.trans child
    rcases tended.released closed with earlier | ⟨-, none | done | failed⟩
    · exact .inl ⟨earlier, before⟩
    · cases before.symm.trans none
    · exact .inr (.inl done)
    · exact .inr (.inr ⟨before, failed⟩)
  · have none : t.child = false := tended.child.trans (staged.early (.inl null))
    cases child.symm.trans none
  · obtain ⟨payloadCrypto, backend, launches, tended⟩ := opens.tended
    rcases tended.released closed with earlier | ⟨-, none | done | failed⟩
    · have earlier : s.resourcesClosed = true := earlier
      cases (staged.shut earlier).symm.trans opens.1
    · cases none
    · exact .inr (.inl done)
    · cases failed

theorem staged_step (staged : Staged s)
    (taken : s.step prims settings (event, world) = some t) : Staged t := by
  have live := Session.step_live prims settings staged.live taken
  rcases Session.step_tended prims settings world staged.live taken with
    tended | ⟨null, tended⟩ | ⟨-, opens⟩
  · refine ⟨live, fun early => ?_, fun closed => ?_, fun unset running => ?_⟩
    · rw [tended.child]
      rcases early with null | connecting
      · exact staged.early (.inl (tended.proceeds.back null (by decide)))
      · exact staged.early (.inr (tended.proceeds.back connecting (by decide)))
    · rcases tended.released closed with before | ⟨down, -⟩
      · exact tended.proceeds.disconnected (staged.shut before)
      · exact down
    · rcases tended.handler unset with before | closed
      · exact tended.closed (staged.handled before fun null => running (tended.proceeds.null null))
      · exact closed
  · refine ⟨live, fun _ => tended.child.trans (staged.early (.inl null)), fun closed => ?_,
      fun unset _ => ?_⟩
    · rcases tended.released closed with before | ⟨down, -⟩
      · have before : s.resourcesClosed = true := before
        cases (staged.shut before).symm.trans null
      · exact down
    · rcases tended.handler unset with before | closed
      · cases before
      · exact closed
  · obtain ⟨payloadCrypto, backend, launches, tended⟩ := opens.tended
    have connected : ∀ {state : SessionState}, t.state = state →
        state ≠ .disconnecting ∧ state ≠ .disconnected → state = .connected :=
      fun here running => (tended.proceeds.back here running).symm
    refine ⟨live, fun early => ?_, fun closed => ?_, fun unset _ => ?_⟩
    · rcases early with null | connecting
      · cases connected null (by decide)
      · cases connected connecting (by decide)
    · rcases tended.released closed with before | ⟨down, -⟩
      · have before : s.resourcesClosed = true := before
        cases (staged.shut before).symm.trans opens.1
      · exact down
    · rcases tended.handler unset with before | closed
      · have before : s.handler = false := before
        have shut := staged.handled before (by rw [opens.1]; nofun)
        cases (staged.shut shut).symm.trans opens.1
      · exact closed

end

/-! ## Runs -/

/-- The group was killed and its leader reaped, or `recover_exit` has reported an error. -/
def Accounted (p : Process) : Prop := p.Recovered ∨ p.errors ≠ []

theorem Accounted.mono {p q : Process} (accounted : Accounted p)
    (leader : p.leader = .reaped → q.leader = .reaped) (kills : p.kills <+: q.kills)
    (errors : p.errors <+: q.errors) : Accounted q := by
  rcases accounted with ⟨reaped, kill, mem, killed⟩ | reported
  · exact .inl ⟨leader reaped, kill, kills.subset mem, killed⟩
  · right
    intro none
    rw [none] at errors
    exact reported (List.prefix_nil.mp errors)

theorem recovers_of_step {s t : Session} {event : Event} {world : World} (staged : Staged s)
    (taken : s.step prims settings (event, world) = some t)
    (changed : (t.childDone = true ∧ s.childDone = false) ∨
      (t.resourcesClosed = true ∧ s.resourcesClosed = false ∧ s.child = true ∧
        t.childDone = false)) : recovers prims settings s event world = true := by
  have actual : outcome prims settings s event world world.recoverExit =
      some (t.childDone, t.resourcesClosed) := by
    show (s.step prims settings (event, world)).map _ = _
    rw [taken]
    rfl
  -- With the answer that the child runs, neither member would have changed.
  have other : outcome prims settings s event world (false, .none) ≠
      some (t.childDone, t.resourcesClosed) := by
    intro same
    obtain ⟨u, takenToo, equal⟩ := Option.map_eq_some_iff.mp same
    obtain ⟨doneToo, closedToo⟩ := Prod.mk.inj equal
    obtain ⟨-, exits⟩ := childDone_of_step staged takenToo
    have undone : s.childDone = false → u.childDone = false := by
      intro before
      by_contra done
      rw [Bool.not_eq_false] at done
      rcases exits done with earlier | exited
      · cases before.symm.trans earlier
      · cases exited.1
    rcases changed with ⟨done, before⟩ | ⟨closed, before, child, open_⟩
    · cases (undone before).symm.trans (doneToo.trans done)
    · have still : u.child = true := by
        rcases Session.step_tended prims settings _ staged.live takenToo with
          tended | ⟨null, -⟩ | ⟨-, opens⟩
        · exact tended.child.trans child
        · cases child.symm.trans (staged.early (.inl null))
        · cases child.symm.trans (staged.early (.inr opens.1))
      rcases resourcesClosed_of_step staged takenToo (closedToo.trans closed) still with
        ⟨earlier, -⟩ | done | ⟨-, failed⟩
      · cases before.symm.trans earlier
      · cases open_.symm.trans (doneToo.symm.trans done)
      · cases failed
  rw [recovers, actual, Bool.or_eq_true, decide_eq_true_iff, decide_eq_true_iff]
  exact .inr (Ne.symm other)

/-- What holds between two occurrences. -/
structure Sound (x : Supervised) : Prop where
  staged : Staged x.session
  safe : x.process.Safe
  done : x.session.childDone = true → Accounted x.process
  closed : x.session.resourcesClosed = true → x.session.child = true → Accounted x.process

theorem Served.keeps {event : Event} {world : World}
    (served : Served prims settings x event world y) (safe : x.process.Safe) :
    y.process.Safe ∧ (Accounted x.process → Accounted y.process) := by
  obtain ⟨process, safely, leader, errors, kills, ⟨-, answers, -, same⟩ | ⟨-, same⟩⟩ :=
    served.process
  · obtain ⟨leaderToo, killsToo, errorsToo⟩ := process.recover_keeps answers
    rw [same]
    refine ⟨(Process.recover_spec (safely safe) answers).1, fun accounted => ?_⟩
    rw [errors] at errorsToo
    exact accounted.mono (fun reaped => leaderToo (leader.trans reaped)) (kills.trans killsToo)
      errorsToo
  · rw [same]
    refine ⟨safely safe, fun accounted => ?_⟩
    exact accounted.mono (fun reaped => leader.trans reaped) kills (errors.symm ▸ List.prefix_rfl)

theorem Served.accounted {event : Event} {world : World}
    (served : Served prims settings x event world y) (safe : x.process.Safe)
    (asks : recovers prims settings x.session event world = true)
    (cause : world.Exited ∨ world.recoverExit.2.failed = true) : Accounted y.process := by
  obtain ⟨process, safely, -, -, -, ⟨-, answers, agreed, same⟩ | ⟨silent, -⟩⟩ := served.process
  · obtain ⟨-, exits, fails⟩ := Process.recover_spec (safely safe) answers
    obtain ⟨-, -, errors⟩ := process.recover_keeps answers
    rw [agreed] at cause
    rw [same]
    rcases cause with exited | failed
    · rw [World.Exited, agreed] at exited
      rcases exits exited.1 with recovered | before
      · exact .inl recovered
      · right
        intro none
        rw [none] at errors
        exact before (List.prefix_nil.mp errors)
    · exact .inr (fails failed)
  · cases asks.symm.trans silent

theorem sound_handler {event : Event} {world : World} (sound : Sound x)
    (served : Served prims settings x event world y) : Sound y := by
  obtain ⟨safe, keeps⟩ := served.keeps sound.safe
  obtain ⟨-, exits⟩ := childDone_of_step sound.staged served.taken
  have done : y.session.childDone = true → Accounted y.process := by
    intro done
    by_cases before : x.session.childDone = true
    · exact keeps (sound.done before)
    · rw [Bool.not_eq_true] at before
      have exited := (exits done).resolve_left (Bool.eq_false_iff.mp before)
      exact served.accounted sound.safe
        (recovers_of_step sound.staged served.taken (.inl ⟨done, before⟩)) (.inl exited)
  refine ⟨staged_step sound.staged served.taken, safe, done, fun closed child => ?_⟩
  by_cases finished : y.session.childDone = true
  · exact done finished
  · rw [Bool.not_eq_true] at finished
    rcases resourcesClosed_of_step sound.staged served.taken closed child with
      ⟨before, childBefore⟩ | finally_ | ⟨childBefore, failed⟩
    · exact keeps (sound.closed before childBefore)
    · cases finished.symm.trans finally_
    · by_cases before : x.session.resourcesClosed = true
      · exact keeps (sound.closed before childBefore)
      · rw [Bool.not_eq_true] at before
        exact served.accounted sound.safe (recovers_of_step sound.staged served.taken
          (.inr ⟨closed, before, childBefore, finished⟩)) (.inr failed)

theorem sound_exits (sound : Sound x) (running : x.process.leader = .running) :
    Sound { x with process := { x.process with leader := .exited } } := by
  have unreaped : ∀ {p : Process}, p.leader = .running → p.leader ≠ .reaped := by
    intro p running reaped
    rw [running] at reaped
    cases reaped
  have keeps : Accounted x.process →
      Accounted { x.process with leader := .exited } := by
    rintro (⟨reaped, -⟩ | errors)
    · exact absurd reaped (unreaped running)
    · exact .inr errors
  refine ⟨sound.staged, ⟨sound.safe.kills, nofun, fun free => ?_⟩, fun done => ?_,
    fun closed child => ?_⟩
  · rcases sound.safe.released free with reaped | errors
    · exact absurd reaped (unreaped running)
    · exact .inr errors
  · exact keeps (sound.done done)
  · exact keeps (sound.closed closed child)

theorem sound_step {occurrence : Occurrence} (sound : Sound x)
    (taken : step prims settings x occurrence = some y) : Sound y := by
  cases occurrence with
  | exits =>
    obtain ⟨running, ⟨⟩⟩ := Option.ite_none_right_eq_some.mp taken
    exact sound_exits sound running
  | handler event world requested recovered =>
    exact sound_handler sound (served_of_step taken)

theorem sound_init : Sound {} where
  staged := ⟨Session.live_init, fun _ => rfl, nofun, fun _ running => absurd rfl running⟩
  safe := ⟨nofun, nofun, nofun⟩
  done := nofun
  closed := nofun

/-- **Process-group safety.** In every run no signal is sent to the group after its leader was
reaped; and when the run handler of a session that has started a child was invoked, the
leader was reaped after a `SIGKILL` of the whole group, or `recover_exit` has reported an
error. -/
theorem group_safe (prims : ProofPrimitives) (settings : Settings) (x : Supervised)
    (reaches : Reaches (step prims settings) {} x) :
    (∀ kill ∈ x.process.kills, kill.leader ≠ .reaped) ∧
      (x.session.child = true → x.session.handler = false →
        x.process.Recovered ∨ x.process.errors ≠ []) := by
  have sound : Sound x :=
    reaches.invariant sound_init fun _ _ _ sound _ taken => sound_step sound taken
  refine ⟨sound.safe.kills, fun child unset => sound.closed ?_ child⟩
  refine sound.staged.handled unset fun null => ?_
  cases child.symm.trans (sound.staged.early (.inl null))

/-- A client opens a session, it is cancelled and its transport fails; the leader exits after
the group was killed, and is reaped. -/
def cancelledRun : List Occurrence :=
  [.handler .run {} {} {},
    .handler (.received .none (some (.open_ { config := some { cmdArgs := [[115, 104]] } }))) {} {} {},
    .handler .cancel {} {} {}, .handler (.received .operationAborted none) {} {} {},
    .handler .queueCancelled {} {} {}, .exits, .handler .expireChildExit {} {} {},
    .handler .childExitTimer { recoverExit := (true, .none), exitCode := 9 } {} {}]

/-- The session and its process at the end of the run. -/
def reapedSession : Supervised :=
  (exec (step sampleProofPrims {}) {} cancelledRun).getD {}

theorem reapedSession_group_safe :
    reapedSession.process.kills = [⟨.int, .running, .none⟩, ⟨.kill, .running, .none⟩,
        ⟨.kill, .exited, .none⟩] ∧
      reapedSession.session.handler = false ∧
      (reapedSession.process.Recovered ∨ reapedSession.process.errors ≠ []) := by
  have executed : exec (step sampleProofPrims {}) {} cancelledRun = some reapedSession :=
    rfl
  have safe := group_safe sampleProofPrims {} reapedSession
    (Run.of_exec (goodAlong_any _ _ _) executed)
  exact ⟨rfl, rfl, safe.2 rfl rfl⟩

end Supervised

end Rstream.Webtty.Server
