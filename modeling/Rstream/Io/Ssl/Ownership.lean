import Rstream.Io.Ssl.Ledger

/-!
# Who owns the entry of an accept in flight

An accept of the next layer writes the accepted socket through references into its entry,
and only the map owns the entry. The map keeps it while the acceptor is open. `close`
erases every entry at once, also the one of an accept that has not completed, and an
accept that has already succeeded in the operating system cannot be cancelled any more:
its `complete` writes into an entry that is gone. Nothing else separates an accept from
its entry.
-/

namespace Rstream.Io.Ssl.Acceptor

open Library
open IoRstrm

variable {s t : Acceptor}

/-- `complete` has run, so that the operation no longer refers to its entry. -/
def AcceptStage.Over (stage : AcceptStage) : Prop := ∃ cause, stage = .posted cause

/-- Every accept that still refers to its entry finds it in the map, and no socket was
written to an erased entry. -/
def Owned (s : Acceptor) : Prop :=
  (∀ accept ∈ s.nextAccepts, ¬ AcceptStage.Over accept.stage →
    ∃ entry ∈ s.upstreamOps, entry.id = accept.id) ∧ s.strayWrites = 0

/-- `close` does not run while an accept of the next layer has yet to complete. -/
def Undisturbed (s : Acceptor) (event : Event) : Prop :=
  event = .close → ∀ accept ∈ s.nextAccepts, AcceptStage.Over accept.stage

/-- What holds along undisturbed runs. -/
structure Guarded (s : Acceptor) : Prop where
  kept : Kept s
  past : s.closed = true → ∀ accept ∈ s.nextAccepts, AcceptStage.Over accept.stage
  clean : s.strayWrites = 0

theorem Guarded.owned (guarded : Guarded s) : Owned s := by
  refine ⟨?_, guarded.clean⟩
  intro accept mem running
  obtain closed | isOpen := Bool.eq_false_or_eq_true s.closed
  · exact absurd (guarded.past closed accept mem) running
  · obtain ⟨entry, present, same, -⟩ := (guarded.kept.opened isOpen).1.awaited accept mem
    exact ⟨entry, present, same⟩

/-! ## What the handlers leave alone -/

/-- Neither the flag of `close` nor the writes to erased entries change. -/
def Steady (s t : Acceptor) : Prop := t.closed = s.closed ∧ t.strayWrites = s.strayWrites

theorem steady_doAccept (next : String) (s : Acceptor) : Steady s (s.doAccept next) := by
  rw [Acceptor.doAccept]
  split
  · exact ⟨rfl, rfl⟩
  · split <;> exact ⟨rfl, rfl⟩

theorem Steady.trans {u : Acceptor} (first : Steady s t) (second : Steady t u) : Steady s u :=
  ⟨second.1.trans first.1, second.2.trans first.2⟩

theorem steady_onHandshake (id : String) (errorCode : ErrorCode) (next : String) (s : Acceptor) :
    Steady s (s.onHandshake id errorCode next) := by
  rw [Acceptor.onHandshake]
  split
  · exact ⟨rfl, rfl⟩
  · split
    · exact ⟨rfl, rfl⟩
    · apply Steady.trans _ (steady_doAccept _ _)
      split
      · split <;> exact ⟨rfl, rfl⟩
      · exact ⟨rfl, rfl⟩

theorem steady_doHandshake (id : String) (setup : ErrorCode) (next : String) (s : Acceptor) :
    Steady s (s.doHandshake id setup next) := by
  rw [doHandshake]
  split
  · exact ⟨rfl, rfl⟩
  · apply Steady.trans _ (steady_doAccept _ _)
    split
    · exact steady_onHandshake _ _ _ _
    · exact ⟨rfl, rfl⟩

theorem strayWrites_onError (errorCode : ErrorCode) (s : Acceptor) :
    (s.onError errorCode).strayWrites = s.strayWrites ∧
      (s.onError errorCode).nextAccepts = s.nextAccepts := by
  rw [onError]
  split
  · exact ⟨rfl, rfl⟩
  · simp only
    split <;> exact ⟨rfl, rfl⟩

theorem steady_asyncAcceptInternal (op : Nat) (next : String) (s : Acceptor) :
    Steady s (s.asyncAcceptInternal op next) ∧
      (s.closed = true → (s.asyncAcceptInternal op next).nextAccepts = s.nextAccepts) := by
  obtain ⟨errorCode, -, same⟩ | ⟨isOpen, -, ⟨entry, -, same⟩ | ⟨-, same⟩⟩ :=
    asyncAcceptInternal_cases op next s
  · rw [same]
    exact ⟨⟨rfl, rfl⟩, fun _ => rfl⟩
  · rw [same]
    exact ⟨⟨rfl, rfl⟩, fun _ => rfl⟩
  · rw [same]
    exact ⟨steady_doAccept _ _, fun closed => absurd (closed.symm.trans isOpen) nofun⟩

/-! ## Steps and runs -/

theorem not_over_waiting : ¬ AcceptStage.Over .waiting := by
  rintro ⟨cause, same⟩
  cases same

theorem guarded_step {event : Event} (guarded : Guarded s) (undisturbed : Undisturbed s event)
    (taken : s.step event = some t) : Guarded t := by
  have kept := kept_step guarded.kept taken
  suffices rest : (t.closed = true → ∀ accept ∈ t.nextAccepts, AcceptStage.Over accept.stage) ∧
      t.strayWrites = 0 from ⟨kept, rest.1, rest.2⟩
  cases event with
  | asyncAccept id =>
    obtain ⟨-, ⟨⟩⟩ := Option.ite_none_left_eq_some.mp taken
    obtain ⟨⟨closed, stray⟩, accepts⟩ :=
      steady_asyncAcceptInternal s.calls id { s with calls := s.calls + 1 }
    refine ⟨?_, stray.trans guarded.clean⟩
    intro isClosed
    have before : s.closed = true := closed.symm.trans isClosed
    rw [accepts before]
    exact guarded.past before
  | close =>
    cases taken
    obtain ⟨stray, accepts⟩ := strayWrites_onError Error.Code.operationAborted s
    refine ⟨fun _ => ?_, stray.trans guarded.clean⟩
    show ∀ accept ∈ (s.onError Error.Code.operationAborted).nextAccepts, _
    rw [accepts]
    exact undisturbed rfl
  | accepted index endpoint =>
    rw [step] at taken
    split at taken
    · obtain ⟨isOpen, ⟨⟩⟩ := Option.ite_none_left_eq_some.mp taken
      exact ⟨fun closed => absurd closed isOpen, guarded.clean⟩
    · cases taken
  | acceptFailed index errorCode =>
    rw [step] at taken
    split at taken
    · rename_i id current
      obtain ⟨-, ⟨⟩⟩ := Option.ite_none_right_eq_some.mp taken
      refine ⟨fun closed => ?_, guarded.clean⟩
      exact absurd (guarded.past closed _ (mem_of_taken current)) not_over_waiting
    · cases taken
  | complete index configured =>
    rw [step] at taken
    split at taken
    · rename_i accept current
      obtain ⟨⟨cause, after⟩, completed, ⟨⟩⟩ := Option.map_eq_some_iff.mp taken
      have running : ¬ AcceptStage.Over accept.stage := by
        rintro ⟨posted, stage⟩
        rw [Acceptor.complete, stage] at completed
        cases completed
      have isOpen : s.closed = false := by
        by_contra closed
        rw [Bool.not_eq_false] at closed
        exact running (guarded.past closed accept (mem_of_taken current))
      obtain ⟨entry, present, same⟩ :=
        guarded.owned.1 accept (mem_of_taken current) running
      have owned : s.upstreamOps.any (·.id = accept.id) = true :=
        List.any_eq_true.mpr ⟨entry, present, decide_eq_true same⟩
      obtain ⟨socket, endpoint, -, rfl, rfl⟩ | ⟨rfl, -⟩ := complete_cases completed
      · have stored : Steady s (s.store accept.id socket endpoint) := by
          rw [store, if_pos owned]
          exact ⟨rfl, rfl⟩
        exact ⟨fun closed => absurd ((stored.1.trans isOpen).symm.trans closed) (by rintro ⟨⟩),
          stored.2.trans guarded.clean⟩
      · exact ⟨fun closed => absurd (isOpen.symm.trans closed) (by rintro ⟨⟩), guarded.clean⟩
    · cases taken
  | onAccept index setup id =>
    rw [step] at taken
    split at taken
    · rename_i accepted cause current
      obtain ⟨-, ⟨⟩⟩ := Option.ite_none_left_eq_some.mp taken
      obtain ⟨one, rfl⟩ := eq_singleton_of_taken guarded.kept.single current
      rw [one, List.eraseIdx_cons_zero, onAccept]
      split
      · exact ⟨fun _ _ mem => absurd mem List.not_mem_nil, guarded.clean⟩
      · rename_i isOpen
        split
        · obtain ⟨stray, accepts⟩ := strayWrites_onError cause
            { s with nextAccepts := [], ongoingAcceptOp := false }
          refine ⟨fun _ => ?_, stray.trans guarded.clean⟩
          rw [accepts]
          exact fun _ mem => absurd mem List.not_mem_nil
        · obtain ⟨closed, stray⟩ := steady_doHandshake accepted setup id
            { s with nextAccepts := [], ongoingAcceptOp := false }
          exact ⟨fun isClosed => absurd (closed.symm.trans isClosed) isOpen,
            stray.trans guarded.clean⟩
    · cases taken
  | onHandshake index errorCode id =>
    rw [step] at taken
    split at taken
    · rename_i handshake current
      obtain ⟨-, ⟨⟩⟩ := Option.ite_none_left_eq_some.mp taken
      refine ⟨?_, (steady_onHandshake _ _ _ _).2.trans guarded.clean⟩
      intro closed
      rw [(steady_onHandshake _ _ _ _).1] at closed
      have before : s.closed = true := closed
      rw [Acceptor.onHandshake, if_pos before]
      exact guarded.past before
    · cases taken

/-- In every run in which `close` waits for the accept of the next layer, every accept in
flight finds its entry and no socket is written to an erased one. -/
theorem owned_of_undisturbed (maxOngoingUpstreamOps : Option Nat) (s : Acceptor)
    (run : Run step Undisturbed { maxOngoingUpstreamOps } s) : Owned s := by
  have guarded : Guarded s := by
    refine run.invariant ?_ fun _ _ _ guarded undisturbed taken =>
      guarded_step guarded undisturbed taken
    exact ⟨kept_of_run maxOngoingUpstreamOps .refl, nofun, rfl⟩
  exact guarded.owned

/-- A connection is accepted and handed over, and the acceptor is closed while the next
accept has failed and `on_accept` is posted. -/
def acceptThenClose : List Event :=
  [.asyncAccept "a", .accepted 0 "peer", .complete 0 .none, .onAccept 0 .none "b",
    .onHandshake 0 .none "c", .acceptFailed 0 .operationAborted, .complete 0 .none, .close]

theorem owned_acceptThenClose : Owned ((exec step {} acceptThenClose).getD {}) :=
  owned_of_undisturbed none _ (Run.of_exec_getD acceptThenClose
    ⟨nofun, nofun, nofun, nofun, nofun, nofun, nofun, fun _ accept mem => by
      cases List.mem_singleton.mp mem
      exact ⟨_, rfl⟩, trivial⟩ (by decide))

/-- The acceptor is closed after the operating system has accepted a connection and before
the completion has run. -/
def closeInBetween : List Event :=
  [.asyncAccept "a", .accepted 0 "peer", .close, .complete 0 .none]

/-- The accepted socket is written to an entry that was erased. -/
theorem not_owned_closeInBetween :
    Reaches step {} ((exec step {} closeInBetween).getD {}) ∧
      ((exec step {} closeInBetween).getD {}).strayWrites = 1 ∧
      ¬ Owned ((exec step {} closeInBetween).getD {}) := by
  have stray : ((exec step {} closeInBetween).getD {}).strayWrites = 1 := by decide
  refine ⟨Reaches.of_exec_getD closeInBetween (by decide), stray, ?_⟩
  rintro ⟨-, clean⟩
  rw [stray] at clean
  cases clean

end Rstream.Io.Ssl.Acceptor
