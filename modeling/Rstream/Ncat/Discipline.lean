import Rstream.Library.Counting
import Rstream.Ncat.SessionExec

/-!
# The operations of an exec session

The loop of the input and the two loops of the outputs each have one operation in flight
at most, a read or a write: that is `Disciplined`, and it holds in every run. It bounds
the reads of the socket and of the pipes and the writes to the standard input, and it
keeps a buffer from being read into while it is written from.

The two loops of the outputs write to the same socket, and nothing keeps their writes
apart. When a chunk of one output arrives while the chunk of the other is being written,
two composed writes are in flight on one socket and their pieces interleave. In the runs
where that does not happen (`Exclusive`) there is one write at a time, and the peer
receives the chunks one after another.
-/

namespace Rstream.Ncat.SessionExec

open Option
open Function (update update_of_ne update_self)
open Library
open IoRstrm

variable {s t : SessionExec}

/-! ## What the handlers do -/

/-- The session after `on_close`. -/
def ended (cause errorCode : ErrorCode) (s : SessionExec) : SessionExec :=
  { s with
    state := .closed
    errorCode
    stdinOpen := false
    exits := if s.alive then s.exits ++ [.none] else s.exits
    alive := false
    stdinReader := false
    outputs := fun _ => false
    completions := if s.handler then s.completions ++ [cause] else s.completions
    handler := false
    bufferReadDownstream := []
    bufferReadChild := fun _ => [] }

theorem onClose_eq (errorCode : ErrorCode) (before : s.state ≠ .closed) :
    ∃ cause code, s.onClose errorCode = s.ended cause code := by
  rw [onClose, if_neg before]
  exact ⟨_, s.errorCode, rfl⟩

variable {errorCode : ErrorCode} {event : Event} {stream : ChildStream}

theorem doClose_eq (closing : s.state ≠ .closing) (closed : s.state ≠ .closed) :
    ∃ cause code, s.doClose errorCode = s.ended cause code := by
  rw [doClose, if_neg (by tauto)]
  simp only
  split <;> exact ⟨_, _, rfl⟩

theorem onError_eq (failed : errorCode.failed = true) (running : s.state = .running) :
    ∃ cause code, s.onError errorCode = s.ended cause code := by
  rw [onError, if_pos failed]
  exact doClose_eq (by rw [running]; nofun) (by rw [running]; nofun)

theorem onReadDownstream_cases (errorCode : ErrorCode) (bytes : List UInt8) (s : SessionExec) :
    s.onReadDownstream errorCode bytes = s ∨ s.state = .running ∧
      ((errorCode.failed = true ∧
          (isEofError errorCode = true → s.downstreamHalfClose = true →
            s.eos .stdOut = true ∧ s.eos .stdErr = true) ∧
          ∃ cause code, s.onReadDownstream errorCode bytes = s.ended cause code) ∨
        s.onReadDownstream errorCode bytes = { s with stdinOpen := false } ∨
        (errorCode.failed = false ∧ s.onReadDownstream errorCode bytes =
          { s with bufferReadDownstream := bytes, writesChild := s.writesChild ++ [bytes] })) := by
  rw [onReadDownstream]
  by_cases running : s.state = .running
  · rw [if_neg (not_not.mpr running)]
    have unclosed : s.state ≠ .closed := by
      rw [running]
      nofun
    split
    · rename_i failed
      right
      refine ⟨running, ?_⟩
      split
      · split
        · rename_i full
          obtain ⟨cause, code, same⟩ := onClose_eq .none unclosed
          exact .inl ⟨failed, fun _ half => absurd half full, cause, code, same⟩
        · simp only
          split
          · rename_i both
            obtain ⟨cause, code, same⟩ := onClose_eq (s := { s with stdinOpen := false })
              .none unclosed
            exact .inl ⟨failed, fun _ _ => both, cause, code, same⟩
          · exact .inr (.inl rfl)
      · rename_i other
        obtain ⟨cause, code, same⟩ := onError_eq failed running
        exact .inl ⟨failed, fun isEof => absurd isEof other, cause, code, same⟩
    · rename_i passed
      split
      · rename_i going
        right
        refine ⟨running, .inr (.inr ⟨Bool.eq_false_iff.mpr passed, ?_⟩)⟩
        rw [doWriteChild, if_neg]
        rintro (other | stopped)
        · exact other running
        · exact going stopped
      · exact .inl rfl
  · rw [if_pos running]
    exact .inl rfl

theorem onWriteChild_cases (errorCode : ErrorCode) (s : SessionExec) :
    s.onWriteChild errorCode = s ∨ s.state = .running ∧
      ((errorCode.failed = true ∧ ∃ cause code, s.onWriteChild errorCode = s.ended cause code) ∨
        s.onWriteChild errorCode = { s with stopReadDownstream := true } ∨
        (errorCode.failed = false ∧ s.onWriteChild errorCode =
          { s with readsDownstream := s.readsDownstream + 1 })) := by
  rw [onWriteChild]
  by_cases running : s.state = .running
  · rw [if_neg (not_not.mpr running)]
    split
    · rename_i failed
      right
      refine ⟨running, ?_⟩
      split
      · exact .inr (.inl rfl)
      · exact .inl ⟨failed, onError_eq failed running⟩
    · rename_i passed
      rw [doReadDownstream]
      split
      · exact .inl rfl
      · exact .inr ⟨running, .inr (.inr ⟨Bool.eq_false_iff.mpr passed, rfl⟩)⟩
  · rw [if_pos running]
    exact .inl rfl

theorem onReadChild_cases (errorCode : ErrorCode) (bytes : List UInt8) (stream : ChildStream)
    (s : SessionExec) :
    (s.state ≠ .running ∧ s.onReadChild errorCode bytes stream = s) ∨ s.state = .running ∧
      ((errorCode.failed = true ∧
          (isEofError errorCode = true → update s.eos stream true .stdOut = true ∧
            update s.eos stream true .stdErr = true) ∧
          ∃ cause code, s.onReadChild errorCode bytes stream =
            ended cause code { s with
              eos := if isEofError errorCode then update s.eos stream true
                else s.eos }) ∨
        (isEofError errorCode = true ∧ s.onReadChild errorCode bytes stream =
          { s with eos := update s.eos stream true }) ∨
        (errorCode.failed = false ∧ s.onReadChild errorCode bytes stream =
          { s with
            bufferReadChild := update s.bufferReadChild stream bytes
            writesDownstream := s.writesDownstream ++ [(stream, bytes)]
            chunks := s.chunks ++ [(stream, bytes)] })) := by
  rw [onReadChild]
  by_cases running : s.state = .running
  · rw [if_neg (not_not.mpr running)]
    have unclosed : s.state ≠ .closed := by
      rw [running]
      nofun
    right
    refine ⟨running, ?_⟩
    split
    · rename_i failed
      by_cases isEof : isEofError errorCode = true
      · rw [if_pos isEof, if_pos isEof]
        simp only
        split
        · rename_i both
          obtain ⟨cause, code, same⟩ := onClose_eq
            (s := { s with eos := update s.eos stream true }) .none unclosed
          exact .inl ⟨failed, fun _ => both, cause, code, same⟩
        · exact .inr (.inl ⟨isEof, rfl⟩)
      · rw [if_neg isEof, if_neg isEof]
        obtain ⟨cause, code, same⟩ := onError_eq failed running
        exact .inl ⟨failed, fun claimed => absurd claimed isEof, cause, code, same⟩
    · rename_i passed
      refine .inr (.inr ⟨Bool.eq_false_iff.mpr passed, ?_⟩)
      rw [doWriteDownstream, if_neg (not_not.mpr running)]
      simp only [update_self]
  · rw [if_pos running]
    exact .inl ⟨running, rfl⟩

theorem onWriteDownstream_cases (errorCode : ErrorCode) (stream : ChildStream) (s : SessionExec) :
    (s.state ≠ .running ∧ s.onWriteDownstream errorCode stream = s) ∨ s.state = .running ∧
      ((errorCode.failed = true ∧
          ∃ cause code, s.onWriteDownstream errorCode stream = s.ended cause code) ∨
        (errorCode.failed = false ∧ s.onWriteDownstream errorCode stream =
          { s with
            readsChild := update s.readsChild stream (s.readsChild stream + 1) })) := by
  rw [onWriteDownstream]
  by_cases running : s.state = .running
  · rw [if_neg (not_not.mpr running)]
    right
    refine ⟨running, ?_⟩
    split
    · rename_i failed
      exact .inl ⟨failed, onError_eq failed running⟩
    · rename_i passed
      rw [doReadChild, if_neg (not_not.mpr running)]
      exact .inr ⟨Bool.eq_false_iff.mpr passed, rfl⟩
  · rw [if_pos running]
    exact .inl ⟨running, rfl⟩

/-- The session after the child was started. -/
def launched (s : SessionExec) : SessionExec :=
  { s with
    handler := true
    state := .running
    alive := true
    stdinOpen := true
    stdinReader := true
    outputs := fun _ => true
    readsDownstream := s.readsDownstream + if s.stopReadDownstream then 0 else 1
    readsChild := fun stream => s.readsChild stream + 1 }

theorem asyncRunInternal_cases (started : ErrorCode) (s : SessionExec) :
    (s.state ≠ .null ∧ s.asyncRunInternal started =
      { s with refusals := s.refusals ++ [Error.Code.invalidState.toErrorCode] }) ∨
    s.state = .null ∧ ((∃ cause code, s.asyncRunInternal started =
        ended cause code { s with handler := true, state := .running }) ∨
      s.asyncRunInternal started = s.launched) := by
  rw [asyncRunInternal]
  by_cases fresh : s.state = .null
  · rw [if_neg (not_not.mpr fresh)]
    right
    refine ⟨fresh, ?_⟩
    simp only
    split
    · rename_i failed
      exact .inl (onError_eq (s := { s with handler := true, state := .running }) failed rfl)
    · right
      have reads : update (update s.readsChild .stdOut (s.readsChild .stdOut + 1))
          .stdErr (s.readsChild .stdErr + 1) = fun stream => s.readsChild stream + 1 := by
        funext stream
        cases stream <;> rfl
      rw [runLoop, doReadDownstream]
      cases stop : s.stopReadDownstream <;>
        simp [doReadChild, launched, stop, update, reads.symm]
  · rw [if_pos fresh]
    exact .inl ⟨fresh, rfl⟩

theorem cancelInternal_cases (s : SessionExec) (settled : s.state ≠ .closing) :
    s.cancelInternal = s ∨
      s.state = .running ∧ ∃ cause code, s.cancelInternal = s.ended cause code := by
  rw [cancelInternal]
  split
  · exact .inl rfl
  · rename_i started
    have closed : s.state ≠ .closed := fun closed => started (.inr closed)
    have running : s.state = .running := by
      cases state : s.state with
      | null => exact absurd (.inl state) started
      | running => rfl
      | closing => exact absurd state settled
      | closed => exact absurd state closed
    exact .inr ⟨running, doClose_eq settled closed⟩

theorem onChildExit_cases (errorCode : ErrorCode) (s : SessionExec) :
    s.onChildExit errorCode = s ∨ s.state = .running ∧ ∃ code, s.onChildExit errorCode =
      { s with errorCode := code, stopReadDownstream := true, stdinOpen := false } := by
  rw [onChildExit]
  by_cases running : s.state = .running
  · rw [if_neg (not_not.mpr running)]
    right
    refine ⟨running, ?_⟩
    simp only
    split
    · exact ⟨errorCode, rfl⟩
    · exact ⟨s.errorCode, rfl⟩
  · rw [if_pos running]
    exact .inl rfl

/-! ## One operation per loop -/

/-- Every loop has at most one operation in flight, and none before the start. -/
def Disciplined (s : SessionExec) : Prop :=
  s.readsDownstream + s.writesChild.length ≤ 1 ∧
    (∀ stream, s.readsChild stream + s.writesDownstream.countP (·.1 = stream) ≤ 1) ∧
    (s.state = .null → s.readsDownstream = 0 ∧ s.writesChild = [] ∧
      (∀ stream, s.readsChild stream = 0) ∧ s.writesDownstream = [])

/-- The run handler is stored while the session runs and invoked when it closes. -/
def Handled (s : SessionExec) : Prop :=
  (s.state = .null → s.handler = false ∧ s.completions = []) ∧
    (s.state = .running → s.handler = true ∧ s.completions = []) ∧
    (s.state = .closed → s.completions.length = 1) ∧ s.state ≠ .closing

theorem Disciplined.ended (disciplined : Disciplined s) (cause code : ErrorCode) :
    Disciplined (s.ended cause code) :=
  ⟨disciplined.1, disciplined.2.1, nofun⟩

section

variable (handled : Handled s)

include handled

theorem Handled.ended (running : s.state = .running)
    (cause code : ErrorCode) : Handled (s.ended cause code) := by
  obtain ⟨stored, none⟩ := handled.2.1 running
  refine ⟨nofun, nofun, fun _ => ?_, nofun⟩
  show (if s.handler = true then s.completions ++ [cause] else s.completions).length = 1
  rw [if_pos stored, none]
  rfl

theorem handled_onReadDownstream (errorCode : ErrorCode)
    (bytes : List UInt8) : Handled (s.onReadDownstream errorCode bytes) := by
  obtain same | ⟨running, ⟨-, -, cause, code, same⟩ | same | ⟨-, same⟩⟩ :=
    onReadDownstream_cases errorCode bytes s
  · rw [same]
    exact handled
  · rw [same]
    exact handled.ended running cause code
  · rw [same]
    exact handled
  · rw [same]
    exact handled

theorem handled_onWriteChild (errorCode : ErrorCode) :
    Handled (s.onWriteChild errorCode) := by
  obtain same | ⟨running, ⟨-, cause, code, same⟩ | same | ⟨-, same⟩⟩ :=
    onWriteChild_cases errorCode s
  · rw [same]
    exact handled
  · rw [same]
    exact handled.ended running cause code
  · rw [same]
    exact handled
  · rw [same]
    exact handled

theorem handled_onReadChild (errorCode : ErrorCode) (bytes : List UInt8)
    (stream : ChildStream) : Handled (s.onReadChild errorCode bytes stream) := by
  obtain ⟨-, same⟩ | ⟨running, ⟨-, -, cause, code, same⟩ | ⟨-, same⟩ | ⟨-, same⟩⟩ :=
    onReadChild_cases errorCode bytes stream s
  · rw [same]
    exact handled
  · rw [same]
    exact Handled.ended (s := { s with eos := _ }) handled running cause code
  · rw [same]
    exact handled
  · rw [same]
    exact handled

theorem handled_onWriteDownstream (errorCode : ErrorCode)
    (stream : ChildStream) : Handled (s.onWriteDownstream errorCode stream) := by
  obtain ⟨-, same⟩ | ⟨running, ⟨-, cause, code, same⟩ | ⟨-, same⟩⟩ :=
    onWriteDownstream_cases errorCode stream s
  · rw [same]
    exact handled
  · rw [same]
    exact handled.ended running cause code
  · rw [same]
    exact handled

theorem handled_step (taken : s.step event = some t) : Handled t := by
  cases event with
  | asyncRun started =>
    cases taken
    obtain ⟨-, same⟩ | ⟨fresh, ⟨cause, code, same⟩ | same⟩ := asyncRunInternal_cases started s
    · rw [same]
      exact handled
    · rw [same]
      exact Handled.ended (s := { s with handler := true, state := .running })
        ⟨nofun, fun _ => ⟨rfl, (handled.1 fresh).2⟩, nofun, nofun⟩ rfl cause code
    · rw [same]
      exact ⟨nofun, fun _ => ⟨rfl, (handled.1 fresh).2⟩, nofun, nofun⟩
  | cancel =>
    cases taken
    obtain same | ⟨running, cause, code, same⟩ := cancelInternal_cases s handled.2.2.2
    · rw [same]
      exact handled
    · rw [same]
      exact handled.ended running cause code
  | childWrites stream bytes | childCloses stream | childClosesStdin | childExits errorCode =>
    obtain ⟨-, ⟨⟩⟩ := ite_none_right_eq_some.mp taken
    exact handled
  | onChildExit =>
    rw [step] at taken
    split at taken
    · cases taken
    · rename_i errorCode rest _
      cases taken
      obtain same | ⟨-, code, same⟩ := onChildExit_cases errorCode { s with exits := rest }
      · rw [same]
        exact handled
      · rw [same]
        exact handled
  | readDownstream bytes | readDownstreamFailed errorCode =>
    obtain ⟨-, ⟨⟩⟩ := ite_none_right_eq_some.mp taken
    apply handled_onReadDownstream
    exact handled
  | writeChild write | writeChildFailed write errorCode =>
    obtain ⟨-, ⟨⟩⟩ := ite_none_right_eq_some.mp taken
    apply handled_onWriteChild
    exact handled
  | readChild stream size | readChildFailed stream errorCode =>
    obtain ⟨-, ⟨⟩⟩ := ite_none_right_eq_some.mp taken
    apply handled_onReadChild
    exact handled
  | writeDownstreamSome write size =>
    rw [step] at taken
    split at taken
    · cases taken
    · obtain ⟨-, ⟨⟩⟩ := ite_none_left_eq_some.mp taken
      exact handled
  | writeDownstream write =>
    rw [step] at taken
    split at taken
    · cases taken
      apply handled_onWriteDownstream
      exact handled
    · cases taken
  | writeDownstreamFailed write errorCode =>
    rw [step] at taken
    split at taken
    · cases taken
    · obtain ⟨-, ⟨⟩⟩ := ite_none_right_eq_some.mp taken
      apply handled_onWriteDownstream
      exact handled

end

section

variable (disciplined : Disciplined s)

include disciplined

theorem disciplined_onReadDownstream
    (free : s.readsDownstream + s.writesChild.length = 0) (errorCode : ErrorCode)
    (bytes : List UInt8) : Disciplined (s.onReadDownstream errorCode bytes) := by
  obtain same | ⟨running, ⟨-, -, cause, code, same⟩ | same | ⟨-, same⟩⟩ :=
    onReadDownstream_cases errorCode bytes s
  · rw [same]
    exact disciplined
  · rw [same]
    exact disciplined.ended cause code
  · rw [same]
    exact disciplined
  · rw [same]
    refine ⟨?_, disciplined.2.1, fun null => absurd (running.symm.trans null) nofun⟩
    show s.readsDownstream + (s.writesChild ++ [bytes]).length ≤ 1
    rw [List.length_append, List.length_singleton]
    omega

theorem disciplined_onWriteChild
    (free : s.readsDownstream + s.writesChild.length = 0) (errorCode : ErrorCode) :
    Disciplined (s.onWriteChild errorCode) := by
  obtain same | ⟨running, ⟨-, cause, code, same⟩ | same | ⟨-, same⟩⟩ :=
    onWriteChild_cases errorCode s
  · rw [same]
    exact disciplined
  · rw [same]
    exact disciplined.ended cause code
  · rw [same]
    exact disciplined
  · rw [same]
    refine ⟨?_, disciplined.2.1, fun null => absurd (running.symm.trans null) nofun⟩
    show s.readsDownstream + 1 + s.writesChild.length ≤ 1
    omega

theorem disciplined_onReadChild
    (free : s.readsChild stream + s.writesDownstream.countP (·.1 = stream) = 0)
    (errorCode : ErrorCode) (bytes : List UInt8) :
    Disciplined (s.onReadChild errorCode bytes stream) := by
  obtain ⟨-, same⟩ | ⟨running, ⟨-, -, cause, code, same⟩ | ⟨-, same⟩ | ⟨-, same⟩⟩ :=
    onReadChild_cases errorCode bytes stream s
  · rw [same]
    exact disciplined
  · rw [same]
    exact Disciplined.ended (s := { s with eos := _ }) disciplined cause code
  · rw [same]
    exact disciplined
  · rw [same]
    refine ⟨disciplined.1, ?_, fun null => absurd (running.symm.trans null) nofun⟩
    intro other
    have before := disciplined.2.1 other
    show s.readsChild other + (s.writesDownstream ++ [(stream, bytes)]).countP _ ≤ 1
    rw [List.countP_append, List.countP_singleton]
    simp only [decide_eq_true_eq]
    split
    · rename_i named
      subst named
      omega
    · omega

theorem disciplined_onWriteDownstream
    (free : s.readsChild stream + s.writesDownstream.countP (·.1 = stream) = 0)
    (errorCode : ErrorCode) : Disciplined (s.onWriteDownstream errorCode stream) := by
  obtain ⟨-, same⟩ | ⟨running, ⟨-, cause, code, same⟩ | ⟨-, same⟩⟩ :=
    onWriteDownstream_cases errorCode stream s
  · rw [same]
    exact disciplined
  · rw [same]
    exact disciplined.ended cause code
  · rw [same]
    refine ⟨disciplined.1, ?_, fun null => absurd (running.symm.trans null) nofun⟩
    intro other
    have before := disciplined.2.1 other
    show update s.readsChild stream (s.readsChild stream + 1) other +
      s.writesDownstream.countP _ ≤ 1
    by_cases named : other = stream
    · subst named
      rw [update_self]
      omega
    · rw [update_of_ne named]
      exact before

/-- The read of the socket that completes was the only operation of its loop. -/
theorem Disciplined.takeReadDownstream
    (reading : 0 < s.readsDownstream) :
    Disciplined { s with readsDownstream := s.readsDownstream - 1 } ∧
      s.readsDownstream - 1 + s.writesChild.length = 0 := by
  have once := disciplined.1
  refine ⟨⟨?_, disciplined.2.1, ?_⟩, by omega⟩
  · show s.readsDownstream - 1 + s.writesChild.length ≤ 1
    omega
  · intro null
    have none := (disciplined.2.2 null).1
    omega

theorem Disciplined.takeWriteChild {write : Nat}
    (writing : write < s.writesChild.length) :
    Disciplined { s with writesChild := s.writesChild.eraseIdx write } ∧
      s.readsDownstream + (s.writesChild.eraseIdx write).length = 0 := by
  have once := disciplined.1
  have fewer : (s.writesChild.eraseIdx write).length = s.writesChild.length - 1 :=
    List.length_eraseIdx_of_lt writing
  refine ⟨⟨?_, disciplined.2.1, ?_⟩, by omega⟩
  · show s.readsDownstream + (s.writesChild.eraseIdx write).length ≤ 1
    omega
  · intro null
    have none := (disciplined.2.2 null).2.1
    rw [none] at writing
    cases writing

theorem Disciplined.takeReadChild (reading : 0 < s.readsChild stream)
    (pipes : ChildStream → List UInt8) :
    Disciplined { s with
        readsChild := update s.readsChild stream (s.readsChild stream - 1)
        pipes := pipes } ∧
      update s.readsChild stream (s.readsChild stream - 1) stream +
        s.writesDownstream.countP (·.1 = stream) = 0 := by
  have once := disciplined.2.1 stream
  refine ⟨⟨disciplined.1, ?_, ?_⟩, by rw [update_self]; omega⟩
  · intro other
    show update s.readsChild stream (s.readsChild stream - 1) other +
      s.writesDownstream.countP _ ≤ 1
    by_cases named : other = stream
    · subst named
      rw [update_self]
      omega
    · rw [update_of_ne named]
      exact disciplined.2.1 other
  · intro null
    have none := (disciplined.2.2 null).2.2.1 stream
    omega

theorem Disciplined.takeWriteDownstream {write : Nat}
    {left : List UInt8} (writing : s.writesDownstream[write]? = some (stream, left)) :
    Disciplined { s with writesDownstream := s.writesDownstream.eraseIdx write } ∧
      s.readsChild stream + (s.writesDownstream.eraseIdx write).countP (·.1 = stream) = 0 := by
  have counted := fun other => countP_of_taken writing fun entry => decide (entry.1 = other)
  refine ⟨⟨disciplined.1, ?_, ?_⟩, ?_⟩
  · intro other
    have before := disciplined.2.1 other
    rw [counted other] at before
    show s.readsChild other + (s.writesDownstream.eraseIdx write).countP _ ≤ 1
    omega
  · intro null
    have none := (disciplined.2.2 null).2.2.2
    rw [none] at writing
    cases writing
  · have before := disciplined.2.1 stream
    rw [counted stream, if_pos (decide_eq_true rfl)] at before
    omega

theorem disciplined_step (settled : s.state ≠ .closing)
    (taken : s.step event = some t) : Disciplined t := by
  cases event with
  | asyncRun started =>
    cases taken
    obtain ⟨-, same⟩ | ⟨fresh, ⟨cause, code, same⟩ | same⟩ := asyncRunInternal_cases started s
    · rw [same]
      exact disciplined
    · rw [same]
      exact Disciplined.ended (s := { s with handler := true, state := .running })
        ⟨disciplined.1, disciplined.2.1, nofun⟩ cause code
    · obtain ⟨noRead, noWrite, noReads, noWrites⟩ := disciplined.2.2 fresh
      rw [same]
      refine ⟨?_, ?_, nofun⟩
      · show s.readsDownstream + (if s.stopReadDownstream then 0 else 1) +
          s.writesChild.length ≤ 1
        rw [noRead, noWrite]
        split <;> exact Nat.le_of_ble_eq_true rfl
      · intro stream
        show s.readsChild stream + 1 + s.writesDownstream.countP _ ≤ 1
        rw [noReads stream, noWrites]
        exact Nat.le_refl 1
  | cancel =>
    cases taken
    obtain same | ⟨-, cause, code, same⟩ := cancelInternal_cases s settled
    · rw [same]
      exact disciplined
    · rw [same]
      exact disciplined.ended cause code
  | childWrites stream bytes | childCloses stream | childClosesStdin | childExits errorCode =>
    obtain ⟨-, ⟨⟩⟩ := ite_none_right_eq_some.mp taken
    exact disciplined
  | onChildExit =>
    rw [step] at taken
    split at taken
    · cases taken
    · rename_i errorCode rest _
      cases taken
      obtain same | ⟨-, code, same⟩ := onChildExit_cases errorCode { s with exits := rest }
      · rw [same]
        exact disciplined
      · rw [same]
        exact disciplined
  | readDownstream bytes | readDownstreamFailed errorCode =>
    obtain ⟨⟨reading, -⟩, ⟨⟩⟩ := ite_none_right_eq_some.mp taken
    obtain ⟨left, free⟩ := disciplined.takeReadDownstream reading
    exact disciplined_onReadDownstream left free _ _
  | writeChild write =>
    obtain ⟨writing, ⟨⟩⟩ := ite_none_right_eq_some.mp taken
    obtain ⟨left, free⟩ := disciplined.takeWriteChild writing
    exact disciplined_onWriteChild left free _
  | writeChildFailed write errorCode =>
    obtain ⟨⟨writing, -⟩, ⟨⟩⟩ := ite_none_right_eq_some.mp taken
    obtain ⟨left, free⟩ := disciplined.takeWriteChild writing
    exact disciplined_onWriteChild left free _
  | readChild stream size =>
    obtain ⟨⟨reading, -⟩, ⟨⟩⟩ := ite_none_right_eq_some.mp taken
    obtain ⟨left, free⟩ := disciplined.takeReadChild reading
      (update s.pipes stream ((s.pipes stream).drop size))
    exact disciplined_onReadChild left free _ _
  | readChildFailed stream errorCode =>
    obtain ⟨⟨reading, -⟩, ⟨⟩⟩ := ite_none_right_eq_some.mp taken
    obtain ⟨left, free⟩ := disciplined.takeReadChild reading s.pipes
    exact disciplined_onReadChild left free _ _
  | writeDownstreamSome write size =>
    rw [step] at taken
    split at taken
    · cases taken
    · rename_i stream left writing
      obtain ⟨-, ⟨⟩⟩ := ite_none_left_eq_some.mp taken
      refine ⟨disciplined.1, ?_, ?_⟩
      · intro other
        have same : (s.writesDownstream.set write (stream, left.drop size)).countP
            (·.1 = other) = s.writesDownstream.countP (·.1 = other) :=
          countP_set_of_taken writing rfl
        show s.readsChild other + (s.writesDownstream.set _ _).countP _ ≤ 1
        rw [same]
        exact disciplined.2.1 other
      · intro null
        rw [(disciplined.2.2 null).2.2.2] at writing
        cases writing
  | writeDownstream write =>
    rw [step] at taken
    split at taken
    · rename_i stream writing
      cases taken
      obtain ⟨left, free⟩ := disciplined.takeWriteDownstream writing
      exact disciplined_onWriteDownstream left free _
    · cases taken
  | writeDownstreamFailed write errorCode =>
    rw [step] at taken
    split at taken
    · cases taken
    · rename_i stream left writing
      obtain ⟨-, ⟨⟩⟩ := ite_none_right_eq_some.mp taken
      obtain ⟨left, free⟩ := disciplined.takeWriteDownstream writing
      exact disciplined_onWriteDownstream left free _

end

/-! ## What a step does to the outputs -/

/-- The loops of the outputs are untouched; the child may have given up its ends. -/
structure Untouched (s t : SessionExec) : Prop where
  state : t.state = s.state
  eos : t.eos = s.eos
  readsChild : t.readsChild = s.readsChild
  writesDownstream : t.writesDownstream = s.writesDownstream
  pipes : t.pipes = s.pipes
  wrote : t.wrote = s.wrote
  chunks : t.chunks = s.chunks
  received : t.received = s.received
  alive : t.alive = true → s.alive = true
  outputs : ∀ stream, t.outputs stream = true → s.outputs stream = true

theorem Untouched.refl (s : SessionExec) : Untouched s s :=
  ⟨rfl, rfl, rfl, rfl, rfl, rfl, rfl, rfl, fun alive => alive, fun _ held => held⟩

/-- The events that close a running session although an output is still open. -/
def Breaks (s : SessionExec) : Event → Prop
  | .cancel => True
  | .readDownstreamFailed errorCode => isEofError errorCode = false ∨ s.downstreamHalfClose = false
  | .writeChildFailed _ _ => True
  | .readChildFailed _ errorCode => isEofError errorCode = false
  | .writeDownstreamFailed _ _ => True
  | _ => False

/-- What a step does to the outputs. -/
inductive Change (s : SessionExec) : Event → SessionExec → Prop where
  | still {event : Event} {t : SessionExec} (untouched : Untouched s t) : Change s event t
  | launches {event : Event} (fresh : s.state = .null) : Change s event s.launched
  | aborts {event : Event} (fresh : s.state = .null) (cause code : ErrorCode) :
      Change s event (ended cause code { s with handler := true, state := .running })
  | breaks {event : Event} {t : SessionExec} (running : s.state = .running)
      (broken : Breaks s event) (wrote : t.wrote = s.wrote) (chunks : t.chunks = s.chunks)
      (received : t.received = s.received)
      (fewer : t.writesDownstream.length ≤ s.writesDownstream.length) (cause code : ErrorCode) :
      Change s event (t.ended cause code)
  /-- Both outputs have ended. -/
  | finishes {event : Event} {t : SessionExec} (running : s.state = .running)
      (ends : ∀ stream, s.eos stream = true ∨ (s.pipes stream = [] ∧ s.outputs stream = false ∧
        0 < s.readsChild stream))
      (wrote : t.wrote = s.wrote) (chunks : t.chunks = s.chunks) (received : t.received = s.received)
      (same : t.writesDownstream = s.writesDownstream) (cause code : ErrorCode) :
      Change s event (t.ended cause code)
  | ends (stream : ChildStream) (errorCode : ErrorCode) (running : s.state = .running)
      (reading : 0 < s.readsChild stream) (empty : s.pipes stream = [])
      (closed : s.outputs stream = false) :
      Change s (.readChildFailed stream errorCode) { s with
        readsChild := update s.readsChild stream (s.readsChild stream - 1)
        eos := update s.eos stream true }
  | writes (stream : ChildStream) (bytes : List UInt8) (alive : s.alive = true)
      (held : s.outputs stream = true) :
      Change s (.childWrites stream bytes) { s with
        pipes := update s.pipes stream (s.pipes stream ++ bytes)
        wrote := update s.wrote stream (s.wrote stream ++ bytes) }
  | forwards (stream : ChildStream) (size : Nat) (running : s.state = .running)
      (reading : 0 < s.readsChild stream) :
      Change s (.readChild stream size) { s with
        readsChild := update s.readsChild stream (s.readsChild stream - 1)
        pipes := update s.pipes stream ((s.pipes stream).drop size)
        bufferReadChild := update s.bufferReadChild stream ((s.pipes stream).take size)
        writesDownstream := s.writesDownstream ++ [(stream, (s.pipes stream).take size)]
        chunks := s.chunks ++ [(stream, (s.pipes stream).take size)] }
  | advances (write : Nat) (stream : ChildStream) (left : List UInt8) (size : Nat)
      (writing : s.writesDownstream[write]? = some (stream, left)) (unclosed : s.state ≠ .closed) :
      Change s (.writeDownstreamSome write size) { s with
        writesDownstream := s.writesDownstream.set write (stream, left.drop size)
        received := s.received ++ (left.take size).map fun byte => (stream, byte) }
  | completes (write : Nat) (stream : ChildStream) (running : s.state = .running)
      (writing : s.writesDownstream[write]? = some (stream, [])) :
      Change s (.writeDownstream write) { s with
        writesDownstream := s.writesDownstream.eraseIdx write
        readsChild := update s.readsChild stream (s.readsChild stream + 1) }
  /-- A completion that arrives when the session does not run. -/
  | ignores {event : Event} {t : SessionExec} (stopped : s.state ≠ .running)
      (state : t.state = s.state) (alive : t.alive = s.alive) (wrote : t.wrote = s.wrote)
      (chunks : t.chunks = s.chunks) (received : t.received = s.received)
      (fewer : t.writesDownstream.length ≤ s.writesDownstream.length)
      (begun : 0 < s.writesDownstream.length ∨ ∃ stream, 0 < s.readsChild stream) :
      Change s event t

theorem change_onReadDownstream {bytes : List UInt8} {reads : Nat}
    (broken : errorCode.failed = true →
      isEofError errorCode = false ∨ s.downstreamHalfClose = false → Breaks s event) :
    Change s event (onReadDownstream errorCode bytes { s with readsDownstream := reads }) := by
  obtain same | ⟨running, ⟨failed, eof, cause, code, same⟩ | same | ⟨-, same⟩⟩ :=
    onReadDownstream_cases errorCode bytes { s with readsDownstream := reads }
  · rw [same]
    exact .still { Untouched.refl s with }
  · have running : s.state = .running := running
    rw [same]
    by_cases other : isEofError errorCode = false ∨ s.downstreamHalfClose = false
    · refine .breaks running (broken failed other) ?_ ?_ ?_ ?_ cause code
      exacts [rfl, rfl, rfl, Nat.le_refl _]
    · rw [not_or, Bool.not_eq_false, Bool.not_eq_false] at other
      obtain ⟨out, err⟩ := eof other.1 other.2
      refine .finishes running ?_ ?_ ?_ ?_ ?_ cause code
      case refine_2 | refine_3 | refine_4 | refine_5 => rfl
      intro stream
      left
      cases stream
      · exact out
      · exact err
  · rw [same]
    exact .still { Untouched.refl s with }
  · rw [same]
    exact .still { Untouched.refl s with }

theorem change_onWriteChild {writes : List (List UInt8)}
    (broken : errorCode.failed = true → Breaks s event) :
    Change s event (onWriteChild errorCode { s with writesChild := writes }) := by
  obtain same | ⟨running, ⟨failed, cause, code, same⟩ | same | ⟨-, same⟩⟩ :=
    onWriteChild_cases errorCode { s with writesChild := writes }
  · rw [same]
    exact .still { Untouched.refl s with }
  · have running : s.state = .running := running
    rw [same]
    refine .breaks running (broken failed) ?_ ?_ ?_ ?_ cause code
    exacts [rfl, rfl, rfl, Nat.le_refl _]
  · rw [same]
    exact .still { Untouched.refl s with }
  · rw [same]
    exact .still { Untouched.refl s with }

theorem change_readChild {size : Nat} (reading : 0 < s.readsChild stream) :
    Change s (.readChild stream size) (onReadChild .none ((s.pipes stream).take size) stream { s with
      readsChild := update s.readsChild stream (s.readsChild stream - 1)
      pipes := update s.pipes stream ((s.pipes stream).drop size) }) := by
  obtain ⟨stopped, same⟩ | ⟨running, ⟨failed, -⟩ | ⟨isEof, -⟩ | ⟨-, same⟩⟩ :=
    onReadChild_cases .none ((s.pipes stream).take size) stream { s with
      readsChild := update s.readsChild stream (s.readsChild stream - 1)
      pipes := update s.pipes stream ((s.pipes stream).drop size) }
  · have stopped : s.state ≠ .running := stopped
    rw [same]
    exact .ignores stopped rfl rfl rfl rfl rfl (Nat.le_refl _) (.inr ⟨stream, reading⟩)
  · cases failed
  · cases isEof
  · have running : s.state = .running := running
    rw [same]
    exact .forwards stream size running reading

theorem change_readChildFailed (reading : 0 < s.readsChild stream)
    (failed : errorCode.failed = true)
    (past : isEofError errorCode = true → s.pipes stream = [] ∧ s.outputs stream = false) :
    Change s (.readChildFailed stream errorCode) (onReadChild errorCode [] stream { s with
      readsChild := update s.readsChild stream (s.readsChild stream - 1) }) := by
  obtain ⟨stopped, same⟩ | ⟨running, ⟨-, both, cause, code, same⟩ | ⟨isEof, same⟩ | ⟨passed, -⟩⟩ :=
    onReadChild_cases errorCode [] stream { s with
      readsChild := update s.readsChild stream (s.readsChild stream - 1) }
  · have stopped : s.state ≠ .running := stopped
    rw [same]
    exact .ignores stopped rfl rfl rfl rfl rfl (Nat.le_refl _) (.inr ⟨stream, reading⟩)
  · have running : s.state = .running := running
    rw [same]
    cases isEof : isEofError errorCode with
    | false =>
      have broken : Breaks s (.readChildFailed stream errorCode) := isEof
      refine .breaks running broken ?_ ?_ ?_ ?_ cause code
      exacts [rfl, rfl, rfl, Nat.le_refl _]
    | true =>
      obtain ⟨empty, closed⟩ := past isEof
      refine .finishes running ?_ ?_ ?_ ?_ ?_ cause code
      case refine_2 | refine_3 | refine_4 | refine_5 => rfl
      intro other
      by_cases named : other = stream
      · subst named
        exact .inr ⟨empty, closed, reading⟩
      · left
        have flagged : update s.eos stream true other = true := by
          cases other
          · exact (both isEof).1
          · exact (both isEof).2
        rwa [update_of_ne named] at flagged
  · have running : s.state = .running := running
    obtain ⟨empty, closed⟩ := past isEof
    rw [same]
    exact .ends stream errorCode running reading empty closed
  · rw [passed] at failed
    cases failed

theorem length_eraseIdx_le {α : Type} (list : List α) (index : Nat) :
    (list.eraseIdx index).length ≤ list.length := (List.eraseIdx_sublist _ _).length_le

theorem change_of_step (settled : s.state ≠ .closing) (taken : s.step event = some t) :
    Change s event t := by
  cases event with
  | asyncRun started =>
    cases taken
    obtain ⟨-, same⟩ | ⟨fresh, ⟨cause, code, same⟩ | same⟩ := asyncRunInternal_cases started s
    · rw [same]
      exact .still { Untouched.refl s with }
    · rw [same]
      exact .aborts fresh cause code
    · rw [same]
      exact .launches fresh
  | cancel =>
    cases taken
    obtain same | ⟨running, cause, code, same⟩ := cancelInternal_cases s settled
    · rw [same]
      exact .still (.refl s)
    · rw [same]
      have broken : Breaks s .cancel := trivial
      exact .breaks running broken rfl rfl rfl (Nat.le_refl _) cause code
  | childWrites stream bytes =>
    obtain ⟨⟨alive, held⟩, ⟨⟩⟩ := ite_none_right_eq_some.mp taken
    exact .writes stream bytes alive held
  | childCloses stream =>
    obtain ⟨-, ⟨⟩⟩ := ite_none_right_eq_some.mp taken
    refine .still { Untouched.refl s with outputs := ?_ }
    intro other held
    have held : update s.outputs stream false other = true := held
    by_cases named : other = stream
    · rw [named, update_self] at held
      cases held
    · rwa [update_of_ne named] at held
  | childClosesStdin =>
    obtain ⟨-, ⟨⟩⟩ := ite_none_right_eq_some.mp taken
    exact .still { Untouched.refl s with }
  | childExits errorCode =>
    obtain ⟨-, ⟨⟩⟩ := ite_none_right_eq_some.mp taken
    exact .still { Untouched.refl s with
      alive := nofun
      outputs := nofun }
  | onChildExit =>
    rw [step] at taken
    split at taken
    · cases taken
    · rename_i errorCode rest _
      cases taken
      obtain same | ⟨-, code, same⟩ := onChildExit_cases errorCode { s with exits := rest }
      · rw [same]
        exact .still { Untouched.refl s with }
      · rw [same]
        exact .still { Untouched.refl s with }
  | readDownstream bytes =>
    obtain ⟨-, ⟨⟩⟩ := ite_none_right_eq_some.mp taken
    exact change_onReadDownstream nofun
  | readDownstreamFailed errorCode =>
    obtain ⟨-, ⟨⟩⟩ := ite_none_right_eq_some.mp taken
    exact change_onReadDownstream fun _ broken => broken
  | writeChild write =>
    obtain ⟨-, ⟨⟩⟩ := ite_none_right_eq_some.mp taken
    exact change_onWriteChild nofun
  | writeChildFailed write errorCode =>
    obtain ⟨-, ⟨⟩⟩ := ite_none_right_eq_some.mp taken
    exact change_onWriteChild fun _ => trivial
  | readChild stream size =>
    obtain ⟨⟨reading, -⟩, ⟨⟩⟩ := ite_none_right_eq_some.mp taken
    exact change_readChild reading
  | readChildFailed stream errorCode =>
    obtain ⟨⟨reading, failed, past⟩, ⟨⟩⟩ := ite_none_right_eq_some.mp taken
    exact change_readChildFailed reading failed past
  | writeDownstreamSome write size =>
    rw [step] at taken
    split at taken
    · cases taken
    · rename_i stream left writing
      obtain ⟨unclosed, ⟨⟩⟩ := ite_none_left_eq_some.mp taken
      exact .advances write stream left size writing unclosed
  | writeDownstream write =>
    rw [step] at taken
    split at taken
    · rename_i stream writing
      cases taken
      obtain ⟨stopped, same⟩ | ⟨running, ⟨failed, -⟩ | ⟨-, same⟩⟩ := onWriteDownstream_cases .none
        stream { s with writesDownstream := s.writesDownstream.eraseIdx write }
      · have stopped : s.state ≠ .running := stopped
        rw [same]
        exact .ignores stopped rfl rfl rfl rfl rfl (length_eraseIdx_le _ _)
          (.inl (List.length_pos_of_mem (mem_of_taken writing)))
      · cases failed
      · have running : s.state = .running := running
        rw [same]
        exact .completes write stream running writing
    · cases taken
  | writeDownstreamFailed write errorCode =>
    rw [step] at taken
    split at taken
    · cases taken
    · rename_i stream left writing
      obtain ⟨failed, ⟨⟩⟩ := ite_none_right_eq_some.mp taken
      obtain ⟨stopped, same⟩ | ⟨running, ⟨-, cause, code, same⟩ | ⟨passed, -⟩⟩ :=
        onWriteDownstream_cases errorCode stream
          { s with writesDownstream := s.writesDownstream.eraseIdx write }
      · have stopped : s.state ≠ .running := stopped
        rw [same]
        exact .ignores stopped rfl rfl rfl rfl rfl (length_eraseIdx_le _ _)
          (.inl (List.length_pos_of_mem (mem_of_taken writing)))
      · have running : s.state = .running := running
        rw [same]
        have broken : Breaks s (.writeDownstreamFailed write errorCode) := trivial
        refine .breaks running broken ?_ ?_ ?_ ?_ cause code
        exacts [rfl, rfl, rfl, length_eraseIdx_le _ _]
      · rw [passed] at failed
        cases failed

end Rstream.Ncat.SessionExec
