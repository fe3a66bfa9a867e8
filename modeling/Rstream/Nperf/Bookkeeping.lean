import Rstream.Nperf.Sessions

/-!
# The bookkeeping of the nperf client in a run

What holds of the map, of the operations in flight and of what the caller was told, in
each state of the client. One failure is excluded: that of a session that is the last to
open, after all the others. It makes `do_close` close the client in the middle of its
traversal of the map.
-/

namespace Rstream.Nperf.Base

open Library List
open IoRstrm

variable {s t : Base}

/-- Some sessions are opening, those with an open in flight, and the others are opened. -/
def Opening (s : Base) : Prop :=
  s.opens.Nodup ∧ s.opens ≠ [] ∧ (∀ i ∈ s.opens, i < s.settings.sessions) ∧
    s.sessions = (List.range s.settings.sessions).map fun i =>
      if i ∈ s.opens then .opening else .opened

/-- The operations in flight are of sessions in the map, and one session is not closed. -/
def Closing (s : Base) : Prop :=
  (∀ i ∈ s.opens, i < s.sessions.length) ∧ (∀ i ∈ s.runs, i < s.sessions.length) ∧
    ∃ session ∈ s.sessions, session ≠ .closed

/-- The caller was told only metrics so far, and its handler waits. -/
def Telling (s : Base) : Prop :=
  s.handler = true ∧ ∀ notice ∈ s.notices, Notice.IsMetrics notice

/-- The last the caller was told is the end of the run, and before that only metrics. -/
def Told (s : Base) : Prop :=
  ∃ earlier cause, s.notices = earlier ++ [.completed cause] ∧
    ∀ notice ∈ earlier, Notice.IsMetrics notice

/-- What holds between two events. -/
structure Kept (s : Base) : Prop where
  sound : s.stale = false ∧ s.missing = false
  positive : 0 < s.settings.sessions
  fresh : s.state = .null → (s.onMetricsCb = false ∧ s.notices = []) ∧ s.resolving = false ∧
    s.sessions = [] ∧ s.opens = [] ∧ s.runs = []
  telling : s.state ≠ .null → s.state ≠ .disconnected → Telling s
  connecting : s.state = .connecting → s.runs = [] ∧
    (s.sessions = [] ∧ s.opens = [] ∨ s.resolving = false ∧ Opening s)
  connected : s.state = .connected → s.opens = [] ∧
    s.sessions = List.replicate s.settings.sessions .running ∧
    ∀ i ∈ s.runs, i < s.settings.sessions
  disconnecting : s.state = .disconnecting → Closing s
  disconnected : s.state = .disconnected → s.onMetricsCb = false ∧ Told s

/-- Closing the client in the middle of a run. -/
theorem kept_onClose (errorCode : ErrorCode) (sound : s.stale = false ∧ s.missing = false)
    (positive : 0 < s.settings.sessions) (begun : s.state ≠ .null)
    (unclosed : s.state ≠ .disconnected) (telling : Telling s) : Kept (s.onClose errorCode) := by
  obtain ⟨more, last, same, metrics, completes⟩ := onClose_eq errorCode begun unclosed
  obtain ⟨cause, rfl⟩ := completes telling.1
  rw [same]
  refine ⟨sound, positive, nofun, fun _ other => absurd rfl other, nofun, nofun, nofun,
    fun _ => ⟨rfl, s.notices ++ more, cause, rfl, fun notice mem => ?_⟩⟩
  obtain before | here := mem_append.mp mem
  · exact telling.2 notice before
  · exact metrics notice here

/-- Disconnecting while a session is neither opened nor closed. -/
theorem kept_doClose {f : SetSessionState} (errorCode : ErrorCode)
    (sound : s.stale = false ∧ s.missing = false) (positive : 0 < s.settings.sessions)
    (started : s.state = .connecting ∨ s.state = .connected) (telling : Telling s)
    (busy : ∃ session ∈ s.sessions, Busy session)
    (opens : ∀ i ∈ s.opens, i < s.sessions.length) (runs : ∀ i ∈ s.runs, i < s.sessions.length) :
    Kept (doClose (setSessionStateWith f) errorCode s) := by
  obtain ⟨sessions, stateTimers, code, same, length, open_⟩ := doClose_eq errorCode started busy
  rw [same]
  refine ⟨sound, positive, nofun, fun _ _ => telling, nofun, nofun, fun _ => ⟨?_, ?_, open_⟩, nofun⟩
  · rw [length]
    exact opens
  · rw [length]
    exact runs

theorem Opening.getElem? (opening : Opening s) {i : Nat} (bound : i < s.settings.sessions) :
    s.sessions[i]? = some (if i ∈ s.opens then .opening else .opened) := by
  rw [opening.2.2.2, getElem?_map, getElem?_range bound]
  rfl

theorem Opening.length (opening : Opening s) : s.sessions.length = s.settings.sessions := by
  rw [opening.2.2.2, length_map, length_range]

theorem Opening.busy (opening : Opening s) : ∃ session ∈ s.sessions, Busy session := by
  obtain ⟨i, mem⟩ := exists_mem_of_ne_nil _ opening.2.1
  have here := opening.getElem? (opening.2.2.1 i mem)
  rw [if_pos mem] at here
  exact ⟨.opening, mem_of_getElem? here, nofun, nofun⟩

theorem kept_cancelInternal (kept : Kept s) (errorCode : ErrorCode) :
    Kept (s.cancelInternal setSessionState errorCode) := by
  rw [cancelInternal]
  split
  · exact kept
  · rename_i going
    obtain ⟨begun, unclosed⟩ := not_or.mp going
    have telling := kept.telling begun unclosed
    split
    · rename_i started
      obtain connecting | connected := started
      · obtain ⟨noRuns, ⟨none, -⟩ | ⟨-, opening⟩⟩ := kept.connecting connecting
        · rw [doClose, if_neg (by tauto), if_pos none]
          exact kept_onClose errorCode kept.sound kept.positive begun unclosed telling
        · refine kept_doClose errorCode kept.sound kept.positive (.inl connecting) telling
            opening.busy ?_ ?_
          · rw [opening.length]
            exact opening.2.2.1
          · rw [noRuns]
            rintro _ ⟨⟩
      · obtain ⟨noOpens, running, runs⟩ := kept.connected connected
        refine kept_doClose errorCode kept.sound kept.positive (.inr connected) telling ?_ ?_ ?_
        · refine ⟨.running, ?_, by rintro ⟨⟩, by rintro ⟨⟩⟩
          rw [running]
          exact mem_replicate.mpr ⟨Nat.pos_iff_ne_zero.mp kept.positive, rfl⟩
        · rw [noOpens]
          rintro _ ⟨⟩
        · rw [running, length_replicate]
          exact runs
    · exact kept_onClose errorCode kept.sound kept.positive begun unclosed telling

/-! ## The completions of the sessions -/

theorem kept_closed_disconnecting (kept : Kept s) (disconnecting : s.state = .disconnecting)
    {i : Nat} (bound : i < s.sessions.length) (cause : ErrorCode) :
    Kept (setSessionState i .closed cause s) := by
  have begun : s.state ≠ .null := by
    rw [disconnecting]
    rintro ⟨⟩
  have unclosed : s.state ≠ .disconnected := by
    rw [disconnecting]
    rintro ⟨⟩
  have telling := kept.telling begun unclosed
  obtain ⟨opens, runs, -⟩ := kept.disconnecting disconnecting
  rw [setSessionState, setSessionStateTo]
  by_cases all : ∀ session ∈ s.sessions.set i .closed, session = .closed
  · rw [setSessionStateWith_last begun unclosed bound all]
    exact kept_onClose cause kept.sound kept.positive begun unclosed telling
  · have open_ : ∃ session ∈ s.sessions.set i .closed, session ≠ .closed := by
      by_contra none
      exact all fun session mem => by_contra fun other => none ⟨session, mem, other⟩
    rw [setSessionStateWith_quiet begun unclosed bound open_]
    · refine ⟨kept.sound, kept.positive, fun null => absurd null begun, fun _ _ => telling, ?_, ?_,
        fun _ => ⟨?_, ?_, open_⟩, fun closed => absurd closed unclosed⟩
      · exact fun connecting => by cases connecting.symm.trans disconnecting
      · exact fun connected => by cases connected.symm.trans disconnecting
      · simp only [length_set]
        exact opens
      · simp only [length_set]
        exact runs
    · rintro (connecting | connected)
      · cases connecting.symm.trans disconnecting
      · cases connected.symm.trans disconnecting
    · exact fun connecting => by cases connecting.symm.trans disconnecting

theorem kept_closed_started (sound : s.stale = false ∧ s.missing = false)
    (positive : 0 < s.settings.sessions)
    (started : s.state = .connecting ∨ s.state = .connected) (telling : Telling s)
    {i : Nat} (bound : i < s.sessions.length)
    (others : s.sessions.length = 1 ∨ ∃ other session, other ≠ i ∧
      s.sessions[other]? = some session ∧ Busy session)
    (opens : ∀ i ∈ s.opens, i < s.sessions.length) (runs : ∀ i ∈ s.runs, i < s.sessions.length)
    (cause : ErrorCode) : Kept (setSessionState i .closed cause s) := by
  have begun : s.state ≠ .null := by
    obtain state | state := started <;> rw [state] <;> nofun
  have unclosed : s.state ≠ .disconnected := by
    obtain state | state := started <;> rw [state] <;> nofun
  rw [setSessionState, setSessionStateTo]
  obtain only | ⟨other, session, apart, here, busy⟩ := others
  · rw [setSessionStateWith_last begun unclosed bound]
    · exact kept_onClose cause sound positive begun unclosed telling
    · intro session mem
      obtain ⟨j, here⟩ := mem_iff_getElem?.mp mem
      obtain ⟨boundToo, -⟩ := List.getElem?_eq_some_iff.mp here
      rw [length_set] at boundToo
      have same : i = j := by omega
      subst same
      rw [getElem?_set_self bound] at here
      exact (Option.some.inj here).symm
  · have remains : session ∈ s.sessions.set i .closed := by
      refine mem_of_getElem? (i := other) ?_
      rw [getElem?_set_ne (Ne.symm apart)]
      exact here
    rw [setSessionStateWith_unexpected started bound ⟨session, remains, busy.2⟩]
    refine kept_doClose (s := { s with sessions := s.sessions.set i .closed }) cause sound positive
      started telling ⟨session, remains, busy⟩ ?_ ?_
    · simp only [length_set]
      exact opens
    · simp only [length_set]
      exact runs

theorem kept_opened (sound : s.stale = false ∧ s.missing = false)
    (positive : 0 < s.settings.sessions) (connecting : s.state = .connecting)
    (telling : Telling s) (noRuns : s.runs = []) (resolved : s.resolving = false)
    (opening : Opening s) {i : Nat} (mem : i ∈ s.opens) (cause : ErrorCode) :
    Kept (setSessionState i .opened cause { s with opens := s.opens.erase i }) := by
  obtain ⟨nodup, -, bounds, states⟩ := opening
  have bound : i < s.sessions.length := by
    rw [Opening.length ⟨nodup, ne_nil_of_mem mem, bounds, states⟩]
    exact bounds i mem
  have after : s.sessions.set i .opened = (range s.settings.sessions).map fun j =>
      if j ∈ s.opens.erase i then .opening else .opened := by
    apply ext_getElem?
    intro j
    rw [states, getElem?_set, getElem?_map, getElem?_map]
    by_cases named : i = j
    · subst named
      rw [if_pos rfl, length_map, length_range, if_pos (bounds i mem),
        getElem?_range (bounds i mem)]
      simp [nodup.not_mem_erase]
    · rw [if_neg named]
      by_cases inside : j < s.settings.sessions
      · rw [getElem?_range inside]
        simp only [Option.map_some, mem_erase_of_ne (Ne.symm named)]
      · rw [getElem?_eq_none (by rw [length_range]; omega)]
        rfl
  rw [setSessionState, setSessionStateTo]
  by_cases last : s.opens.erase i = []
  · have all : ∀ session ∈ s.sessions.set i .opened, session = .opened := by
      intro session mem
      rw [after, last] at mem
      obtain ⟨j, -, rfl⟩ := mem_map.mp mem
      exact if_neg not_mem_nil
    have length : (s.sessions.set i .opened).length = s.settings.sessions := by
      rw [after, length_map, length_range]
    rw [setSessionStateWith_opened (s := { s with opens := s.opens.erase i }) connecting bound all]
    obtain ⟨stateTimers, metricsTimer, more, same, metrics⟩ :=
      onOpenAll_eq (f := setSessionStateTo 0) { s with
        opens := s.opens.erase i
        sessions := s.sessions.set i .opened }
    rw [setSessionStateTo, same]
    refine ⟨sound, positive, by rintro ⟨⟩, fun _ _ => ⟨telling.1, fun notice told => ?_⟩, by rintro ⟨⟩,
      fun _ => ⟨last, ?_, fun j running => ?_⟩, by rintro ⟨⟩, by rintro ⟨⟩⟩
    · obtain before | here := mem_append.mp told
      · exact telling.2 notice before
      · exact metrics notice here
    · show replicate (s.sessions.set i .opened).length _ = _
      rw [length]
    · have running : j ∈ s.runs ++ range (s.sessions.set i .opened).length := running
      rw [noRuns, length, nil_append, mem_range] at running
      exact running
  · obtain ⟨j, late⟩ := exists_mem_of_ne_nil _ last
    have waiting : SessionState.opening ∈ s.sessions.set i .opened := by
      rw [after]
      refine mem_map.mpr ⟨j, mem_range.mpr (bounds j (mem_of_mem_erase late)), ?_⟩
      exact if_pos late
    rw [setSessionStateWith_quiet]
    · refine ⟨sound, positive, ?_, fun _ _ => telling, fun _ => ⟨noRuns, .inr ⟨resolved, ?_⟩⟩,
        ?_, ?_, ?_⟩
      · exact fun null => by cases null.symm.trans connecting
      · exact ⟨nodup.erase i, last, fun j mem => bounds j (mem_of_mem_erase mem), after⟩
      · exact fun connected => by cases connected.symm.trans connecting
      · exact fun disconnecting => by cases disconnecting.symm.trans connecting
      · exact fun closed => by cases closed.symm.trans connecting
    · exact fun null => by cases null.symm.trans connecting
    · exact fun closed => by cases closed.symm.trans connecting
    · exact bound
    · exact ⟨.opening, waiting, by rintro ⟨⟩⟩
    · exact fun _ => by rintro ⟨⟩
    · exact fun _ => ⟨.opening, waiting, by rintro ⟨⟩⟩

/-! ## Steps and runs -/

/-- A session that fails to open is the only one, or it leaves another that is opening. -/
def FailsEarly (s : Base) (event : Event) : Prop :=
  ∀ sessionId errorCode, event = .opened sessionId errorCode → errorCode.failed = true →
    s.state = .connecting → s.sessions.length = 1 ∨
      ∃ other, other ≠ sessionId ∧ s.sessions[other]? = some .opening

theorem kept_onOpen (kept : Kept s) {sessionId : Nat} {errorCode : ErrorCode}
    (mem : sessionId ∈ s.opens) (early : FailsEarly s (.opened sessionId errorCode)) :
    Kept (onOpen sessionId errorCode { s with opens := s.opens.erase sessionId }) := by
  rw [onOpen]
  split
  · rename_i other
    refine ⟨kept.sound, kept.positive, fun null => ?_, kept.telling, fun connecting => ?_,
      fun connected => ?_, fun disconnecting => ?_, kept.disconnected⟩
    · rw [(kept.fresh null).2.2.2.1] at mem
      cases mem
    · exact absurd connecting other.1
    · rw [(kept.connected connected).1] at mem
      cases mem
    · exact absurd disconnecting other.2
  · rename_i going
    by_cases disconnecting : s.state = .disconnecting
    · obtain ⟨opens, runs, open_⟩ := kept.disconnecting disconnecting
      rw [if_pos (.inr disconnecting)]
      apply kept_closed_disconnecting
      · refine ⟨kept.sound, kept.positive, fun null => ?_, kept.telling, fun connecting => ?_,
          fun connected => ?_, fun _ => ⟨fun i mem => opens i (mem_of_mem_erase mem), runs, open_⟩,
          kept.disconnected⟩
        · exact nomatch null.symm.trans disconnecting
        · exact nomatch connecting.symm.trans disconnecting
        · exact nomatch connected.symm.trans disconnecting
      · exact disconnecting
      · exact opens sessionId mem
    · have connecting : s.state = .connecting := by
        by_contra other
        exact going ⟨other, disconnecting⟩
      have telling := kept.telling (by rw [connecting]; nofun) (by rw [connecting]; nofun)
      obtain ⟨noRuns, ⟨-, none⟩ | ⟨resolved, opening⟩⟩ := kept.connecting connecting
      · rw [none] at mem
        cases mem
      · by_cases failed : errorCode.failed = true
        · rw [if_pos (.inl failed)]
          have length := opening.length
          refine kept_closed_started (s := { s with opens := s.opens.erase sessionId }) kept.sound
            kept.positive (.inl connecting) telling ?_ ?_ ?_ ?_ errorCode
          · show sessionId < s.sessions.length
            rw [length]
            exact opening.2.2.1 sessionId mem
          · obtain only | ⟨other, apart, here⟩ := early sessionId errorCode rfl failed connecting
            · exact .inl only
            · exact .inr ⟨other, .opening, apart, here, nofun, nofun⟩
          · intro i later
            show i < s.sessions.length
            rw [length]
            exact opening.2.2.1 i (mem_of_mem_erase later)
          · intro i running
            have running : i ∈ s.runs := running
            rw [noRuns] at running
            cases running
        · rw [if_neg (not_or.mpr ⟨failed, disconnecting⟩)]
          exact kept_opened kept.sound kept.positive connecting telling noRuns resolved opening mem
            errorCode

theorem kept_onRun (kept : Kept s) {sessionId : Nat} (mem : sessionId ∈ s.runs)
    (errorCode : ErrorCode) :
    Kept (onRun sessionId errorCode { s with runs := s.runs.erase sessionId }) := by
  rw [onRun]
  split
  · rename_i other
    refine ⟨kept.sound, kept.positive, fun null => ?_, kept.telling, fun connecting => ?_,
      fun connected => ?_, fun disconnecting => ?_, kept.disconnected⟩
    · rw [(kept.fresh null).2.2.2.2] at mem
      cases mem
    · rw [(kept.connecting connecting).1] at mem
      cases mem
    · exact absurd connected other.1
    · exact absurd disconnecting other.2
  · rename_i going
    by_cases disconnecting : s.state = .disconnecting
    · obtain ⟨opens, runs, open_⟩ := kept.disconnecting disconnecting
      apply kept_closed_disconnecting
      · refine ⟨kept.sound, kept.positive, fun null => ?_, kept.telling, fun connecting => ?_,
          fun connected => ?_, fun _ => ⟨opens, fun i mem => runs i (mem_of_mem_erase mem), open_⟩,
          kept.disconnected⟩
        · exact nomatch null.symm.trans disconnecting
        · exact nomatch connecting.symm.trans disconnecting
        · exact nomatch connected.symm.trans disconnecting
      · exact disconnecting
      · exact runs sessionId mem
    · have connected : s.state = .connected := by
        by_contra other
        exact going ⟨other, disconnecting⟩
      have telling := kept.telling (by rw [connected]; nofun) (by rw [connected]; nofun)
      obtain ⟨noOpens, running, runs⟩ := kept.connected connected
      have length : s.sessions.length = s.settings.sessions := by
        rw [running, length_replicate]
      have bound := runs sessionId mem
      refine kept_closed_started (s := { s with runs := s.runs.erase sessionId }) kept.sound
        kept.positive (.inr connected) telling ?_ ?_ ?_ ?_ errorCode
      · show sessionId < s.sessions.length
        omega
      · by_cases only : s.sessions.length = 1
        · exact .inl only
        · right
          -- Any other session still runs.
          have others : ∃ other, other ≠ sessionId ∧ other < s.settings.sessions := by
            by_cases first : sessionId = 0
            · exact ⟨1, by omega, by omega⟩
            · exact ⟨0, Ne.symm first, by omega⟩
          obtain ⟨other, apart, boundToo⟩ := others
          refine ⟨other, .running, apart, ?_, nofun, nofun⟩
          show s.sessions[other]? = _
          rw [running, getElem?_replicate, if_pos boundToo]
      · intro i opening
        have opening : i ∈ s.opens := opening
        rw [noOpens] at opening
        cases opening
      · intro i later
        show i < s.sessions.length
        rw [length]
        exact runs i (mem_of_mem_erase later)

theorem kept_onDoResolveHost (kept : Kept s) (resolving : s.resolving = true)
    (errorCode : ErrorCode) : Kept (onDoResolveHost errorCode { s with resolving := false }) := by
  rw [onDoResolveHost]
  split
  · rename_i other
    refine ⟨kept.sound, kept.positive, fun null => ?_, kept.telling,
      fun connecting => absurd connecting other, kept.connected, kept.disconnecting,
      kept.disconnected⟩
    rw [(kept.fresh null).2.1] at resolving
    cases resolving
  · rename_i going
    have connecting : s.state = .connecting := Decidable.not_not.mp going
    have begun : s.state ≠ .null := by
      rw [connecting]
      nofun
    have unclosed : s.state ≠ .disconnected := by
      rw [connecting]
      nofun
    have telling := kept.telling begun unclosed
    split
    · rename_i failed
      rw [onError, if_pos failed]
      exact kept_onClose (s := { s with resolving := false }) errorCode kept.sound kept.positive
        begun unclosed telling
    · obtain ⟨noRuns, ⟨-, noOpens⟩ | ⟨resolved, -⟩⟩ := kept.connecting connecting
      · have opens : s.opens ++ range s.settings.sessions = range s.settings.sessions := by
          rw [noOpens, nil_append]
        have all : replicate s.settings.sessions SessionState.opening =
            (range s.settings.sessions).map fun i =>
              if i ∈ range s.settings.sessions then .opening else .opened := by
          refine (eq_replicate_iff.mpr ⟨?_, fun session mem => ?_⟩).symm
          · rw [length_map, length_range]
          · obtain ⟨i, inside, rfl⟩ := mem_map.mp mem
            exact if_pos inside
        rw [doOpen_eq (s := { s with resolving := false }) connecting]
        simp only [opens]
        refine ⟨kept.sound, kept.positive, fun null => absurd null begun, fun _ _ => telling,
          fun _ => ⟨noRuns, .inr ⟨rfl, nodup_range, ?_, fun i mem => mem_range.mp mem, all⟩⟩,
          ?_, ?_, fun closed => absurd closed unclosed⟩
        · exact ne_nil_of_mem (mem_range.mpr kept.positive)
        · exact fun connected => nomatch connected.symm.trans connecting
        · exact fun disconnecting => nomatch disconnecting.symm.trans connecting
      · rw [resolved] at resolving
        cases resolving

theorem kept_transpond (kept : Kept s) : Kept s.transpond := by
  by_cases silent : s.onMetricsCb = false
  · rw [transpond, notifyMetrics, if_neg (by rw [silent]; rintro ⟨⟩)]
    exact kept
  · obtain ⟨more, same, metrics⟩ := notifyMetrics_eq .others s
    rw [transpond, same]
    refine ⟨kept.sound, kept.positive, fun null => absurd (kept.fresh null).1.1 silent,
      fun begun unclosed => ?_, kept.connecting, kept.connected, kept.disconnecting,
      fun closed => absurd (kept.disconnected closed).1 silent⟩
    have telling := kept.telling begun unclosed
    refine ⟨telling.1, fun notice told => ?_⟩
    obtain before | here := mem_append.mp told
    · exact telling.2 notice before
    · exact metrics notice here

theorem kept_step {event : Event} (kept : Kept s) (early : FailsEarly s event)
    (taken : s.step event = some t) : Kept t := by
  cases event with
  | asyncRun onMetricsCb =>
    cases taken
    rw [asyncRunInternal]
    split
    · exact ⟨kept.sound, kept.positive, kept.fresh, kept.telling, kept.connecting, kept.connected,
        kept.disconnecting, kept.disconnected⟩
    · rename_i started
      obtain ⟨⟨-, silent⟩, -, none, noOpens, noRuns⟩ := kept.fresh (Decidable.not_not.mp started)
      obtain ⟨stateTimers, same⟩ := armStateTimer_eq s.settings.timeoutsOpenCloseMs
        Error.Code.operationTimeout.toErrorCode
        (setState .connecting { s with onMetricsCb, handler := true })
      have after : Kept { armStateTimer s.settings.timeoutsOpenCloseMs
          Error.Code.operationTimeout.toErrorCode
          (setState .connecting { s with onMetricsCb, handler := true }) with
          resolving := true } := by
        rw [same]
        refine ⟨kept.sound, kept.positive, nofun, fun _ _ => ⟨rfl, fun notice mem => ?_⟩,
          fun _ => ⟨noRuns, .inl ⟨none, noOpens⟩⟩, nofun, nofun, nofun⟩
        have mem : notice ∈ s.notices := mem
        rw [silent] at mem
        cases mem
      exact after
  | cancel =>
    cases taken
    exact kept_cancelInternal kept _
  | resolved errorCode =>
    obtain ⟨resolving, ⟨⟩⟩ := Option.ite_none_right_eq_some.mp taken
    exact kept_onDoResolveHost kept resolving errorCode
  | opened sessionId errorCode =>
    obtain ⟨mem, ⟨⟩⟩ := Option.ite_none_right_eq_some.mp taken
    exact kept_onOpen kept mem early
  | ran sessionId errorCode =>
    obtain ⟨mem, ⟨⟩⟩ := Option.ite_none_right_eq_some.mp taken
    exact kept_onRun kept mem errorCode
  | pingUs pingUs =>
    cases taken
    have sampled : Kept { s with pingSampleUs := s.pingSampleUs ++ [pingUs] } :=
      ⟨kept.sound, kept.positive, kept.fresh, kept.telling, kept.connecting, kept.connected,
        kept.disconnecting, kept.disconnected⟩
    rw [onPingUs]
    split
    · exact kept
    · simp only
      split
      · exact kept_cancelInternal sampled _
      · exact sampled
  | bytesTransferred bytesTransferred =>
    cases taken
    have measured : Kept { s with measuredBytes := s.measuredBytes + bytesTransferred } :=
      ⟨kept.sound, kept.positive, kept.fresh, kept.telling, kept.connecting, kept.connected,
        kept.disconnecting, kept.disconnected⟩
    rw [onBytesTransferred]
    split
    · exact kept
    · simp only
      split
      · exact kept_cancelInternal measured _
      · exact measured
  | stateTimeout timer =>
    rw [step] at taken
    split at taken
    · cases taken
    · cases taken
      apply kept_cancelInternal
      exact ⟨kept.sound, kept.positive, kept.fresh, kept.telling, kept.connecting, kept.connected,
        kept.disconnecting, kept.disconnected⟩
  | metricsTimeout =>
    obtain ⟨-, ⟨⟩⟩ := Option.ite_none_right_eq_some.mp taken
    exact kept_transpond kept

/-- A client before its run. -/
def initial (settings : SettingsClient) : Base := { settings }

theorem kept_initial {settings : SettingsClient} (positive : 0 < settings.sessions) :
    Kept (initial settings) :=
  ⟨⟨rfl, rfl⟩, positive, fun _ => ⟨⟨rfl, rfl⟩, rfl, rfl, rfl, rfl⟩, fun begun => absurd rfl begun,
    nofun, nofun, nofun, nofun⟩

/-- What the bookkeeping is meant to respect: no traversal goes on after the map was
cleared under it, no session is looked up that is not in the map, and the caller is told
the end of the run once, when the client has disconnected, and nothing after that. -/
def WellKept (s : Base) : Prop :=
  s.stale = false ∧ s.missing = false ∧
    (s.state ≠ .disconnected → ∀ notice ∈ s.notices, Notice.IsMetrics notice) ∧
    (s.state = .disconnected → Told s)

theorem Kept.wellKept (kept : Kept s) : WellKept s := by
  refine ⟨kept.sound.1, kept.sound.2, fun unclosed notice mem => ?_,
    fun closed => (kept.disconnected closed).2⟩
  by_cases null : s.state = .null
  · rw [(kept.fresh null).1.2] at mem
    cases mem
  · exact (kept.telling null unclosed).2 notice mem

/-- Two sessions without any limit. -/
def twoSessions : SettingsClient := ⟨0, 0, 0, 0, 2, 0⟩

/-- One session fails while the other is opening, and the other is then closed. -/
def firstFails : List Event :=
  [.asyncRun true, .resolved .none, .opened 0 Error.Code.protocolError, .opened 1 .none]

/-- One session opens and the other fails. -/
def lastFails : List Event :=
  [.asyncRun true, .resolved .none, .opened 0 .none, .opened 1 Error.Code.protocolError]

end Rstream.Nperf.Base
