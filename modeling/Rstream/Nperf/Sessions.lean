import Mathlib.Tactic.Tauto
import Rstream.Library.Counting
import Rstream.Nperf.Client

/-!
# The sessions of the nperf client

While the client connects, its sessions are opening or opened, and one of them is still
opening. When the last of them has opened all are run; the first that closes makes the
client disconnect. To disconnect is to cancel the sessions and to close the opened ones,
which have no operation in flight that would report the end.

That last traversal closes the client, and clears the map it traverses, if no session is
left that is neither opened nor closed. It happens when the last session to open fails and
all the others have opened. In the runs without such a failure no traversal outlives the
map.
-/

namespace Rstream.Nperf.Base

open IoRstrm List

variable {s t : Base}

/-! ## What the small steps do -/

/-- A notice that carries metrics. -/
def Notice.IsMetrics : Notice → Prop
  | .metrics _ _ => True
  | .completed _ => False

theorem notifyMetrics_eq (type : MetricsType) (s : Base) :
    ∃ more, s.notifyMetrics type = { s with notices := s.notices ++ more } ∧
      ∀ notice ∈ more, Notice.IsMetrics notice := by
  rw [notifyMetrics]
  split
  · refine ⟨_, rfl, fun notice mem => ?_⟩
    rw [mem_singleton.mp mem]
    trivial
  · exact ⟨[], by rw [append_nil], nofun⟩

theorem armStateTimer_eq (timeoutMs : Nat) (errorCode : ErrorCode) (s : Base) :
    ∃ stateTimers, s.armStateTimer timeoutMs errorCode = { s with stateTimers } := by
  rw [armStateTimer]
  split
  · exact ⟨s.stateTimers, rfl⟩
  · exact ⟨_, rfl⟩

theorem armMetricsTimer_eq (s : Base) :
    ∃ metricsTimer, s.armMetricsTimer = { s with metricsTimer } := by
  rw [armMetricsTimer]
  split
  · exact ⟨s.metricsTimer, rfl⟩
  · exact ⟨true, rfl⟩

/-- The client after `on_close`. -/
def ended (notices : List Notice) (s : Base) : Base :=
  { s with
    state := .disconnected
    stateTimers := []
    metricsTimer := false
    sessions := []
    onMetricsCb := false
    notices
    handler := false }

/-- Closing tells the caller at most more metrics, and then the end of the run. -/
theorem onClose_eq (errorCode : ErrorCode) (begun : s.state ≠ .null)
    (unclosed : s.state ≠ .disconnected) : ∃ more last, s.onClose errorCode =
      s.ended (s.notices ++ more ++ last) ∧ (∀ notice ∈ more, Notice.IsMetrics notice) ∧
      (s.handler = true → ∃ cause, last = [.completed cause]) := by
  rw [onClose, if_neg (not_or.mpr ⟨begun, unclosed⟩)]
  simp only
  generalize (if s.errorCode.failed = true then s.errorCode else errorCode) = cause
  have told : ∃ more, (if cause.failed = true then { s.setState .disconnected with sessions := [] }
      else notifyMetrics .others { s.setState .disconnected with sessions := [] }) =
      { s.setState .disconnected with sessions := [], notices := s.notices ++ more } ∧
      ∀ notice ∈ more, Notice.IsMetrics notice := by
    split
    · refine ⟨[], ?_, nofun⟩
      rw [append_nil]
      rfl
    · exact notifyMetrics_eq .others _
  obtain ⟨more, same, metrics⟩ := told
  rw [same]
  by_cases stored : s.handler = true
  · refine ⟨more, [.completed cause], ?_, metrics, fun _ => ⟨cause, rfl⟩⟩
    simp [ended, setState, stored]
  · refine ⟨more, [], ?_, metrics, fun claimed => absurd claimed stored⟩
    simp [ended, setState, stored]

/-! ## Traversals and the depth of `set_session_state` -/

/-- What every call of a traversal keeps holds after it, if no call clears the map. -/
theorem traverse_rule {body : Nat → Base → Base} {p : List Nat → Base → Prop} {ids : List Nat}
    (kept : ∀ i rest s, p (i :: rest) s → (body i s).sessions ≠ [] ∧ p rest (body i s)) :
    ∀ s, p ids s → p [] (traverse body ids s) := by
  induction ids with
  | nil => exact fun _ initially => initially
  | cons i rest ih =>
    intro s initially
    obtain ⟨remains, after⟩ := kept i rest s initially
    rw [traverse, if_neg remains]
    exact ih (body i s) after

/-! ## What `set_session_state` does -/

section SetSessionState

variable {f : SetSessionState} {i : Nat} {state : SessionState} {cause : ErrorCode}

theorem setSessionStateWith_quiet (begun : s.state ≠ .null) (unclosed : s.state ≠ .disconnected)
    (bound : i < s.sessions.length)
    (open_ : ∃ session ∈ s.sessions.set i state, session ≠ .closed)
    (expected : s.state = .connecting ∨ s.state = .connected → state ≠ .closed)
    (waiting : s.state = .connecting → ∃ session ∈ s.sessions.set i state, session ≠ .opened) :
    setSessionStateWith f i state cause s = { s with sessions := s.sessions.set i state } := by
  obtain ⟨session, mem, other⟩ := open_
  rw [setSessionStateWith, if_neg (not_or.mpr ⟨begun, unclosed⟩), if_neg (Nat.not_le.mpr bound)]
  simp only
  rw [if_neg fun all => other (all session mem), if_neg fun unexpected =>
    expected unexpected.1 unexpected.2, if_neg]
  rintro ⟨connecting, all⟩
  obtain ⟨late, memLate, unopened⟩ := waiting connecting
  exact unopened (all late memLate)

theorem setSessionStateWith_last (begun : s.state ≠ .null) (unclosed : s.state ≠ .disconnected)
    (bound : i < s.sessions.length)
    (all : ∀ session ∈ s.sessions.set i state, session = .closed) :
    setSessionStateWith f i state cause s =
      onClose cause { s with sessions := s.sessions.set i state } := by
  rw [setSessionStateWith, if_neg (not_or.mpr ⟨begun, unclosed⟩), if_neg (Nat.not_le.mpr bound)]
  simp only
  rw [if_pos all]

/-- A session closes before the client disconnects. -/
theorem setSessionStateWith_unexpected (started : s.state = .connecting ∨ s.state = .connected)
    (bound : i < s.sessions.length)
    (open_ : ∃ session ∈ s.sessions.set i .closed, session ≠ .closed) :
    setSessionStateWith f i .closed cause s =
      doClose f cause { s with sessions := s.sessions.set i .closed } := by
  obtain ⟨session, mem, other⟩ := open_
  have running : ¬ (s.state = .null ∨ s.state = .disconnected) := by
    obtain connecting | connected := started
    · rw [connecting]
      nofun
    · rw [connected]
      nofun
  rw [setSessionStateWith, if_neg running, if_neg (Nat.not_le.mpr bound)]
  simp only
  rw [if_neg fun all => other (all session mem), if_pos (by simpa using started), cancelInternal,
    if_neg running, if_pos started]

theorem setSessionStateWith_opened (connecting : s.state = .connecting)
    (bound : i < s.sessions.length)
    (all : ∀ session ∈ s.sessions.set i .opened, session = .opened) :
    setSessionStateWith f i .opened cause s =
      onOpenAll f { s with sessions := s.sessions.set i .opened } := by
  have mem : SessionState.opened ∈ s.sessions.set i .opened := mem_set bound _
  rw [setSessionStateWith, if_neg (by rw [connecting]; nofun), if_neg (Nat.not_le.mpr bound)]
  simp only
  rw [if_neg fun closed => absurd (closed _ mem) nofun, if_neg (fun unexpected => nomatch unexpected.2),
    if_pos ⟨connecting, all⟩]

end SetSessionState

/-- A session that is neither opened nor closed. -/
def Busy (session : SessionState) : Prop := session ≠ .opened ∧ session ≠ .closed

/-- Setting the state of a session leaves the others. -/
theorem mem_set_of_ne {sessions : List SessionState} {i : Nat} {before after session : SessionState}
    (here : sessions[i]? = some before) (mem : session ∈ sessions) (apart : session ≠ before) :
    session ∈ sessions.set i after :=
  (Library.perm_set_of_taken here after).mem_iff.mp
    (mem_cons_of_mem _ (Library.mem_eraseIdx_of_ne here apart mem))

/-- A session that is neither opened nor closed keeps the traversal of `do_close` from
closing the client. -/
theorem traverse_closing {f : SetSessionState} (disconnecting : s.state = .disconnecting)
    (busy : ∃ session ∈ s.sessions, Busy session) (ids : List Nat) :
    ∃ sessions, traverse (fun sessionId s =>
        if s.sessions[sessionId]? = some .opened then setSessionStateWith f sessionId .closed .none s
        else s) ids s = { s with sessions } ∧ sessions.length = s.sessions.length ∧
      ∃ session ∈ sessions, Busy session := by
  refine traverse_rule (p := fun _ t => ∃ sessions, t = { s with sessions } ∧
    sessions.length = s.sessions.length ∧ ∃ session ∈ sessions, Busy session) ?_ s
    ⟨s.sessions, rfl, rfl, busy⟩
  rintro i - - ⟨sessions, rfl, length, session, mem, unopened, unclosed⟩
  simp only
  split
  · rename_i here
    have remains : session ∈ sessions.set i .closed := mem_set_of_ne here mem unopened
    obtain ⟨bound, -⟩ := List.getElem?_eq_some_iff.mp here
    rw [setSessionStateWith_quiet]
    · exact ⟨ne_nil_of_mem remains, sessions.set i .closed, rfl,
        length_set.trans length, session, remains, unopened, unclosed⟩
    · exact fun null => nomatch null.symm.trans disconnecting
    · exact fun closed => nomatch closed.symm.trans disconnecting
    · exact bound
    · exact ⟨session, remains, unclosed⟩
    · rintro (connecting | connected)
      · exact nomatch connecting.symm.trans disconnecting
      · exact nomatch connected.symm.trans disconnecting
    · exact fun connecting => nomatch connecting.symm.trans disconnecting
  · exact ⟨ne_nil_of_mem mem, sessions, rfl, length, session, mem, unopened, unclosed⟩

theorem doClose_eq {f : SetSessionState} (errorCode : ErrorCode)
    (started : s.state = .connecting ∨ s.state = .connected)
    (busy : ∃ session ∈ s.sessions, Busy session) :
    ∃ sessions stateTimers code, doClose (setSessionStateWith f) errorCode s = { s with
        state := .disconnecting
        sessions
        stateTimers
        metricsTimer := false
        errorCode := code } ∧
      sessions.length = s.sessions.length ∧ ∃ session ∈ sessions, session ≠ .closed := by
  have some : s.sessions ≠ [] := by
    obtain ⟨session, mem, -⟩ := busy
    exact ne_nil_of_mem mem
  have before : ∃ stateTimers code, armStateTimer s.settings.timeoutsOpenCloseMs .none
      (if errorCode.failed ∧ ¬ s.errorCode.failed then
        { s.setState .disconnecting with errorCode } else s.setState .disconnecting) =
      { s with
        state := .disconnecting
        stateTimers
        metricsTimer := false
        errorCode := code } := by
    split
    · obtain ⟨stateTimers, same⟩ := armStateTimer_eq s.settings.timeoutsOpenCloseMs .none
        { s.setState .disconnecting with errorCode }
      exact ⟨stateTimers, errorCode, same⟩
    · obtain ⟨stateTimers, same⟩ := armStateTimer_eq s.settings.timeoutsOpenCloseMs .none
        (s.setState .disconnecting)
      exact ⟨stateTimers, s.errorCode, same⟩
  obtain ⟨stateTimers, code, same⟩ := before
  obtain ⟨sessions, after, length, session, mem, busy⟩ := traverse_closing (f := f)
    (s := { s with
      state := .disconnecting
      stateTimers
      metricsTimer := false
      errorCode := code }) rfl busy (range s.sessions.length)
  refine ⟨sessions, stateTimers, code, ?_, length, session, mem, busy.2⟩
  have settings : ∀ t : Base, t = (if errorCode.failed ∧ ¬ s.errorCode.failed then
      { s.setState .disconnecting with errorCode } else s.setState .disconnecting) →
      t.settings = s.settings := by
    rintro t rfl
    split <;> rfl
  rw [doClose, if_neg (by tauto), if_neg some]
  simp only
  rw [show (s.setState .disconnecting).errorCode = s.errorCode from rfl, settings _ rfl, same]
  exact after

/-! ## Opening and running all sessions -/

/-- The sessions a traversal has met have a state, and the others are to come. -/
def Met (state : SessionState) (count : Nat) (done rest : List Nat)
    (sessions : List SessionState) : Prop :=
  done ++ rest = List.range count ∧ sessions.length = count ∧ ∀ i ∈ done, sessions[i]? = some state

section Met

variable {state : SessionState} {count i : Nat} {done rest : List Nat}
  {sessions : List SessionState}

theorem Met.bound (met : Met state count done (i :: rest) sessions) : i < sessions.length := by
  have mem : i ∈ range count := by
    rw [← met.1]
    exact mem_append_right done mem_cons_self
  rw [met.2.1]
  exact mem_range.mp mem

theorem Met.next (met : Met state count done (i :: rest) sessions) :
    Met state count (done ++ [i]) rest (sessions.set i state) := by
  obtain ⟨all, length, met_⟩ := met
  refine ⟨by rw [append_assoc]; exact all, length_set.trans length, fun j mem => ?_⟩
  by_cases named : i = j
  · subst named
    exact getElem?_set_self (Met.bound ⟨all, length, met_⟩)
  · rw [getElem?_set_ne named]
    obtain before | last := mem_append.mp mem
    · exact met_ j before
    · exact absurd (mem_singleton.mp last).symm named

theorem Met.all (met : Met state count done [] sessions) :
    done = range count ∧ sessions = replicate count state := by
  obtain ⟨all, length, met⟩ := met
  rw [append_nil] at all
  refine ⟨all, eq_replicate_iff.mpr ⟨length, fun session mem => ?_⟩⟩
  obtain ⟨j, here⟩ := mem_iff_getElem?.mp mem
  obtain ⟨bound, -⟩ := List.getElem?_eq_some_iff.mp here
  have there := met j (by rw [all, mem_range, ← length]; exact bound)
  exact Option.some.inj (here.symm.trans there)

end Met

theorem doRun_eq {f : SetSessionState} (connected : s.state = .connected) :
    ∃ stateTimers metricsTimer, doRun (setSessionStateWith f) s = { s with
      measuredBytes := 0
      stateTimers
      metricsTimer
      sessions := replicate s.sessions.length .running
      runs := s.runs ++ range s.sessions.length } := by
  obtain ⟨stateTimers, same⟩ := armStateTimer_eq s.settings.timeoutsMaxTimeMs .none
    { s with measuredBytes := 0 }
  obtain ⟨metricsTimer, sameToo⟩ := armMetricsTimer_eq
    { s with measuredBytes := 0, stateTimers }
  refine ⟨stateTimers, metricsTimer, ?_⟩
  rw [doRun]
  simp only
  rw [same, sameToo]
  have met : ∃ sessions done, traverse (fun sessionId s =>
      { setSessionStateWith f sessionId .running .none s with
        runs := (setSessionStateWith f sessionId .running .none s).runs ++ [sessionId] })
      (range s.sessions.length) { s with measuredBytes := 0, stateTimers, metricsTimer } =
      { s with
        measuredBytes := 0
        stateTimers
        metricsTimer
        sessions
        runs := s.runs ++ done } ∧ Met .running s.sessions.length done [] sessions := by
    refine traverse_rule (p := fun rest t => ∃ sessions done, t = { s with
      measuredBytes := 0
      stateTimers
      metricsTimer
      sessions
      runs := s.runs ++ done } ∧ Met .running s.sessions.length done rest sessions) ?_ _ ?_
    · rintro i rest - ⟨sessions, done, rfl, met⟩
      have mem : SessionState.running ∈ sessions.set i .running := mem_set met.bound _
      rw [setSessionStateWith_quiet]
      · refine ⟨ne_nil_of_mem mem, sessions.set i .running, done ++ [i], ?_, met.next⟩
        rw [append_assoc]
      · exact fun null => nomatch null.symm.trans connected
      · exact fun closed => nomatch closed.symm.trans connected
      · exact met.bound
      · exact ⟨.running, mem, nofun⟩
      · exact fun _ => nofun
      · exact fun connecting => nomatch connecting.symm.trans connected
    · exact ⟨s.sessions, [], by rw [append_nil], rfl, rfl, nofun⟩
  obtain ⟨sessions, done, after, met⟩ := met
  obtain ⟨rfl, rfl⟩ := met.all
  exact after

theorem onOpenAll_eq {f : SetSessionState} (s : Base) :
    ∃ stateTimers metricsTimer more, onOpenAll (setSessionStateWith f) s = { s with
        state := .connected
        notices := s.notices ++ more
        measuredBytes := 0
        stateTimers
        metricsTimer
        sessions := replicate s.sessions.length .running
        runs := s.runs ++ range s.sessions.length } ∧
      ∀ notice ∈ more, Notice.IsMetrics notice := by
  obtain ⟨first, same, metrics⟩ := notifyMetrics_eq .connection (s.setState .connected)
  obtain ⟨second, sameToo, metricsToo⟩ := notifyMetrics_eq .handshake
    { s.setState .connected with notices := (s.setState .connected).notices ++ first }
  obtain ⟨stateTimers, metricsTimer, after⟩ := doRun_eq (f := f)
    (s := { s.setState .connected with notices := s.notices ++ first ++ second }) rfl
  refine ⟨stateTimers, metricsTimer, first ++ second, ?_, fun notice mem => ?_⟩
  · rw [onOpenAll, same, sameToo, ← append_assoc]
    exact after
  · obtain here | there := mem_append.mp mem
    · exact metrics notice here
    · exact metricsToo notice there

theorem doOpen_eq (connecting : s.state = .connecting) : s.doOpen = { s with
    sessions := replicate s.settings.sessions .opening
    opens := s.opens ++ range s.settings.sessions } := by
  have met : ∃ sessions done, s.doOpen = { s with
      sessions
      opens := s.opens ++ done } ∧ Met .opening s.settings.sessions done [] sessions := by
    rw [doOpen]
    simp only [length_replicate]
    refine traverse_rule (p := fun rest t => ∃ sessions done, t = { s with
      sessions
      opens := s.opens ++ done } ∧ Met .opening s.settings.sessions done rest sessions) ?_ _ ?_
    · rintro i rest - ⟨sessions, done, rfl, met⟩
      have mem : SessionState.opening ∈ sessions.set i .opening := mem_set met.bound _
      rw [setSessionState, setSessionStateTo, setSessionStateWith_quiet]
      · refine ⟨ne_nil_of_mem mem, sessions.set i .opening, done ++ [i], ?_, met.next⟩
        rw [append_assoc]
      · exact fun null => nomatch null.symm.trans connecting
      · exact fun closed => nomatch closed.symm.trans connecting
      · exact met.bound
      · exact ⟨.opening, mem, nofun⟩
      · exact fun _ => nofun
      · exact fun _ => ⟨.opening, mem, nofun⟩
    · exact ⟨_, [], by rw [append_nil], rfl, length_replicate, nofun⟩
  obtain ⟨sessions, done, after, met⟩ := met
  obtain ⟨rfl, rfl⟩ := met.all
  exact after

end Rstream.Nperf.Base
