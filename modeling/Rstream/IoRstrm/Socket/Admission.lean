import Rstream.IoRstrm.Socket.Connects

/-!
# Admission of connect operations

`m_is_state_non_null` is what `settings` and `async_connect` read on the thread of the
caller, and it should say whether the socket is in use. `on_close` clears it also where it
only records an error for the step in flight and leaves `m_state` as it is: a socket that
is closed or cancelled while it connects looks unused until the step completes, and an
operation that was admitted in between finds the flag cleared when it begins.

Without such a close (`Prompt`) the flag is right: at most one reserved operation waits for
its turn, and only while nothing is connected (`Admitted`).
-/

namespace Rstream.IoRstrm.Socket

open Function (update_of_ne update_self)
open Library

variable {s t : Socket}

/-- The work is no close and no cancellation of an operation with a step in flight. -/
def Undisturbed (inFlight : List (ConnectStep × Nat)) : Option SocketWork → Prop
  | some .closeInternal => inFlight = []
  | some (.cancelConnect op) => ∀ entry ∈ inFlight, entry.2 ≠ op
  | _ => True

instance Undisturbed.decidable (inFlight : List (ConnectStep × Nat)) :
    (work : Option SocketWork) → Decidable (Undisturbed inFlight work)
  | some .closeInternal => inferInstanceAs (Decidable (inFlight = []))
  | some (.cancelConnect op) => inferInstanceAs (Decidable (∀ entry ∈ inFlight, entry.2 ≠ op))
  | some (.asyncConnectInternal _ _ _) => isTrue trivial
  | none => isTrue trivial

/-- No close, and no cancellation of its operation, runs while a step is in flight. -/
def Prompt (s : Socket) : Event → Prop
  | .run index => Undisturbed s.inFlight s.tasks[index]?
  | _ => True

instance Prompt.decidable (s : Socket) : (event : Event) → Decidable (s.Prompt event)
  | .run index => inferInstanceAs (Decidable (Undisturbed s.inFlight s.tasks[index]?))
  | .settings _ | .asyncConnect _ _ | .close | .cancel _ => isTrue trivial
  | .resolved _ _ _ | .connected _ _ | .handshook _ _ => isTrue trivial

/-- A reserved operation waits for its turn. -/
def Waiting (s : Socket) (op : Nat) : Prop := 0 < s.queued op ∧ (s.ops op).reserved = true

structure Admitted (s : Socket) : Prop where
  held : s.state ≠ .null → s.isStateNonNull = true
  waiting : ∀ op, s.Waiting op → s.state = .null ∧ s.isStateNonNull = true
  single : ∀ op other, s.Waiting op → s.Waiting other → op = other

theorem WellFormed.state_ne_null (wellFormed : s.WellFormed) {op : Nat}
    (current : s.connectOp = some op) : s.state ≠ .null := by
  have connecting : s.state = .connecting := by
    rw [wellFormed.connecting, current]
    rfl
  rw [connecting]
  exact nofun

namespace Admitted

theorem of_fewer (admitted : s.Admitted) (state : t.state = s.state)
    (flag : t.isStateNonNull = s.isStateNonNull) (fewer : ∀ op, t.Waiting op → s.Waiting op) :
    t.Admitted where
  held connected := by
    rw [state] at connected
    rw [flag]
    exact admitted.held connected
  waiting op waits := by
    rw [state, flag]
    exact admitted.waiting op (fewer op waits)
  single op other waits waitsToo := admitted.single op other (fewer op waits) (fewer other waitsToo)

theorem of_none (held : t.state ≠ .null → t.isStateNonNull = true) (none : ∀ op, ¬ t.Waiting op) :
    t.Admitted where
  held := held
  waiting op waits := absurd waits (none op)
  single op _ waits := absurd waits (none op)

theorem none_of_state (admitted : s.Admitted) (open' : s.state ≠ .null) (op : Nat) :
    ¬ s.Waiting op :=
  fun waits => open' (admitted.waiting op waits).1

theorem waiting_of_taken {index op : Nat} {work : SocketWork}
    (taken : s.tasks[index]? = some work) (tasks : t.tasks = s.tasks.eraseIdx index)
    (reserved : (t.ops op).reserved = true → (s.ops op).reserved = true) (waits : t.Waiting op) :
    s.Waiting op := by
  refine ⟨?_, reserved waits.2⟩
  have before := queued_of_taken taken op
  have pending := waits.1
  rw [queued, tasks] at pending
  omega

/-- A completed operation keeps what it had reserved. -/
theorem waiting_of_finish {finished op : Nat} (waits : (s.finish finished).Waiting op) :
    s.Waiting op := by
  refine ⟨waits.1, ?_⟩
  have reserved := waits.2
  by_cases same : op = finished
  · subst same
    simp only [finish, update_self] at reserved
    exact reserved
  · simp only [finish, update_of_ne same] at reserved
    exact reserved

theorem asyncConnect (admitted : s.Admitted) (type : SocketType) (endpoint : Endpoint) :
    (s.asyncConnect type endpoint).Admitted := by
  have refusedOf : s.isStateNonNull = true → (s.initiationError endpoint).failed = true := by
    intro set
    rw [initiationError, if_pos set]
    rfl
  -- A waiting operation is the new one, or waits already.
  have waits : ∀ op, (s.asyncConnect type endpoint).Waiting op →
      op = s.nextOp ∧ s.isStateNonNull = false ∨ op ≠ s.nextOp ∧ s.Waiting op := by
    intro op waiting
    by_cases same : op = s.nextOp
    · subst same
      refine .inl ⟨rfl, ?_⟩
      have reserved := waiting.2
      simp only [Socket.asyncConnect, update_self] at reserved
      rw [← Bool.not_eq_true]
      intro set
      rw [refusedOf set] at reserved
      cases reserved
    · refine .inr ⟨same, ?_, ?_⟩
      · have other :
            SocketWork.connects op (.asyncConnectInternal type endpoint s.nextOp) = false :=
          decide_eq_false same
        have queued := waiting.1
        rw [Socket.queued, Socket.asyncConnect, List.countP_append, List.countP_singleton,
          other] at queued
        exact queued
      · have reserved := waiting.2
        simp only [Socket.asyncConnect, update_of_ne same] at reserved
        exact reserved
  have null_of_unset : s.isStateNonNull = false → s.state = .null := by
    intro unset
    by_contra open'
    rw [admitted.held open'] at unset
    cases unset
  have set_of_reserved : s.isStateNonNull = true →
      (s.asyncConnect type endpoint).isStateNonNull = true := by
    intro set
    rw [Socket.asyncConnect, set]
    rfl
  refine ⟨fun open' => set_of_reserved (admitted.held open'), fun op waiting => ?_,
    fun op other waiting waitingToo => ?_⟩
  · rcases waits op waiting with ⟨rfl, unset⟩ | ⟨-, before⟩
    · refine ⟨null_of_unset unset, ?_⟩
      have reserved := waiting.2
      simp only [Socket.asyncConnect, update_self] at reserved
      simp only [Socket.asyncConnect, reserved, Bool.or_true]
    · obtain ⟨null, set⟩ := admitted.waiting op before
      exact ⟨null, set_of_reserved set⟩
  · rcases waits op waiting, waits other waitingToo with
      ⟨⟨rfl, unset⟩ | ⟨-, before⟩, ⟨rfl, unset'⟩ | ⟨-, before'⟩⟩
    · rfl
    · exact absurd ((admitted.waiting _ before').2.symm.trans unset) (by rintro ⟨⟩)
    · exact absurd ((admitted.waiting _ before).2.symm.trans unset') (by rintro ⟨⟩)
    · exact admitted.single op other before before'

theorem refuse (admitted : s.Admitted) (wellFormed : s.WellFormed) {index refused : Nat}
    {work : SocketWork} {outputs : List SocketOutput} {errorCode : ErrorCode}
    (taken : s.tasks[index]? = some work)
    (own : (∃ type endpoint, work = .asyncConnectInternal type endpoint refused ∧ outputs = []) ∨
      work = .cancelConnect refused ∧ outputs = [.cancelling refused] ∧
        (s.ops refused).completed = false)
    (absent : s.connectOp ≠ some refused) :
    ((s.take index outputs).refuse refused errorCode).Admitted := by
  have sound := wellFormed.sound refused
  have queued : 0 < s.queued refused := by
    rcases own with ⟨type, endpoint, rfl, -⟩ | ⟨rfl, -, pending⟩
    · exact WellFormed.queued_pos taken (decide_eq_true rfl)
    · have known : refused < s.nextOp := by
        refine Nat.lt_of_not_le fun beyond => ?_
        have cancelled := sound.cancels (mem_of_taken taken)
        rw [sound.unused beyond] at cancelled
        cases cancelled
      exact (sound.awaited known pending).resolve_left absent
  rw [refuse_eq (s := s.take index outputs) absent]
  have same : (s.take index outputs).releases refused = s.releases refused := rfl
  cases released : s.releases refused with
  | true =>
    -- Its reservation was the only one.
    have reserved : (s.ops refused).reserved = true ∧ s.state = .null := by
      simp only [releases, Bool.and_eq_true, decide_eq_true_eq] at released
      exact released.1
    refine of_none (fun open' => absurd reserved.2 open') fun op waits => ?_
    by_cases own' : op = refused
    · subst own'
      have kept := waits.2
      simp only [update_self, same, released, Bool.not_true, Bool.and_false,
        Bool.false_eq_true] at kept
    · refine own' (admitted.single op refused ?_ ⟨queued, reserved.1⟩)
      refine waiting_of_taken taken rfl (fun kept => ?_) waits
      simp only [update_of_ne own'] at kept
      exact kept
  | false =>
    refine admitted.of_fewer rfl ?_ fun op => waiting_of_taken taken rfl fun kept => ?_
    · simp only [same, released, Bool.not_false, Bool.and_true]
      rfl
    · by_cases own' : op = refused
      · subst own'
        simp only [update_self, same, released, Bool.not_false, Bool.and_true] at kept
        exact kept
      · simp only [update_of_ne own'] at kept
        exact kept

theorem step (admitted : s.Admitted) (wellFormed : s.WellFormed) {event : Event}
    (prompt : s.Prompt event) (taken : s.step event = some t) : t.Admitted := by
  cases wellFormed.step_cases taken with
  | settings settings =>
    rw [setSettings]
    split
    · exact admitted
    · exact admitted.of_fewer rfl rfl fun _ waits => waits
  | asyncConnect type endpoint => exact admitted.asyncConnect type endpoint
  | close =>
    refine admitted.of_fewer rfl rfl fun op waits => ⟨?_, waits.2⟩
    have queued := waits.1
    rw [Socket.queued, Socket.close, List.countP_append] at queued
    exact queued
  | @cancel cancelled known =>
    refine admitted.of_fewer rfl rfl fun op waits => ⟨?_, ?_⟩
    · have queued := waits.1
      rw [Socket.queued, Socket.cancel, List.countP_append] at queued
      exact queued
    · have reserved := waits.2
      by_cases same : op = cancelled
      · subst same
        simp only [Socket.cancel, modifyOp, update_self] at reserved
        exact reserved
      · simp only [Socket.cancel, modifyOp, update_of_ne same] at reserved
        exact reserved
  | ignored found late =>
    exact admitted.of_fewer rfl rfl fun op => waiting_of_taken found rfl id
  | refused found own absent failed => exact admitted.refuse wellFormed found own absent
  | @begun index begun type endpoint found pending reserved null =>
    have waits : s.Waiting begun :=
      ⟨WellFormed.queued_pos found (decide_eq_true rfl), reserved⟩
    refine of_none (fun _ => (admitted.waiting begun waits).2) fun op waitsToo => ?_
    by_cases same : op = begun
    · subst same
      have before := queued_of_taken found op
      rw [SocketWork.connects, decide_eq_true rfl, if_pos rfl] at before
      have once := (wellFormed.sound op).once
      have after : 0 < (s.tasks.eraseIdx index).countP (SocketWork.connects op) := waitsToo.1
      omega
    · refine same (admitted.single op begun (waiting_of_taken found rfl (fun kept => ?_) waitsToo)
        waits)
      simp only [Socket.begin, doResolveHost, start, update_of_ne same] at kept
      exact kept
  | @stopped index op work output found own current =>
    obtain ⟨step, inFlight⟩ := wellFormed.single op current
    rw [Prompt, found, inFlight] at prompt
    rcases own with ⟨rfl, -⟩ | ⟨rfl, -⟩
    · cases prompt
    · exact absurd rfl (prompt (step, op) (List.mem_singleton_self _))
  | closed found connected =>
    have open' : s.state ≠ .null := by
      rw [connected]
      rintro ⟨⟩
    refine of_none (fun null => absurd rfl null) fun op waits => ?_
    refine admitted.none_of_state open' op (waiting_of_taken found ?_ ?_ waits)
    · rfl
    · exact fun kept => kept
  | proceeded delivered current inFlight follows clear quiet =>
    exact admitted.of_fewer rfl rfl fun _ waits => waits
  | failed delivered current inFlight failed recorded =>
    refine of_none (fun null => absurd rfl null) fun op waits => ?_
    exact admitted.none_of_state (wellFormed.state_ne_null current) op
      (waiting_of_finish waits)
  | connected current inFlight succeeded clear endpoint =>
    have open' := wellFormed.state_ne_null current
    refine of_none (fun _ => admitted.held open') fun op waits => ?_
    exact admitted.none_of_state open' op (waiting_of_finish waits)

end Admitted

theorem admitted_initial : Admitted {} :=
  .of_none (fun open' => absurd rfl open') fun _ waits => absurd waits.1 (Nat.lt_irrefl 0)

/-- A close or a cancellation while a step is in flight leaves a socket that connects with the
flag cleared. -/
theorem WellFormed.unset_of_not_prompt (wellFormed : s.WellFormed) {event : Event}
    (late : ¬ s.Prompt event) (taken : s.step event = some t) :
    t.state ≠ .null ∧ t.isStateNonNull = false := by
  cases wellFormed.step_cases taken with
  | stopped found own current => exact ⟨wellFormed.state_ne_null current, rfl⟩
  | settings | asyncConnect | close | cancel | connected => exact absurd trivial late
  | @ignored index work output found late' =>
    refine absurd ?_ late
    rw [Prompt, found]
    rcases late' with ⟨rfl, -, null⟩ | ⟨op, rfl, -, completed⟩
    · exact wellFormed.idle (wellFormed.absent_of_state (by rw [null]; exact nofun))
    · rintro ⟨step, other⟩ mem rfl
      have current := (wellFormed.inFlight_eq mem).1
      rw [((wellFormed.sound other).current current).2.1] at completed
      cases completed
  | @refused index refused work outputs errorCode found own absent failed =>
    refine absurd ?_ late
    rw [Prompt, found]
    rcases own with ⟨type, endpoint, rfl, -⟩ | ⟨rfl, -⟩
    · trivial
    · rintro ⟨step, other⟩ mem rfl
      exact absent (wellFormed.inFlight_eq mem).1
  | begun found pending reserved null =>
    refine absurd ?_ late
    rw [Prompt, found]
    trivial
  | closed found connected =>
    refine absurd ?_ late
    rw [Prompt, found]
    exact wellFormed.idle (wellFormed.absent_of_state (by rw [connected]; exact nofun))
  | @proceeded event op step next outputs delivered =>
    cases event with
    | run => cases delivered
    | _ => exact absurd trivial late
  | @failed event op step errorCode delivered =>
    cases event with
    | run => cases delivered
    | _ => exact absurd trivial late

/-- **Admission.** In every run without a close or a cancellation during a step in flight,
`m_is_state_non_null` is set whenever `m_state` is not null; then `settings` changes nothing
and `async_connect` admits nothing. The first such close or cancellation of a run leaves the
flag cleared although the socket still connects. -/
theorem admission_flag (run : Run step Prompt {} s) :
    (s.state ≠ .null → s.isStateNonNull = true ∧
      (∀ settings t, s.step (.settings settings) = some t → t.settings = s.settings) ∧
      (∀ type endpoint t, s.step (.asyncConnect type endpoint) = some t →
        (t.ops s.nextOp).reserved = false ∧
          (t.ops s.nextOp).initiationError = Error.Code.invalidState)) ∧
    (∀ event t, ¬ s.Prompt event → s.step event = some t →
      t.state ≠ .null ∧ t.isStateNonNull = false) := by
  have wellFormed := WellFormed.run run
  have admitted : s.Admitted := by
    have both := run.invariant (p := fun u => u.WellFormed ∧ u.Admitted)
      ⟨wellFormed_initial, admitted_initial⟩
      fun _ _ _ before prompt taken =>
        ⟨before.1.step taken, before.2.step before.1 prompt taken⟩
    exact both.2
  refine ⟨fun open' => ⟨admitted.held open', fun settings t taken => ?_,
    fun type endpoint t taken => ?_⟩, fun event t late => wellFormed.unset_of_not_prompt late⟩
  · cases taken
    rw [setSettings, if_pos (admitted.held open')]
  · cases taken
    have refused : s.initiationError endpoint = Error.Code.invalidState := by
      rw [initiationError, if_pos (admitted.held open')]
    simp only [asyncConnect, update_self, refused]
    exact ⟨rfl, trivial⟩

/-- A socket is asked to connect and begins. -/
def beginConnect : List Event := [.asyncConnect .client { idName := some "tunnel" }, .run 0]

theorem beginConnect_isSome : (exec step {} beginConnect).isSome = true := by decide

/-- A socket that resolves the address of the server. -/
def resolvingSocket : Socket := (exec step {} beginConnect).get beginConnect_isSome

theorem resolvingSocket_refuses :
    resolvingSocket.state = .connecting ∧ resolvingSocket.isStateNonNull = true := by
  have good : GoodAlong step Prompt {} beginConnect := by decide
  have run : Run step Prompt {} resolvingSocket :=
    Run.of_exec good (Option.some_get beginConnect_isSome).symm
  have connecting : resolvingSocket.state = .connecting := by decide
  exact ⟨connecting, ((admission_flag run).1 (by rw [connecting]; exact nofun)).1⟩

/-- The socket is closed while it resolves, another operation is admitted, the resolver reports
the abort, and the other operation begins. -/
def reconnectWhileClosing : List Event :=
  beginConnect ++ [.close, .run 0, .asyncConnect .client { idName := some "other" },
    .resolved 0 .operationAborted true, .run 0]

theorem reconnectWhileClosing_isSome :
    (exec step {} reconnectWhileClosing).isSome = true := by
  decide

/-- A socket that connects with the flag cleared. -/
def uncoveredSocket : Socket :=
  (exec step {} reconnectWhileClosing).get reconnectWhileClosing_isSome

/-- The settings of a socket that connects are changed, and a second operation is admitted. -/
theorem uncoveredSocket_admits :
    Reaches step {} uncoveredSocket ∧ uncoveredSocket.state = .connecting ∧
      uncoveredSocket.connectOp = some 1 ∧ uncoveredSocket.isStateNonNull = false ∧
      (uncoveredSocket.step (.settings ⟨{ noToken := true }⟩)).any
        (fun t => decide (t.settings ≠ uncoveredSocket.settings)) = true ∧
      (uncoveredSocket.step (.asyncConnect .client { idName := some "third" })).any
        (fun t => (t.ops 2).reserved) = true :=
  ⟨.of_exec reconnectWhileClosing_isSome, by decide, by decide, by decide, by decide, by decide⟩

end Rstream.IoRstrm.Socket
