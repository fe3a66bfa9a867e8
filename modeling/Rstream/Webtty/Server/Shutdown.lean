import Mathlib.Data.List.Nodup
import Rstream.Library.Lookups
import Rstream.Webtty.Server.Draining
import Rstream.Webtty.Server.Impl

/-!
# The end of a server

A session that the server made runs once: `async_run` is the first thing dispatched to its
strand and is dispatched once (`Hosted.Sound`). It then invokes its run handler exactly
once, which the server answers by taking the session from `m_sessions`. The server
invokes its own run handler when `m_sessions` is empty and no session can be added any
more, so that every session has ended by then (`Inv`).

All this rests on the ids of the sessions: the server knows a session by its id only, and
does not look at whether the map took the session it inserts. A session with the id of
another one is not in the map, and its end takes the other one from it (`Distinct` is
what excludes this).
-/

namespace Rstream.Webtty.Server

open Library List Option
open IoRstrm (ErrorCode)

/-! ## One session -/

theorem Effect.running {prims : ProofPrimitives} {heard : DataPayload → Prop} {s t : View}
    (effect : Effect prims heard s t)
    (running : s.state ≠ .null) : t.state ≠ .null := by
  cases effect with
  | begin null | close _ | report _ _ | finish _ _ _ | opened _ | spoil _ _ => exact nofun
  | _ => exact running

theorem Effect.completions_le {prims : ProofPrimitives} {heard : DataPayload → Prop} {s t : View}
    (effect : Effect prims heard s t) :
    s.completions.length ≤ t.completions.length := by
  cases effect with
  | complete errorCode handler =>
    show s.completions.length ≤ (s.completions ++ [errorCode]).length
    rw [length_append]
    exact Nat.le_add_right _ _
  | _ => exact Nat.le_refl _

namespace Session

variable {prims : ProofPrimitives} {heard : DataPayload → Prop} {settings : Settings}
  {s t : Session}

theorem running_of_leads (chain : Leads prims heard s t) (running : s.state ≠ .null) :
    t.state ≠ .null := by
  have viewed : s.view.state ≠ .null := running
  show t.view.state ≠ .null
  rw [Leads] at chain
  generalize s.view = v at chain viewed
  generalize t.view = w at chain
  induction chain with
  | refl => exact viewed
  | tail _ last ih => exact last.running ih

theorem completions_of_leads (chain : Leads prims heard s t) :
    s.completions.length ≤ t.completions.length := by
  show s.view.completions.length ≤ t.view.completions.length
  rw [Leads] at chain
  generalize s.view = v at chain
  generalize t.view = w at chain
  induction chain with
  | refl => exact Nat.le_refl _
  | tail _ last ih => exact ih.trans last.completions_le

theorem handled_of_leads (chain : Leads prims heard s t) (handled : s.view.Handled) :
    t.view.Handled := by
  rw [Leads] at chain
  generalize s.view = v at chain handled
  generalize t.view = w at chain
  induction chain with
  | refl => exact handled
  | tail _ last ih => exact ih.kept last

/-- Nothing of a new session is in flight. -/
theorem step_new {event : Event} {world : World} (internal : event.internal = true) :
    step prims settings {} (event, world) = none := by
  cases event with
  | run | cancel => cases internal
  | sent index errorCode | outputRead index result => rfl
  | _ => rfl

/-- A session that was asked to run has begun. -/
theorem asyncRunInternal_running (world : World) (null : s.state = .null) :
    (s.asyncRunInternal prims settings world).state ≠ .null := by
  rw [asyncRunInternal.eq_def, if_neg (not_not.mpr null)]
  have armed := congrArg View.state (view_armStateTimer settings.timeoutOpen
    ({ s with handler := true }.setState .connecting))
  have running : (({ s with handler := true }.setState .connecting).armStateTimer
      settings.timeoutOpen).state ≠ .null := by
    intro null
    cases armed.symm.trans null
  generalize ({ s with handler := true }.setState .connecting).armStateTimer
    settings.timeoutOpen = t at running
  simp only
  split
  · exact running
  · have chain : Leads prims (fun _ => True) t (t.doOpen prims settings world) :=
      leads_doOpen prims settings world t
    exact running_of_leads chain running

end Session

/-- A session of the server: it is new and about to run, or it runs and is not asked to run
again. -/
structure Hosted.Sound (hosted : Hosted) : Prop where
  live : hosted.session.Live
  handled : hosted.session.view.Handled
  mailbox : (hosted.session = {} ∧ ∃ tasks, hosted.tasks = .run :: tasks ∧ .run ∉ tasks) ∨
    hosted.session.state ≠ .null ∧ .run ∉ hosted.tasks

namespace Hosted.Sound

variable {prims : ProofPrimitives} {settings : Settings} {world : World} {hosted : Hosted}
  {session : Session}

theorem new (id : Bytes) : Sound { id := id } where
  live := Session.live_init
  handled := ⟨fun _ => rfl, rfl⟩
  mailbox := .inl ⟨rfl, [], rfl, not_mem_nil⟩

/-- A cancellation is dispatched to the session. -/
theorem cancelled (sound : hosted.Sound) :
    Sound { hosted with tasks := hosted.tasks ++ [.cancel] } where
  live := sound.live
  handled := sound.handled
  mailbox := by
    rcases sound.mailbox with ⟨new, tasks, first, later⟩ | ⟨running, later⟩
    · refine .inl ⟨new, tasks ++ [.cancel], ?_, ?_⟩
      · show hosted.tasks ++ _ = _
        rw [first, cons_append]
      · rw [mem_append, not_or]
        exact ⟨later, by decide⟩
    · refine .inr ⟨running, ?_⟩
      show _ ∉ hosted.tasks ++ _
      rw [mem_append, not_or]
      exact ⟨later, by decide⟩

theorem dispatched {task : SessionTask} {tasks : List SessionTask} (sound : hosted.Sound)
    (first : hosted.tasks = task :: tasks)
    (taken : hosted.session.step prims settings (task.event, world) = some session) :
    Sound { hosted with session, tasks } ∧
      hosted.session.completions.length ≤ session.completions.length := by
  have accepted : task.event = .run → hosted.session.state = .null := by
    intro isRun
    rcases sound.mailbox with ⟨new, -⟩ | ⟨-, later⟩
    · rw [new]
    · cases task with
      | run =>
        rw [first] at later
        exact absurd mem_cons_self later
      | cancel => cases isRun
  have chain : Leads prims (fun _ => True) hosted.session session := by
    refine Session.step_leads prims settings ?_ (fun _ _ => trivial) taken
    exact accepted
  refine ⟨⟨Session.step_live prims settings sound.live taken,
    Session.handled_of_leads chain sound.handled, .inr ?_⟩, Session.completions_of_leads chain⟩
  rcases sound.mailbox with ⟨new, rest, same, later⟩ | ⟨running, later⟩
  · rw [first] at same
    obtain ⟨rfl, rfl⟩ := cons.inj same
    refine ⟨?_, later⟩
    cases taken
    exact Session.asyncRunInternal_running world (accepted rfl)
  · rw [first] at later
    exact ⟨Session.running_of_leads chain running, fun mem => later (mem_cons_of_mem _ mem)⟩

/-- Another handler of the session runs. -/
theorem stepped {event : Event} (sound : hosted.Sound) (internal : event.internal = true)
    (taken : hosted.session.step prims settings (event, world) = some session) :
    Sound { hosted with session } ∧
      hosted.session.completions.length ≤ session.completions.length := by
  have accepted : event = .run → hosted.session.state = .null := by
    rintro rfl
    cases internal
  have chain : Leads prims (fun _ => True) hosted.session session := by
    refine Session.step_leads prims settings ?_ (fun _ _ => trivial) taken
    exact accepted
  refine ⟨⟨Session.step_live prims settings sound.live taken,
    Session.handled_of_leads chain sound.handled, .inr ?_⟩, Session.completions_of_leads chain⟩
  rcases sound.mailbox with ⟨new, -⟩ | ⟨running, later⟩
  · rw [new, Session.step_new internal] at taken
    cases taken
  · exact ⟨Session.running_of_leads chain running, later⟩

theorem completions_le (sound : hosted.Sound) : hosted.session.completions.length ≤ 1 := by
  have balance : hosted.session.completions.length + (if hosted.session.handler then 1 else 0) =
      if hosted.session.state = .null then 0 else 1 := sound.handled.2
  split at balance
  · split at balance
    · omega
    · omega
  · split at balance
    · omega
    · omega

end Hosted.Sound

/-! ## The server -/

namespace Impl

/-- A session that the server owns, whose run handler it has not answered. -/
def Owns (s : Impl) (number : Nat) (hosted : Hosted) : Prop :=
  (hosted.id, number) ∈ s.sessions ∧ number ∉ s.removals ∧
    s.closed.count (hosted.id, number) = hosted.session.completions.length

/-- A session that has ended and was taken from `m_sessions`. -/
def Released (s : Impl) (number : Nat) (hosted : Hosted) : Prop :=
  (hosted.id, number) ∉ s.sessions ∧ s.removals.count number = 1 ∧
    hosted.session.completions.length = 1

/-- The sessions of a server and what it knows of them. -/
structure Sessions (s : Impl) : Prop where
  sound : ∀ hosted ∈ s.hosted, hosted.Sound
  ids : (s.sessions.map Prod.fst).Nodup
  known : ∀ entry ∈ s.sessions, ∃ hosted, s.hosted[entry.2]? = some hosted ∧ hosted.id = entry.1
  notices : ∀ entry ∈ s.closed, entry ∈ s.sessions
  removals : ∀ number ∈ s.removals, number < s.hosted.length
  owned : ∀ number hosted, s.hosted[number]? = some hosted →
    s.Owns number hosted ∨ s.Released number hosted

/-- The run handler of a server. -/
def Handled (s : Impl) : Prop :=
  (s.state = .null → s.handler = false) ∧
  (s.state = .null ∨ s.state = .starting ∨ s.state = .stopped → s.sessions = []) ∧
  (s.handler = false → s.state = .null ∨ s.state = .stopped) ∧
  s.completions.length + (if s.handler then 1 else 0) = if s.state = .null then 0 else 1

/-- The invariant of a server. -/
def Inv (s : Impl) : Prop := s.Sessions ∧ s.Handled

variable {id : Bytes} {number : Nat}

/-- Two entries of `m_sessions` with one id are one. -/
theorem Sessions.eq_of_id {s : Impl} (inv : s.Sessions) {first second : Nat}
    (left : (id, first) ∈ s.sessions) (right : (id, second) ∈ s.sessions) : first = second :=
  congrArg Prod.snd (inj_on_of_nodup_map inv.ids left right rfl)

/-- A change of other members. -/
theorem Sessions.of_same {s t : Impl} (inv : s.Sessions) (hosted : t.hosted = s.hosted)
    (sessions : t.sessions = s.sessions) (closed : t.closed = s.closed)
    (removals : t.removals = s.removals) : t.Sessions where
  sound := by
    rw [hosted]
    exact inv.sound
  ids := by
    rw [sessions]
    exact inv.ids
  known := by
    rw [hosted, sessions]
    exact inv.known
  notices := by
    rw [closed, sessions]
    exact inv.notices
  removals := by
    rw [removals, hosted]
    exact inv.removals
  owned := by
    unfold Owns Released
    rw [hosted, sessions, closed, removals]
    exact inv.owned

/-- A change of the sessions that keeps what the server knows of them. -/
theorem Sessions.of_hosted {s t : Impl} (inv : s.Sessions) (sessions : t.sessions = s.sessions)
    (removals : t.removals = s.removals) (length : t.hosted.length = s.hosted.length)
    (notices : ∀ entry ∈ t.closed, entry ∈ s.sessions)
    (changed : ∀ number hosted, t.hosted[number]? = some hosted →
      ∃ old, s.hosted[number]? = some old ∧ old.id = hosted.id ∧ hosted.Sound ∧
        (s.Owns number old → t.Owns number hosted) ∧
        (s.Released number old → t.Released number hosted)) : t.Sessions where
  sound hosted mem := by
    obtain ⟨number, here⟩ := mem_iff_getElem?.mp mem
    obtain ⟨-, -, -, sound, -⟩ := changed number hosted here
    exact sound
  ids := by
    rw [sessions]
    exact inv.ids
  known entry mem := by
    rw [sessions] at mem
    obtain ⟨old, there, same⟩ := inv.known entry mem
    obtain ⟨bound, -⟩ := List.getElem?_eq_some_iff.mp there
    have here := getElem?_eq_getElem (l := t.hosted) (i := entry.2) (length.symm ▸ bound)
    obtain ⟨other, found, id, -⟩ := changed _ _ here
    rw [there] at found
    cases found
    exact ⟨_, here, id.symm.trans same⟩
  notices := by
    rw [sessions]
    exact notices
  removals := by
    rw [removals, length]
    exact inv.removals
  owned number hosted here := by
    obtain ⟨old, there, -, -, owns, released⟩ := changed number hosted here
    exact (inv.owned number old there).imp owns released

/-- The dispatch of a cancellation leaves what the server knows alone. -/
theorem Sessions.cancelSession {s : Impl} (inv : s.Sessions) (entry : Bytes × Nat) :
    (s.cancelSession entry).Sessions := by
  refine inv.of_hosted rfl rfl (length_modify _ _ _) inv.notices ?_
  intro number hosted here
  have modified : (fun old : Hosted => if entry.2 = number then
      { old with tasks := old.tasks ++ [.cancel] } else old) <$> s.hosted[number]? =
        some hosted := (getElem?_modify _ _ _ _).symm.trans here
  obtain ⟨old, there, same⟩ := map_eq_some_iff.mp modified
  have sound := inv.sound old (mem_of_getElem? there)
  refine ⟨old, there, ?_⟩
  split at same
  · cases same
    exact ⟨rfl, sound.cancelled, id, id⟩
  · cases same
    exact ⟨rfl, sound, id, id⟩

theorem Inv.cancelSession {s : Impl} (inv : s.Inv) (entry : Bytes × Nat) :
    (s.cancelSession entry).Inv := ⟨inv.1.cancelSession entry, inv.2⟩

theorem Inv.cancelSessions {s : Impl} (inv : s.Inv) : s.cancelSessions.Inv := by
  rw [Impl.cancelSessions]
  generalize s.sessions = entries
  induction entries generalizing s with
  | nil => exact inv
  | cons entry entries ih => exact ih (inv.cancelSession entry)

/-- The states from which a server can stop. -/
def Up (s : Impl) : Prop := s.state ≠ .null ∧ s.state ≠ .stopped

theorem Handled.of_stopping {s : Impl} (handled : s.Handled) (up : s.Up) (timers : Nat)
    (errorCode : ErrorCode) :
    Handled { s with state := .stopping, timers, errorCode } := by
  obtain ⟨-, -, set, balance⟩ := handled
  have handler : s.handler = true := by
    by_contra unset
    rcases set (Bool.eq_false_iff.mpr unset) with null | stopped
    · exact up.1 null
    · exact up.2 stopped
  refine ⟨nofun, fun other => ?_, fun unset => ?_, ?_⟩
  · rcases other with other | other | other <;> cases other
  · cases handler.symm.trans unset
  · rw [if_neg up.1] at balance
    exact balance

theorem Inv.onClose {s : Impl} (inv : s.Inv) (errorCode : ErrorCode) :
    (s.onClose errorCode).Inv := by
  obtain ⟨sessions, handled⟩ := inv
  rw [Impl.onClose]
  split
  · exact ⟨sessions, handled⟩
  · rename_i running
    rw [not_or] at running
    simp only
    split
    · apply cancelSessions
      split
      · exact ⟨sessions.of_same rfl rfl rfl rfl, handled.of_stopping running _ _⟩
      · exact ⟨sessions.of_same rfl rfl rfl rfl, handled⟩
    · rename_i empty
      have drained : s.sessions = [] := isEmpty_iff.mp (Bool.not_eq_false _ ▸ empty)
      obtain ⟨-, -, -, balance⟩ := handled
      rw [if_neg running.1] at balance
      split
      · rename_i handler
        have kept : s.handler = true := handler
        rw [kept, if_pos rfl] at balance
        refine ⟨sessions.of_same rfl rfl rfl rfl, nofun, fun _ => drained, fun _ => .inr rfl, ?_⟩
        show (s.completions ++ [_]).length + 0 = 1
        rw [length_append]
        exact balance
      · refine ⟨sessions.of_same rfl rfl rfl rfl, nofun, fun _ => drained, fun _ => .inr rfl, ?_⟩
        exact balance

theorem Inv.doClose {s : Impl} (inv : s.Inv) (errorCode : ErrorCode) :
    (s.doClose errorCode).Inv := by
  rw [Impl.doClose]
  split
  · exact inv
  · rename_i started
    rw [not_not] at started
    have up : s.Up := by
      rw [Up, started]
      exact ⟨nofun, nofun⟩
    have stopping (errorCode : ErrorCode) : ({ s with errorCode }.setState .stopping).Inv :=
      ⟨inv.1.of_same rfl rfl rfl rfl, inv.2.of_stopping up 0 errorCode⟩
    simp only
    generalize (if errorCode.failed = true ∧ s.errorCode.failed = false then errorCode
      else s.errorCode) = kept
    split
    · exact (stopping kept).onClose errorCode
    · exact (stopping kept).cancelSessions

theorem Inv.onError {s : Impl} (inv : s.Inv) (errorCode : ErrorCode) :
    (s.onError errorCode).Inv := by
  rw [Impl.onError]
  split
  · exact inv
  · split
    · exact inv.doClose errorCode
    · exact inv.onClose errorCode

theorem Inv.cancelInternal {s : Impl} (inv : s.Inv) : s.cancelInternal.Inv := by
  rw [Impl.cancelInternal.eq_def]
  split
  · exact inv.doClose .none
  · exact inv.onClose .none
  · exact inv
  · exact inv
  · exact inv

theorem Inv.asyncRunInternal {s : Impl} (inv : s.Inv) (settings : Settings) (world : World) :
    (s.asyncRunInternal settings world).Inv := by
  obtain ⟨sessions, unset, drained, set, balance⟩ := inv
  rw [Impl.asyncRunInternal]
  split
  · exact ⟨sessions.of_same rfl rfl rfl rfl, unset, drained, set, balance⟩
  · rename_i null
    rw [not_not] at null
    split
    · exact ⟨sessions.of_same rfl rfl rfl rfl, unset, drained, set, balance⟩
    · have empty := drained (.inl null)
      rw [null, unset null, if_pos rfl] at balance
      have none : s.completions.length + 1 = 1 := by
        rw [if_neg Bool.false_ne_true] at balance
        omega
      rw [armStateTimer]
      split
      · exact ⟨sessions.of_same rfl rfl rfl rfl, nofun, fun _ => empty, nofun, none⟩
      · exact ⟨sessions.of_same rfl rfl rfl rfl, nofun, fun _ => empty, nofun, none⟩

theorem Inv.doAccept {s : Impl} (inv : s.Inv) : s.doAccept.Inv := by
  rw [Impl.doAccept]
  split
  · exact inv
  · exact ⟨inv.1.of_same rfl rfl rfl rfl, inv.2⟩

theorem Inv.onStarted {s : Impl} (inv : s.Inv) : s.onStarted.Inv := by
  rw [Impl.onStarted]
  split
  · exact inv
  · rename_i starting
    rw [not_not] at starting
    obtain ⟨sessions, -, -, set, balance⟩ := inv
    have handler : s.handler = true := by
      by_contra unset
      rcases set (Bool.eq_false_iff.mpr unset) with other | other
      · cases starting.symm.trans other
      · cases starting.symm.trans other
    have running : s.state ≠ .null := by
      rw [starting]
      decide
    rw [if_neg running] at balance
    refine doAccept ⟨sessions.of_same rfl rfl rfl rfl, nofun, fun other => ?_, fun unset => ?_,
      balance⟩
    · rcases other with other | other | other <;> cases other
    · cases handler.symm.trans unset

theorem Inv.onDoResolveHost {s : Impl} (inv : s.Inv) (errorCode : ErrorCode) (found : Bool)
    (listening : ErrorCode) : (s.onDoResolveHost errorCode found listening).Inv := by
  rw [Impl.onDoResolveHost]
  split
  · exact inv
  · simp only
    generalize (if errorCode.failed then errorCode
      else if found then listening else Error.Code.serverError) = cause
    split
    · exact inv.onError cause
    · exact inv.onStarted

/-! ## New sessions -/

theorem Sessions.addSession {s : Impl} (inv : s.Sessions) (distinct : id ∉ s.sessions.map Prod.fst)
    : (s.addSession id).Sessions := by
  have added : (s.addSession id).sessions = s.sessions ++ [(id, s.hosted.length)] := if_neg distinct
  have made : (s.addSession id).hosted = s.hosted ++ [({ id := id } : Hosted)] := rfl
  have bounded (entry : Bytes × Nat) (mem : entry ∈ s.sessions) : entry.2 < s.hosted.length := by
    obtain ⟨hosted, here, -⟩ := inv.known entry mem
    exact (List.getElem?_eq_some_iff.mp here).1
  refine ⟨?_, ?_, ?_, ?_, ?_, ?_⟩
  · intro hosted mem
    rw [made, mem_append, mem_singleton] at mem
    rcases mem with old | rfl
    · exact inv.sound hosted old
    · exact Hosted.Sound.new id
  · rw [added, map_append, map_singleton]
    refine nodup_append.mpr ⟨inv.ids, nodup_singleton _, fun other mem last same => ?_⟩
    rintro rfl
    rw [mem_singleton.mp same] at mem
    exact distinct mem
  · intro entry mem
    rw [added, mem_append, mem_singleton] at mem
    rw [made]
    rcases mem with old | rfl
    · obtain ⟨hosted, here, same⟩ := inv.known entry old
      exact ⟨hosted, by rw [getElem?_append_left (bounded entry old), here], same⟩
    · exact ⟨{ id := id }, getElem?_concat_length, rfl⟩
  · intro entry mem
    rw [added]
    exact mem_append_left _ (inv.notices entry mem)
  · intro number mem
    rw [made, length_append]
    exact Nat.lt_succ_of_lt (inv.removals number mem)
  · intro number hosted here
    rw [made] at here
    rcases Nat.lt_or_ge number s.hosted.length with before | after
    · rw [getElem?_append_left before] at here
      have apart : (hosted.id, number) ≠ (id, s.hosted.length) := fun same =>
        Nat.ne_of_lt before (congrArg Prod.snd same)
      refine (inv.owned number hosted here).imp ?_ ?_
      · rintro ⟨owned, kept, count⟩
        refine ⟨?_, kept, count⟩
        rw [added]
        exact mem_append_left _ owned
      · rintro ⟨gone, once, ended⟩
        refine ⟨?_, once, ended⟩
        rw [added, mem_append, mem_singleton, not_or]
        exact ⟨gone, apart⟩
    · obtain ⟨bound, last⟩ := List.getElem?_eq_some_iff.mp here
      rw [length_append, length_singleton] at bound
      obtain rfl : number = s.hosted.length := by omega
      rw [getElem?_concat_length] at here
      cases here
      refine .inl ⟨?_, fun mem => Nat.lt_irrefl _ (inv.removals _ mem), ?_⟩
      · rw [added]
        exact mem_append_right _ (mem_singleton.mpr rfl)
      · exact count_eq_zero.mpr fun mem => Nat.lt_irrefl _ (bounded _ (inv.notices _ mem))

theorem Inv.onAccept {s : Impl} (inv : s.Inv) {errorCode : ErrorCode}
    (distinct : s.state = .started → errorCode.failed = false → id ∉ s.sessions.map Prod.fst) :
    (s.onAccept errorCode id).Inv := by
  rw [Impl.onAccept]
  split
  · exact inv
  · rename_i started
    rw [not_not] at started
    split
    · exact inv.onError errorCode
    · rename_i succeeded
      have fresh := distinct started (Bool.eq_false_iff.mpr succeeded)
      obtain ⟨sessions, unset, -, set, balance⟩ := inv
      refine doAccept ⟨sessions.addSession fresh, unset, fun other => ?_, set, balance⟩
      have here : s.state = .null ∨ s.state = .starting ∨ s.state = .stopped := other
      rw [started] at here
      rcases here with here | here | here <;> cases here

/-! ## The end of a session -/

/-- The run handler of a session takes it from the server. -/
theorem Sessions.remove {s : Impl} (inv : s.Sessions) {index : Nat}
    (taken : s.closed[index]? = some (id, number)) :
    Sessions { s with
      closed := s.closed.eraseIdx index
      sessions := s.sessions.filter fun entry => decide (entry.1 ≠ id)
      removals := s.removals ++
        (s.sessions.filter fun entry => decide (entry.1 = id)).map Prod.snd } := by
  have mem : (id, number) ∈ s.sessions := inv.notices _ (mem_of_taken taken)
  obtain ⟨ended, here, rfl⟩ := inv.known _ mem
  have sound := inv.sound ended (mem_of_getElem? here)
  obtain ⟨-, kept, count⟩ : s.Owns number ended :=
    (inv.owned number ended here).resolve_right fun released => released.1 mem
  have erased := count_of_taken taken (ended.id, number)
  rw [if_pos rfl] at erased
  have single := sound.completions_le
  have rest : (s.closed.eraseIdx index).count (ended.id, number) = 0 := by omega
  have completed : ended.session.completions.length = 1 := by omega
  rw [filter_eq_singleton inv.ids mem]
  refine ⟨inv.sound, ?_, ?_, ?_, ?_, ?_⟩
  · exact inv.ids.sublist (filter_sublist.map Prod.fst)
  · exact fun entry mem => inv.known entry (mem_of_mem_filter mem)
  · intro entry mem
    have still : entry ∈ s.sessions := inv.notices _ ((eraseIdx_sublist _ _).subset mem)
    refine mem_filter.mpr ⟨still, decide_eq_true fun same => ?_⟩
    obtain ⟨id, other⟩ := entry
    cases same
    cases inv.eq_of_id still (inv.notices _ (mem_of_taken taken))
    exact count_eq_zero.mp rest mem
  · intro other mem
    rcases mem_append.mp mem with old | new
    · exact inv.removals other old
    · rw [mem_singleton.mp new]
      exact (List.getElem?_eq_some_iff.mp here).1
  · intro other hosted there
    by_cases same : other = number
    · subst same
      rw [here] at there
      cases there
      refine .inr ⟨?_, ?_, completed⟩
      · intro mem
        exact absurd rfl (decide_eq_true_iff.mp (mem_filter.mp mem).2)
      · show (s.removals ++ [other]).count other = 1
        rw [count_append, count_eq_zero.mpr kept, count_singleton_self]
    · refine (inv.owned other hosted there).imp ?_ ?_
      · rintro ⟨owned, unremoved, count⟩
        have apart : hosted.id ≠ ended.id := fun id => same (inv.eq_of_id (id ▸ owned) mem)
        refine ⟨mem_filter.mpr ⟨owned, decide_eq_true apart⟩, ?_, ?_⟩
        · show other ∉ s.removals ++ [number]
          rw [mem_append, mem_singleton, not_or]
          exact ⟨unremoved, same⟩
        · show (s.closed.eraseIdx index).count (hosted.id, other) = _
          rw [← count, count_of_taken taken, if_neg fun both =>
            same (congrArg Prod.snd both).symm, Nat.add_zero]
      · rintro ⟨gone, once, completed⟩
        refine ⟨fun mem => gone (mem_of_mem_filter mem), ?_, completed⟩
        show (s.removals ++ [number]).count other = 1
        rw [count_append, once, count_singleton, if_neg (by
          rw [beq_iff_eq]
          exact fun isOther => same isOther.symm)]

theorem Inv.onSessionClosed {s : Impl} (inv : s.Inv) {index : Nat}
    (taken : s.closed[index]? = some (id, number)) :
    (Impl.onSessionClosed id { s with closed := s.closed.eraseIdx index }).Inv := by
  obtain ⟨sessions, unset, drained, set, balance⟩ := inv
  have removed := sessions.remove taken
  have less {sessions : List (Bytes × Nat)} (empty : sessions = []) :
      (sessions.filter fun entry => decide (entry.1 ≠ id)) = [] := by
    rw [empty]
    rfl
  rw [Impl.onSessionClosed]
  simp only
  split
  · exact Inv.onClose ⟨removed, unset, fun early => less (drained early), set, balance⟩ .none
  · exact ⟨removed, unset, fun early => less (drained early), set, balance⟩

theorem Sessions.stepSession {s : Impl} (inv : s.Sessions) {old : Hosted} (new : Hosted)
    (there : s.hosted[number]? = some old) (sound : new.Sound) (id : new.id = old.id)
    (more : old.session.completions.length ≤ new.session.completions.length) :
    Sessions { s with
      hosted := s.hosted.set number new
      closed := s.closed ++ replicate
        (new.session.completions.length - old.session.completions.length) (old.id, number) } := by
  have bound := (List.getElem?_eq_some_iff.mp there).1
  have single := sound.completions_le
  refine inv.of_hosted rfl rfl (List.length_set) ?_ ?_
  · intro entry mem
    rcases List.mem_append.mp mem with old | added
    · exact inv.notices entry old
    · obtain ⟨some, rfl⟩ := List.mem_replicate.mp added
      rcases inv.owned number old there with owns | released
      · exact owns.1
      · have ended := released.2.2
        omega
  · intro other hosted here
    have changed : (s.hosted.set number new)[other]? = some hosted := here
    by_cases same : number = other
    · subst same
      rw [getElem?_set_self bound] at changed
      cases changed
      refine ⟨old, there, id.symm, sound, ?_, ?_⟩
      · rintro ⟨owned, kept, count⟩
        refine ⟨id ▸ owned, kept, ?_⟩
        show (s.closed ++ replicate _ (old.id, number)).count (new.id, number) = _
        rw [id, count_append, count, count_replicate_self]
        omega
      · rintro ⟨gone, once, ended⟩
        exact ⟨id ▸ gone, once, by omega⟩
    · rw [getElem?_set_ne same] at changed
      refine ⟨hosted, changed, rfl, inv.sound hosted (mem_of_getElem? changed), ?_,
        fun released => released⟩
      rintro ⟨owned, kept, count⟩
      refine ⟨owned, kept, ?_⟩
      have apart : ((old.id, number) == (hosted.id, other)) = false := by
        rw [beq_eq_false_iff_ne]
        exact fun both => same (congrArg Prod.snd both)
      show (s.closed ++ replicate _ (old.id, number)).count (hosted.id, other) = _
      rw [count_append, count, count_replicate, if_neg (Bool.eq_false_iff.mp apart),
        Nat.add_zero]

/-! ## Steps -/

/-- A new session does not get the id of a session of the server. -/
def Distinct (s : Impl) (input : ServerEvent × World) : Prop :=
  match input.1 with
  | .accepted errorCode id =>
    s.state = .started → errorCode.failed = false → id ∉ s.sessions.map Prod.fst
  | _ => True

instance Distinct.decidable (s : Impl) :
    (input : ServerEvent × World) → Decidable (s.Distinct input)
  | (.accepted errorCode id, _) => inferInstanceAs (Decidable
      (s.state = .started → errorCode.failed = false → id ∉ s.sessions.map Prod.fst))
  | (.run, _) | (.cancel, _) | (.timer, _) | (.resolved _ _ _, _) | (.dispatched _, _)
  | (.session _ _, _) | (.sessionClosed _, _) => isTrue trivial

theorem inv_init : Inv {} := by
  refine ⟨⟨?_, .nil, ?_, ?_, ?_, ?_⟩, fun _ => rfl, fun _ => rfl, fun _ => .inl rfl, rfl⟩
  · exact fun _ mem => absurd mem not_mem_nil
  · exact fun _ mem => absurd mem not_mem_nil
  · exact fun _ mem => absurd mem not_mem_nil
  · exact fun _ mem => absurd mem not_mem_nil
  · intro number hosted here
    cases here

variable {prims : ProofPrimitives} {settings : Settings}

theorem Inv.step {s t : Impl} {input : ServerEvent × World} (inv : s.Inv)
    (distinct : s.Distinct input) (taken : s.step prims settings input = some t) : t.Inv := by
  obtain ⟨event, world⟩ := input
  cases event with
  | run =>
    cases taken
    exact inv.asyncRunInternal settings world
  | cancel =>
    cases taken
    exact inv.cancelInternal
  | timer =>
    obtain ⟨-, stepped⟩ := ite_none_left_eq_some.mp taken
    cases stepped
    have kept : Inv { s with timers := s.timers - 1 } :=
      ⟨inv.1.of_same rfl rfl rfl rfl, inv.2⟩
    exact kept.onError _
  | resolved errorCode found listening =>
    obtain ⟨-, stepped⟩ := ite_none_left_eq_some.mp taken
    cases stepped
    have kept : Inv { s with resolves := s.resolves - 1 } :=
      ⟨inv.1.of_same rfl rfl rfl rfl, inv.2⟩
    exact kept.onDoResolveHost errorCode found listening
  | accepted errorCode id =>
    obtain ⟨-, stepped⟩ := ite_none_left_eq_some.mp taken
    cases stepped
    have kept : Inv { s with accepts := s.accepts - 1 } :=
      ⟨inv.1.of_same rfl rfl rfl rfl, inv.2⟩
    exact kept.onAccept distinct
  | dispatched number =>
    rw [Impl.step] at taken
    simp only at taken
    split at taken
    · cases taken
    · rename_i hosted there
      split at taken
      · cases taken
      · rename_i task tasks first
        obtain ⟨session, stepped, rfl⟩ := map_eq_some_iff.mp taken
        have sound := inv.1.sound hosted (mem_of_getElem? there)
        obtain ⟨later, more⟩ := sound.dispatched first stepped
        exact ⟨inv.1.stepSession _ there later rfl more, inv.2⟩
  | session number event =>
    rw [Impl.step] at taken
    simp only at taken
    split at taken
    · cases taken
    · rename_i hosted there
      obtain ⟨internal, stepping⟩ := ite_none_right_eq_some.mp taken
      obtain ⟨session, stepped, rfl⟩ := map_eq_some_iff.mp stepping
      have sound := inv.1.sound hosted (mem_of_getElem? there)
      obtain ⟨later, more⟩ := sound.stepped internal stepped
      exact ⟨inv.1.stepSession { hosted with session } there later rfl more, inv.2⟩
  | sessionClosed index =>
    rw [Impl.step] at taken
    simp only at taken
    split at taken
    · cases taken
    · rename_i id number found
      cases taken
      exact inv.onSessionClosed found

/-! ## After the server has left `started` -/

/-- The server has left `started`. -/
def Leaving (s : Impl) : Prop := s.state = .stopping ∨ s.state = .stopped

/-- The server stays out of `started` and gets no sessions. -/
def Later (s t : Impl) : Prop := t.Leaving ∧ ∀ entry ∈ t.sessions, entry ∈ s.sessions

theorem foldl_cancelSession (entries : List (Bytes × Nat)) (s : Impl) :
    (entries.foldl cancelSession s).state = s.state ∧
      (entries.foldl cancelSession s).sessions = s.sessions := by
  induction entries generalizing s with
  | nil => exact ⟨rfl, rfl⟩
  | cons entry entries ih => exact ih (s.cancelSession entry)

theorem later_cancelSessions {s t : Impl} (later : Later s t) : Later s t.cancelSessions := by
  obtain ⟨state, sessions⟩ := foldl_cancelSession t.sessions t
  rw [cancelSessions, Later, Leaving, state, sessions]
  exact later

section

variable {s : Impl} (leaving : s.Leaving)

include leaving

theorem onClose_later (errorCode : ErrorCode) :
    Later s (s.onClose errorCode) := by
  rw [onClose]
  split
  · exact ⟨leaving, fun _ mem => mem⟩
  · simp only
    split
    · apply later_cancelSessions
      split
      · exact ⟨.inl rfl, fun _ mem => mem⟩
      · exact ⟨leaving, fun _ mem => mem⟩
    · split
      · exact ⟨.inr rfl, fun _ mem => mem⟩
      · exact ⟨.inr rfl, fun _ mem => mem⟩

theorem Leaving.ne_started : s.state ≠ .started := by
  rintro started
  rcases leaving with stopping | stopped
  · cases stopping.symm.trans started
  · cases stopped.symm.trans started

theorem onError_later (errorCode : ErrorCode) :
    Later s (s.onError errorCode) := by
  rw [onError]
  split
  · exact ⟨leaving, fun _ mem => mem⟩
  · rw [if_neg leaving.ne_started]
    exact onClose_later leaving errorCode

theorem onSessionClosed_later (id : Bytes) :
    Later s (s.onSessionClosed id) := by
  rw [onSessionClosed]
  simp only
  split
  · obtain ⟨stays, less⟩ := onClose_later (s := { s with
      sessions := s.sessions.filter fun entry => decide (entry.1 ≠ id)
      removals := _ }) leaving .none
    exact ⟨stays, fun entry mem => mem_of_mem_filter (less entry mem)⟩
  · exact ⟨leaving, fun entry mem => mem_of_mem_filter mem⟩

theorem stepSession_later {t : Impl} {world : World} {hosted : Hosted} {event : Event}
    {tasks : List SessionTask}
    (taken : s.stepSession settings world prims number hosted event tasks = some t) :
    Later s t := by
  obtain ⟨session, -, rfl⟩ := map_eq_some_iff.mp taken
  exact ⟨leaving, fun _ mem => mem⟩

theorem step_later {t : Impl} {input : ServerEvent × World}
    (taken : s.step prims settings input = some t) : Later s t := by
  have notNull : s.state ≠ .null := by
    rcases leaving with state | state
    · exact fun null => by cases state.symm.trans null
    · exact fun null => by cases state.symm.trans null
  have notStarting : s.state ≠ .starting := by
    rcases leaving with state | state
    · exact fun starting => by cases state.symm.trans starting
    · exact fun starting => by cases state.symm.trans starting
  obtain ⟨event, world⟩ := input
  cases event with
  | run =>
    cases taken
    rw [asyncRunInternal, if_pos notNull]
    exact ⟨leaving, fun _ mem => mem⟩
  | cancel =>
    cases taken
    rw [cancelInternal.eq_def]
    split
    · rename_i started
      exact absurd started leaving.ne_started
    · rename_i starting
      exact absurd starting notStarting
    · exact ⟨leaving, fun _ mem => mem⟩
    · exact ⟨leaving, fun _ mem => mem⟩
    · exact ⟨leaving, fun _ mem => mem⟩
  | timer =>
    obtain ⟨-, stepped⟩ := ite_none_left_eq_some.mp taken
    cases stepped
    exact onError_later (s := { s with timers := s.timers - 1 }) leaving _
  | resolved errorCode found listening =>
    obtain ⟨-, stepped⟩ := ite_none_left_eq_some.mp taken
    cases stepped
    rw [onDoResolveHost, if_pos notStarting]
    exact ⟨leaving, fun _ mem => mem⟩
  | accepted errorCode id =>
    obtain ⟨-, stepped⟩ := ite_none_left_eq_some.mp taken
    cases stepped
    rw [onAccept, if_pos leaving.ne_started]
    exact ⟨leaving, fun _ mem => mem⟩
  | dispatched number =>
    rw [Impl.step] at taken
    simp only at taken
    split at taken
    · cases taken
    · split at taken
      · cases taken
      · exact stepSession_later leaving taken
  | session number event =>
    rw [Impl.step] at taken
    simp only at taken
    split at taken
    · cases taken
    · obtain ⟨-, stepping⟩ := ite_none_right_eq_some.mp taken
      exact stepSession_later leaving stepping
  | sessionClosed index =>
    rw [Impl.step] at taken
    simp only at taken
    split at taken
    · cases taken
    · cases taken
      exact onSessionClosed_later (s := { s with closed := s.closed.eraseIdx index }) leaving _

theorem run_later {good : Impl → ServerEvent × World → Prop} {t : Impl}
    (run : Run (Impl.step prims settings) good s t) : Later s t := by
  refine run.invariant (p := Later s) ⟨leaving, fun _ mem => mem⟩ ?_
  intro r input u later _ taken
  obtain ⟨stays, less⟩ := step_later later.1 taken
  exact ⟨stays, fun entry mem => later.2 entry (less entry mem)⟩

end

/-- **The end of a server.** In every run in which no session gets the id of a session of the
server, the run handler of the server is invoked at most once; after it has left `started` no
session is added; the run handler of a session is invoked at most once and the session is taken
from `m_sessions` at most once, and both have happened when nothing of the session is in flight;
and when the handler of the server is invoked there is no session left, and both have happened to
every session. -/
theorem server_drains {s : Impl} (run : Run (Impl.step prims settings) Distinct {} s) :
    s.completions.length ≤ 1 ∧
      (s.Leaving → ∀ t, Run (Impl.step prims settings) Distinct s t →
        t.state ≠ .started ∧ ∀ entry ∈ t.sessions, entry ∈ s.sessions) ∧
      (∀ number hosted, s.hosted[number]? = some hosted →
        hosted.session.completions.length ≤ 1 ∧ s.removals.count number ≤ 1 ∧
          (hosted.tasks = [] → hosted.session.Idle → (hosted.id, number) ∉ s.closed →
            hosted.session.completions.length = 1 ∧ s.removals.count number = 1)) ∧
      (s.completions ≠ [] → s.sessions = [] ∧ ∀ number hosted, s.hosted[number]? = some hosted →
        hosted.session.completions.length = 1 ∧ s.removals.count number = 1) := by
  obtain ⟨sessions, -, drained, set, balance⟩ : s.Inv :=
    run.invariant inv_init fun _ _ _ inv distinct taken => inv.step distinct taken
  refine ⟨?_, ?_, ?_, ?_⟩
  · split at balance
    · split at balance <;> omega
    · split at balance <;> omega
  · intro leaving t later
    obtain ⟨stays, less⟩ := run_later leaving later
    exact ⟨stays.ne_started, less⟩
  · intro number hosted here
    have sound := sessions.sound hosted (mem_of_getElem? here)
    refine ⟨sound.completions_le, ?_, ?_⟩
    · rcases sessions.owned number hosted here with owns | released
      · rw [count_eq_zero.mpr owns.2.1]
        exact Nat.zero_le 1
      · exact released.2.1.le
    · intro dispatched idle answered
      have running : hosted.session.state ≠ .null := by
        rcases sound.mailbox with ⟨-, tasks, first, -⟩ | ⟨running, -⟩
        · cases dispatched.symm.trans first
        · exact running
      have completed := Session.completions_of_idle sound.live sound.handled running idle
      rcases sessions.owned number hosted here with owns | released
      · have count := owns.2.2
        rw [completed, count_eq_zero.mpr answered] at count
        cases count
      · exact ⟨completed, released.2.1⟩
  · intro invoked
    have state : s.state = .stopped := by
      have handler : s.handler = false := by
        have length := length_pos_iff.mpr invoked
        by_contra kept
        rw [if_pos (Bool.not_eq_false _ ▸ kept)] at balance
        split at balance <;> omega
      rcases set handler with null | stopped
      · have length := length_pos_iff.mpr invoked
        rw [if_pos null] at balance
        omega
      · exact stopped
    have empty := drained (.inr (.inr state))
    refine ⟨empty, fun number hosted here => ?_⟩
    rcases sessions.owned number hosted here with owns | released
    · rw [Owns, empty] at owns
      cases owns.1
    · exact ⟨released.2.2, released.2.1⟩

/-- The server is started and one connection is made and lost, then the server is cancelled. -/
def drainingRun : List (ServerEvent × World) :=
  [(.run, {}), (.resolved .none true .none, {}), (.accepted .none [1], {}), (.dispatched 0, {}),
    (.session 0 (.received Error.Code.protocolError none), {}), (.session 0 .queueCancelled, {}),
    (.cancel, {}), (.sessionClosed 0, {})]

/-- The server at the end of the run. -/
def drainedServer : Impl := (exec (Impl.step sampleProofPrims {}) {} drainingRun).getD {}

/-- The cancellation waits for the session. -/
theorem drainedServer_drained :
    drainedServer.completions = [.none] ∧ drainedServer.hosted.length = 1 ∧
      drainedServer.sessions = [] ∧ ∀ number hosted, drainedServer.hosted[number]? = some hosted →
        hosted.session.completions.length = 1 ∧ drainedServer.removals.count number = 1 := by
  have executed : exec (Impl.step sampleProofPrims {}) {} drainingRun =
      some drainedServer := rfl
  have completed : drainedServer.completions = [.none] := rfl
  have run : Run (Impl.step sampleProofPrims {}) Distinct {} drainedServer :=
    Run.of_exec (by decide) executed
  exact ⟨completed, rfl, (server_drains run).2.2.2 (by rw [completed]; nofun)⟩

/-- Two connections get one id; the second one is lost before the server is cancelled. -/
def collidingRun : List (ServerEvent × World) :=
  [(.run, {}), (.resolved .none true .none, {}), (.accepted .none [1], {}),
    (.accepted .none [1], {}), (.dispatched 0, {}), (.dispatched 1, {}),
    (.session 1 (.received Error.Code.protocolError none), {}), (.session 1 .queueCancelled, {}),
    (.sessionClosed 0, {}), (.cancel, {})]

/-- The server at the end of the run. -/
def collidedServer : Impl := (exec (Impl.step sampleProofPrims {}) {} collidingRun).getD {}

/-- The end of the second session takes the first one from the server, which then invokes its run
handler while the first session runs; the second one was never taken from `m_sessions`. -/
theorem collidedServer_leaves_session :
    Reaches (Impl.step sampleProofPrims {}) {} collidedServer ∧
      collidedServer.completions = [.none] ∧
      (collidedServer.hosted[0]?.map fun hosted => (hosted.session.state, hosted.session.completions))
        = some (.connecting, []) ∧
      collidedServer.removals = [0] ∧ collidedServer.hosted.length = 2 := by
  have executed : exec (Impl.step sampleProofPrims {}) {} collidingRun =
      some collidedServer := rfl
  exact ⟨Run.of_exec (goodAlong_any _ _ _) executed, rfl, rfl, rfl, rfl⟩

end Impl

end Rstream.Webtty.Server
