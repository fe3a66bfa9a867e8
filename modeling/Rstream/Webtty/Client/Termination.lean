import Rstream.Webtty.Client.Moves
import Rstream.Webtty.Server.Execution

/-!
# Termination requests

A request is posted, begins, waits for the connection, is written and is completed; it may be
cancelled or time out at any of these points. Its handler is in its operation until the
write takes it. `Stage` lists the stages of a request with what is in flight for each, and
every effect takes the request that it is about from a stage to a stage and leaves the
others alone (`Elsewhere`). So a request is completed at most once, and one that is not
completed has something in flight that completes it (`termination_requests`).

A request that begins while another is pending is refused before it can touch the other
one. It is told so only if nothing else ends it first: its own cancellation, the return
code of the server, or a connection that is closing (`beginTermination_of_pending`).
-/

namespace Rstream.Webtty.Client

open List
open IoRstrm (ErrorCode)
open Library
open Server (DataPayload DataType Message Open ProofPrimitives TerminalSize)

/-- The stages of a request: whether it is the pending one, how many writes of it are in flight and
how often its handler was invoked. -/
inductive Stage (operation : Operation) (pending : Prop) (flights invoked : Nat) : Prop where
  | posted (unstarted : operation.started = false) (unwritten : operation.writing = false)
      (outstanding : operation.completed = false) (idle : operation.timer = .idle)
      (handler : operation.handler = true) (free : ¬ pending) (grounded : flights = 0)
      (silent : invoked = 0)
  | held (started : operation.started = true) (unwritten : operation.writing = false)
      (outstanding : operation.completed = false) (timed : operation.timer ≠ .idle)
      (handler : operation.handler = true) (waiting : pending) (grounded : flights = 0)
      (silent : invoked = 0)
  | writing (started : operation.started = true) (written : operation.writing = true)
      (outstanding : operation.completed = false) (waiting : pending) (flying : flights = 1)
      (silent : invoked = 0)
  | done (started : operation.started = true) (completed : operation.completed = true)
      (free : ¬ pending) (grounded : flights = 0) (told : invoked = 1)

/-- The stage does not depend on the cancellation of a request nor on its cause. -/
theorem Stage.congr {before after : Operation} {pending : Prop} {flights invoked : Nat}
    (stage : Stage before pending flights invoked) (started : after.started = before.started)
    (writing : after.writing = before.writing) (completed : after.completed = before.completed)
    (timer : after.timer = before.timer) (handler : after.handler = before.handler) :
    Stage after pending flights invoked := by
  cases stage with
  | posted unstarted unwritten outstanding idle able free grounded silent =>
    exact .posted (started.trans unstarted) (writing.trans unwritten)
      (completed.trans outstanding) (timer.trans idle) (handler.trans able) free grounded silent
  | held begun unwritten outstanding timed able waiting grounded silent =>
    exact .held (started.trans begun) (writing.trans unwritten) (completed.trans outstanding)
      (timer ▸ timed) (handler.trans able) waiting grounded silent
  | writing begun written outstanding waiting flying silent =>
    exact .writing (started.trans begun) (writing.trans written) (completed.trans outstanding)
      waiting flying silent
  | done begun past free grounded told =>
    exact .done (started.trans begun) (completed.trans past) free grounded told

namespace Impl

/-- The writes of a request that are in flight. -/
def flights (s : Impl) (operation : Nat) : Nat :=
  s.sends.countP fun send => send.2 = .termination operation

/-- How often the handler of a request was invoked. -/
def invoked (s : Impl) (operation : Nat) : Nat :=
  s.terminated.countP fun entry => entry.1 = operation

/-- The stage of a request. -/
abbrev Staged (s : Impl) (operation : Nat) : Prop :=
  Stage (s.operations operation) (s.termination = some operation) (s.flights operation)
    (s.invoked operation)

/-- Every request has a stage, and the requests that were made and have not begun are posted. -/
def Orderly (s : Impl) : Prop :=
  (∀ operation, s.Staged operation) ∧
  (∀ operation, s.begins.count operation =
    if operation < s.requests ∧ (s.operations operation).started = false then 1 else 0) ∧
  ∀ operation, (s.operations operation).started = true → operation < s.requests

/-- Two clients agree about every request besides one. -/
structure Elsewhere (operation : Nat) (s t : Impl) : Prop where
  operations : ∀ other, other ≠ operation → t.operations other = s.operations other
  pending : ∀ other, other ≠ operation → (t.termination = some other ↔ s.termination = some other)
  flights : ∀ other, other ≠ operation → t.flights other = s.flights other
  invoked : ∀ other, other ≠ operation → t.invoked other = s.invoked other
  begins : ∀ other, other ≠ operation → t.begins.count other = s.begins.count other
  requests : t.requests = s.requests

variable {s t : Impl} {operation : Nat}

theorem Elsewhere.trans {r : Impl} (first : Elsewhere operation s r)
    (second : Elsewhere operation r t) : Elsewhere operation s t where
  operations other apart := (second.operations other apart).trans (first.operations other apart)
  pending other apart := (second.pending other apart).trans (first.pending other apart)
  flights other apart := (second.flights other apart).trans (first.flights other apart)
  invoked other apart := (second.invoked other apart).trans (first.invoked other apart)
  begins other apart := (second.begins other apart).trans (first.begins other apart)
  requests := second.requests.trans first.requests

theorem elsewhere_setOperation (operation : Nat) (value : Operation) (s : Impl) :
    Elsewhere operation s (s.setOperation operation value) where
  operations _ apart := Function.update_of_ne apart _ _
  pending _ _ := Iff.rfl
  flights _ _ := rfl
  invoked _ _ := rfl
  begins _ _ := rfl
  requests := rfl

theorem elsewhere_completeTermination (operation : Nat) (errorCode : ErrorCode) (handler : Bool)
    (s : Impl) : Elsewhere operation s (s.completeTermination operation errorCode handler) := by
  rw [completeTermination]
  split
  · exact ⟨fun _ _ => rfl, fun _ _ => Iff.rfl, fun _ _ => rfl, fun _ _ => rfl, fun _ _ => rfl, rfl⟩
  · refine ⟨fun _ apart => Function.update_of_ne apart _ _, fun other apart => ?_, fun _ _ => rfl,
      fun other apart => ?_, fun _ _ => rfl, rfl⟩
    · show (if s.termination = some operation then none else s.termination) = some other ↔ _
      split
      · rename_i pending
        rw [pending, Option.some.injEq]
        exact ⟨by rintro ⟨⟩, fun same => absurd same.symm apart⟩
      · exact Iff.rfl
    · show countP _ (if _ then s.terminated ++ [(operation, errorCode)] else s.terminated) = _
      split
      · rw [countP_append, countP_singleton, if_neg (by simpa using apart.symm)]
        rfl
      · rfl

/-- A request begins: it is taken from the posted ones, and perhaps it becomes the pending one. -/
theorem elsewhere_begins {index : Nat} {termination : Option Nat}
    (taken : s.begins[index]? = some operation)
    (pending : termination = s.termination ∨ s.termination = none ∧ termination = some operation) :
    Elsewhere operation s { s with begins := s.begins.eraseIdx index, termination } where
  operations _ _ := rfl
  pending other apart := by
    rcases pending with rfl | ⟨free, rfl⟩
    · exact Iff.rfl
    · show some operation = some other ↔ s.termination = some other
      rw [free, Option.some.injEq]
      exact ⟨fun same => absurd same.symm apart, nofun⟩
  flights _ _ := rfl
  invoked _ _ := rfl
  begins other apart := by
    rw [count_of_taken taken other, if_neg apart.symm]
    rfl
  requests := rfl

theorem flights_asyncSend (message : Message) (handler : SendHandler) (s : Impl) (operation : Nat) :
    (s.asyncSend message handler).flights operation =
      s.flights operation + if handler = .termination operation then 1 else 0 := by
  rw [flights, asyncSend, countP_append, countP_singleton]
  simp only [decide_eq_true_eq]
  rfl

theorem elsewhere_asyncSend (message : Message) (operation : Nat) (s : Impl) :
    Elsewhere operation s (s.asyncSend message (.termination operation)) where
  operations _ _ := rfl
  pending _ _ := Iff.rfl
  flights other apart := by
    rw [flights_asyncSend, if_neg fun same => apart (SendHandler.termination.inj same).symm]
    rfl
  invoked _ _ := rfl
  begins _ _ := rfl
  requests := rfl

theorem Staged.frame (staged : s.Staged operation)
    (operations : t.operations operation = s.operations operation)
    (pending : t.termination = some operation ↔ s.termination = some operation)
    (flights : t.flights operation = s.flights operation)
    (invoked : t.invoked operation = s.invoked operation) : t.Staged operation := by
  rw [Staged, operations, propext pending, flights, invoked]
  exact staged

theorem gone_of_started {count : Nat} {started : Bool} (gone : count = 0)
    (begun : started = true) : count = if started = false then 1 else 0 := by
  rw [begun]
  exact gone

theorem Orderly.change (inv : s.Orderly) (elsewhere : Elsewhere operation s t)
    (staged : t.Staged operation) (made : operation < s.requests)
    (begun : t.begins.count operation =
      if (t.operations operation).started = false then 1 else 0) : t.Orderly := by
  refine ⟨fun other => ?_, fun other => ?_, fun other => ?_⟩
  · by_cases same : other = operation
    · rw [same]
      exact staged
    · exact (inv.1 other).frame (elsewhere.operations other same) (elsewhere.pending other same)
        (elsewhere.flights other same) (elsewhere.invoked other same)
  · by_cases same : other = operation
    · rw [same, begun, elsewhere.requests]
      simp only [made, true_and]
    · rw [elsewhere.begins other same, elsewhere.requests, elsewhere.operations other same]
      exact inv.2.1 other
  · by_cases same : other = operation
    · intro _
      rw [same, elsewhere.requests]
      exact made
    · rw [elsewhere.operations other same, elsewhere.requests]
      exact inv.2.2 other

theorem Orderly.taken {index : Nat} (inv : s.Orderly) (taken : s.begins[index]? = some operation) :
    operation < s.requests ∧ (s.operations operation).started = false ∧
      (s.begins.eraseIdx index).count operation = 0 := by
  have before := count_of_taken taken operation
  rw [if_pos rfl, inv.2.1 operation] at before
  split at before
  · rename_i posted
    exact ⟨posted.1, posted.2, by omega⟩
  · omega

/-- A request that has not begun. -/
theorem Orderly.posted (inv : s.Orderly) (unstarted : (s.operations operation).started = false) :
    (s.operations operation).completed = false ∧ (s.operations operation).handler = true ∧
      (s.operations operation).writing = false ∧ s.flights operation = 0 ∧
      s.invoked operation = 0 := by
  cases inv.1 operation with
  | posted _ unwritten outstanding _ handler _ grounded silent =>
    exact ⟨outstanding, handler, unwritten, grounded, silent⟩
  | held started | writing started | done started => cases started.symm.trans unstarted

/-- One more request is posted. -/
theorem Orderly.request (inv : s.Orderly) :
    Orderly { s with requests := s.requests + 1, begins := s.begins ++ [s.requests] } := by
  refine ⟨inv.1, fun operation => ?_, fun operation started => ?_⟩
  · show (s.begins ++ [s.requests]).count operation =
      if operation < s.requests + 1 ∧ (s.operations operation).started = false then 1 else 0
    rw [count_append, inv.2.1 operation]
    by_cases same : operation = s.requests
    · have unstarted : (s.operations s.requests).started = false :=
        Bool.eq_false_iff.mpr fun started => Nat.lt_irrefl _ (inv.2.2 _ started)
      rw [same, unstarted, if_neg fun both => Nat.lt_irrefl _ both.1, count_singleton_self,
        if_pos ⟨Nat.lt_succ_self _, rfl⟩]
    · have other : [s.requests].count operation = 0 :=
        count_eq_zero.mpr fun mem => same (mem_singleton.mp mem)
      have bound : operation < s.requests + 1 ↔ operation < s.requests := by omega
      simp only [other, bound, Nat.add_zero]
  · exact (inv.2.2 operation started).trans (Nat.lt_succ_self _)

/-- A request that has begun is not posted. -/
theorem Orderly.begun (inv : s.Orderly) (started : (s.operations operation).started = true) :
    s.begins.count operation = 0 := by
  rw [inv.2.1 operation, started]
  exact if_neg fun both => nomatch both.2

theorem staged_completeTermination (errorCode : ErrorCode) (handler : Bool)
    (started : (s.operations operation).started = true)
    (outstanding : (s.operations operation).completed = false)
    (able : (handler || (s.operations operation).handler) = true)
    (grounded : s.flights operation = 0) (silent : s.invoked operation = 0) :
    (s.completeTermination operation errorCode handler).Staged operation ∧
      ((s.completeTermination operation errorCode handler).operations operation).started = true := by
  rw [completeTermination, if_neg (Bool.eq_false_iff.mp outstanding)]
  simp only [able, if_true]
  have same : Function.update s.operations operation _ operation = _ :=
    Function.update_self operation
      { s.operations operation with
        completed := true, timer := (s.operations operation).timer.cancel
        handler := (s.operations operation).handler && handler } s.operations
  have begun := (congrArg Operation.started same).trans started
  refine ⟨.done begun (congrArg Operation.completed same) ?_ grounded ?_, begun⟩
  · show (if s.termination = some operation then none else s.termination) ≠ some operation
    split
    · rintro ⟨⟩
    · assumption
  · show countP _ (s.terminated ++ [(operation, errorCode)]) = 1
    rw [countP_append, countP_singleton, if_pos (decide_eq_true rfl)]
    exact congrArg (· + 1) silent

theorem begins_completeTermination (operation : Nat) (errorCode : ErrorCode) (handler : Bool)
    (s : Impl) : (s.completeTermination operation errorCode handler).begins = s.begins := by
  rw [completeTermination]
  split
  · rfl
  · rfl

theorem Orderly.complete {r : Impl} (inv : s.Orderly) (errorCode : ErrorCode) (handler : Bool)
    (elsewhere : Elsewhere operation s r) (made : operation < s.requests)
    (started : (r.operations operation).started = true)
    (outstanding : (r.operations operation).completed = false)
    (able : (handler || (r.operations operation).handler) = true)
    (grounded : r.flights operation = 0) (silent : r.invoked operation = 0)
    (begun : r.begins.count operation = 0) :
    (r.completeTermination operation errorCode handler).Orderly := by
  obtain ⟨staged, still⟩ :=
    staged_completeTermination errorCode handler started outstanding able grounded silent
  refine inv.change (elsewhere.trans (elsewhere_completeTermination _ _ _ r)) staged made ?_
  rw [begins_completeTermination]
  exact gone_of_started begun still

end Impl

/-! ## Stages -/

section

variable {prims : ProofPrimitives} {settings : Settings} {gate : Gate}

variable {s t : Impl} {value : Operation}

/-- A message besides a `Terminate` of a request. -/
theorem Impl.Orderly.asyncSend (inv : s.Orderly) (message : Message) (loop : Loop) :
    (s.asyncSend message (.loop loop)).Orderly := by
  refine ⟨fun operation => ?_, inv.2⟩
  refine (inv.1 operation).frame rfl Iff.rfl ?_ rfl
  rw [Impl.flights_asyncSend, if_neg nofun]
  rfl

theorem Impl.Orderly.update {operation : Nat} (inv : s.Orderly) (made : operation < s.requests)
    (started : value.started = (s.operations operation).started)
    (staged : Stage value (s.termination = some operation) (s.flights operation)
      (s.invoked operation)) : (s.setOperation operation value).Orderly := by
  have same := Impl.operations_setOperation operation value s
  refine inv.change (Impl.elsewhere_setOperation operation value s) ?_ made ?_
  · rw [Impl.Staged, same]
    exact staged
  · rw [same, started]
    show s.begins.count operation = _
    rw [inv.2.1 operation]
    simp only [made, true_and]

/-- A request that is neither posted nor done is completed. -/
theorem Impl.Orderly.settle {operation : Nat} (inv : s.Orderly) (errorCode : ErrorCode)
    (unwritten : (s.operations operation).writing = false)
    (known : (s.operations operation).started = true ∨ s.termination = some operation) :
    (s.completeTermination operation errorCode false).Orderly := by
  cases inv.1 operation with
  | posted unstarted _ outstanding idle handler free =>
    rcases known with started | pending
    · rw [unstarted] at started
      cases started
    · exact absurd pending free
  | held started _ outstanding timed handler waiting grounded silent =>
    exact inv.complete errorCode false
      ⟨fun _ _ => rfl, fun _ _ => Iff.rfl, fun _ _ => rfl, fun _ _ => rfl, fun _ _ => rfl, rfl⟩
      (inv.2.2 operation started) started outstanding handler grounded silent (inv.begun started)
  | writing started written =>
    rw [unwritten] at written
    cases written
  | done started completed =>
    rw [Impl.completeTermination, if_pos completed]
    exact inv

/-- A request that is being written was made after the server acknowledged, and one that was cut
off has ended the connection. -/
def Impl.Past (s : Impl) : Prop :=
  (∀ operation, (s.operations operation).writing = true →
    s.state ≠ .null ∧ s.state ≠ .connecting) ∧
  ∀ operation, (s.operations operation).cause.failed = true → s.state = .disconnected

/-- While the client is connecting, the pending request is not being written. -/
theorem Impl.Orderly.held_of_connecting {operation : Nat} (inv : s.Orderly) (past : s.Past)
    (connecting : s.state = .connecting) (pending : s.termination = some operation) :
    (s.operations operation).writing = false ∧ (s.operations operation).started = true ∧
      (s.operations operation).completed = false ∧ s.flights operation = 0 ∧
      s.invoked operation = 0 := by
  cases inv.1 operation with
  | posted _ _ _ _ _ free | done _ _ free => exact absurd pending free
  | held started unwritten outstanding _ _ _ grounded silent =>
    exact ⟨unwritten, started, outstanding, grounded, silent⟩
  | writing _ written => exact absurd connecting (past.1 operation written).2

theorem Effect.orderly (effect : Effect prims settings gate s t) (past : s.Past) (inv : s.Orderly) :
    t.Orderly := by
  cases effect with
  | answer hello value world reads =>
    exact Impl.Orderly.asyncSend (s := { s with serverHello := some hello, reads }) inv _ _
  | open_ value world connects handshakes reads =>
    exact Impl.Orderly.asyncSend (s := { s with connects, handshakes, reads }) inv _ _
  | announce loop up plain | type loop connected typed => exact inv.asyncSend _ _
  | dropSend taken =>
    refine ⟨fun operation => (inv.1 operation).frame rfl Iff.rfl ?_ rfl, inv.2⟩
    have before := countP_of_taken taken fun send => decide (send.2 = .termination operation)
    rw [if_neg (by simp)] at before
    exact before.symm
  | barrier cancelled =>
    obtain ⟨handler, completions, same⟩ := onQueueCancelled_frame
      { s with queueCancels := s.queueCancels - 1 }
    rw [same]
    exact inv
  | request => exact inv.request
  | flag operation made =>
    have kept : (s.setOperation operation { s.operations operation with cancelled := true }).Orderly :=
      inv.update made rfl ((inv.1 operation).congr rfl rfl rfl rfl rfl)
    exact kept
  | startDone taken done =>
    obtain ⟨-, unstarted, -⟩ := inv.taken taken
    rw [(inv.posted unstarted).1] at done
    cases done
  | startComplete errorCode taken outstanding why =>
    rename_i index operation
    obtain ⟨made, unstarted, gone⟩ := inv.taken taken
    obtain ⟨-, handler, -, grounded, silent⟩ := inv.posted unstarted
    have same := Impl.operations_setOperation operation
      { s.operations operation with started := true } { s with begins := s.begins.eraseIdx index }
    refine inv.complete errorCode false ((Impl.elsewhere_begins taken (.inl rfl)).trans
      (Impl.elsewhere_setOperation _ _ _)) made ?_ ?_ ?_ grounded silent gone
    · rw [same]
    · rw [same]
      exact outstanding
    · rw [same]
      exact handler
  | startArm taken outstanding unsent connecting free =>
    rename_i index operation
    obtain ⟨made, unstarted, gone⟩ := inv.taken taken
    obtain ⟨-, handler, unwritten, grounded, silent⟩ := inv.posted unstarted
    have same := Impl.operations_setOperation operation
      { s.operations operation with started := true, timer := .armed }
      { s with begins := s.begins.eraseIdx index, termination := some operation }
    refine inv.change ((Impl.elsewhere_begins taken (.inr ⟨free, rfl⟩)).trans
      (Impl.elsewhere_setOperation _ _ _)) ?_ made
      (Impl.gone_of_started gone (congrArg Operation.started same))
    rw [Impl.Staged, same]
    exact .held rfl unwritten outstanding nofun handler rfl grounded silent
  | startWrite taken outstanding unsent connected free =>
    rename_i index operation
    obtain ⟨made, unstarted, gone⟩ := inv.taken taken
    obtain ⟨-, -, -, grounded, silent⟩ := inv.posted unstarted
    have same := Impl.operations_setOperation operation
      { s.operations operation with
        started := true, timer := .armed, writing := true, handler := false }
      { s with begins := s.begins.eraseIdx index, termination := some operation }
    refine inv.change (((Impl.elsewhere_begins taken (.inr ⟨free, rfl⟩)).trans
      (Impl.elsewhere_setOperation _ _ _)).trans (Impl.elsewhere_asyncSend _ _ _)) ?_ made
      (Impl.gone_of_started gone (congrArg Operation.started same))
    rw [Impl.Staged, Impl.flights_asyncSend, if_pos rfl]
    refine .writing ?_ ?_ ?_ rfl (congrArg (· + 1) grounded) silent
    · exact congrArg Operation.started same
    · exact congrArg Operation.writing same
    · exact (congrArg Operation.completed same).trans outstanding
  | startFail errorCode taken outstanding free raised =>
    rename_i index operation
    obtain ⟨made, unstarted, gone⟩ := inv.taken taken
    obtain ⟨-, handler, -, grounded, silent⟩ := inv.posted unstarted
    have same := Impl.operations_setOperation operation
      { s.operations operation with started := true, timer := .armed }
      { s with begins := s.begins.eraseIdx index, termination := some operation }
    refine inv.complete errorCode false ((Impl.elsewhere_begins taken (.inr ⟨free, rfl⟩)).trans
      (Impl.elsewhere_setOperation _ _ _)) made ?_ ?_ ?_ grounded silent gone
    · rw [same]
    · rw [same]
      exact outstanding
    · rw [same]
      exact handler
  | openWrite capabilities connecting passes pending =>
    rename_i operation
    obtain ⟨-, started, outstanding, grounded, silent⟩ :=
      inv.held_of_connecting past connecting pending
    have same := Impl.operations_setOperation operation
      { s.operations operation with writing := true, handler := false }
      { s with state := .connected }
    have elsewhere : Impl.Elsewhere operation s { s with state := .connected } :=
      ⟨fun _ _ => rfl, fun _ _ => Iff.rfl, fun _ _ => rfl, fun _ _ => rfl, fun _ _ => rfl, rfl⟩
    refine inv.change ((elsewhere.trans (Impl.elsewhere_setOperation _ _ _)).trans
      (Impl.elsewhere_asyncSend _ _ _)) ?_ (inv.2.2 operation started)
      (Impl.gone_of_started (inv.begun started) ((congrArg Operation.started same).trans started))
    rw [Impl.Staged, Impl.flights_asyncSend, if_pos rfl]
    refine .writing ?_ ?_ ?_ pending (congrArg (· + 1) grounded) silent
    · exact (congrArg Operation.started same).trans started
    · exact congrArg Operation.writing same
    · exact (congrArg Operation.completed same).trans outstanding
  | openComplete capabilities errorCode connecting passes pending raised =>
    rename_i operation
    obtain ⟨unwritten, started, -⟩ := inv.held_of_connecting past connecting pending
    exact Impl.Orderly.settle (s := { s with state := .connected }) inv errorCode unwritten
      (.inl started)
  | complete errorCode unwritten known raised => exact inv.settle errorCode unwritten known
  | expire armed =>
    rename_i operation
    cases inv.1 operation with
    | posted _ _ _ idle => cases armed.symm.trans idle
    | held started unwritten outstanding timed handler waiting grounded silent =>
      exact inv.update (inv.2.2 operation started) rfl
        (.held started unwritten outstanding nofun handler waiting grounded silent)
    | writing started written outstanding waiting flying silent =>
      exact inv.update (inv.2.2 operation started) rfl
        (.writing started written outstanding waiting flying silent)
    | done started completed free grounded told =>
      exact inv.update (inv.2.2 operation started) rfl
        (.done started completed free grounded told)
  | fireComplete outstanding started unwritten =>
    rename_i operation
    have same := Impl.operations_setOperation operation
      { s.operations operation with timer := .idle } s
    cases inv.1 operation with
    | posted unstarted => cases started.symm.trans unstarted
    | held _ _ _ timed handler waiting grounded silent =>
      exact inv.complete _ false (Impl.elsewhere_setOperation _ _ s)
        (inv.2.2 operation started) ((congrArg Operation.started same).trans started)
        ((congrArg Operation.completed same).trans outstanding)
        ((congrArg Operation.handler same).trans handler) grounded silent (inv.begun started)
    | writing _ written => cases unwritten.symm.trans written
    | done _ completed => cases outstanding.symm.trans completed
  | fire idle expired =>
    rename_i operation
    cases inv.1 operation with
    | posted _ _ _ timer => cases expired.symm.trans timer
    | held started unwritten outstanding =>
      rw [started, unwritten, outstanding] at idle
      simp at idle
    | writing started written outstanding waiting flying silent =>
      exact inv.update (inv.2.2 operation started) rfl
        (.writing started written outstanding waiting flying silent)
    | done started completed free grounded told =>
      exact inv.update (inv.2.2 operation started) rfl
        (.done started completed free grounded told)
  | cut cause outstanding writing ended =>
    rename_i operation
    cases inv.1 operation with
    | posted _ unwritten | held _ unwritten => cases writing.symm.trans unwritten
    | writing started written outstanding waiting flying silent =>
      exact inv.update (inv.2.2 operation started) rfl
        (.writing started written outstanding waiting flying silent)
    | done _ completed => cases outstanding.symm.trans completed
  | confirm errorCode taken ended =>
    rename_i index operation message
    have before : ∀ other, s.flights other = _ := fun other =>
      countP_of_taken taken fun send => decide (send.2 = .termination other)
    have flying : s.flights operation =
        Impl.flights { s with sends := s.sends.eraseIdx index } operation + 1 := by
      rw [before operation, if_pos (decide_eq_true rfl)]
      rfl
    cases inv.1 operation with
    | posted _ _ _ _ _ _ grounded | held _ _ _ _ _ _ grounded | done _ _ _ grounded => omega
    | writing started written outstanding waiting single silent =>
      refine inv.complete _ true ⟨fun _ _ => rfl, fun _ _ => Iff.rfl, fun other apart => ?_,
        fun _ _ => rfl, fun _ _ => rfl, rfl⟩ (inv.2.2 operation started) started outstanding rfl
        ?_ silent (inv.begun started)
      · have same := before other
        rw [if_neg fun same => apart
          (SendHandler.termination.inj (of_decide_eq_true same)).symm] at same
        exact same.symm
      · exact Nat.succ.inj (flying.symm.trans single)
  | _ => exact inv

/-! ## The write -/

theorem member_setOperation {α : Type} (member : Operation → α) {operation : Nat}
    (same : member value = member (s.operations operation)) (other : Nat) :
    member ((s.setOperation operation value).operations other) = member (s.operations other) := by
  by_cases here : other = operation
  · rw [here, Impl.operations_setOperation, same]
  · rw [(Impl.elsewhere_setOperation operation value s).operations other here]

theorem member_completeTermination {α : Type} (member : Operation → α)
    (same : ∀ (value : Operation) (timer : TimerWait) (handler : Bool),
      member { value with completed := true, timer, handler } = member value)
    (operation : Nat) (errorCode : ErrorCode) (handler : Bool) (s : Impl) (other : Nat) :
    member ((s.completeTermination operation errorCode handler).operations other) =
      member (s.operations other) := by
  rw [Impl.completeTermination]
  split
  · rfl
  · exact member_setOperation member (same _ _ _) other

theorem Impl.Past.frame (inv : s.Past)
    (writing : ∀ other, (t.operations other).writing = (s.operations other).writing)
    (cause : ∀ other, (t.operations other).cause = (s.operations other).cause)
    (state : t.state = s.state) : t.Past := by
  refine ⟨fun other written => ?_, fun other failed => ?_⟩
  · rw [state]
    exact inv.1 other ((writing other).symm.trans written)
  · rw [state]
    exact inv.2 other ((congrArg ErrorCode.failed (cause other)).symm.trans failed)

/-- A request is completed. -/
theorem Impl.Past.complete (inv : s.Past) (operation : Nat) (errorCode : ErrorCode) (handler : Bool)
    : (s.completeTermination operation errorCode handler).Past :=
  inv.frame (member_completeTermination Operation.writing (fun _ _ _ => rfl) _ _ _ s)
    (member_completeTermination Operation.cause (fun _ _ _ => rfl) _ _ _ s)
    (Impl.state_completeTermination _ _ _ s)

/-- A member of a request changes. -/
theorem Impl.Past.update {operation : Nat} (inv : s.Past)
    (writing : value.writing = (s.operations operation).writing)
    (cause : value.cause = (s.operations operation).cause) :
    (s.setOperation operation value).Past :=
  inv.frame (member_setOperation Operation.writing writing)
    (member_setOperation Operation.cause cause) rfl

/-- A request is written by a client that is connected. -/
theorem Impl.Past.write {operation : Nat} (inv : s.Past) (alive : s.state ≠ .disconnected)
    (operations : t.operations = Function.update s.operations operation value)
    (cause : value.cause = (s.operations operation).cause) (connected : t.state = .connected) :
    t.Past := by
  refine ⟨fun _ _ => ?_, fun other failed => ?_⟩
  · rw [connected]
    exact ⟨nofun, nofun⟩
  · rw [operations] at failed
    have same := member_setOperation (s := s) Operation.cause cause other
    exact absurd (inv.2 other ((congrArg ErrorCode.failed same).symm.trans failed)) alive

theorem Effect.past (effect : Effect prims settings gate s t) (inv : s.Past) : t.Past := by
  cases effect with
  | begin null =>
    refine ⟨fun operation written => absurd null (inv.1 operation written).1, ?_⟩
    intro operation failed
    cases null.symm.trans (inv.2 operation failed)
  | connect capabilities connecting passes =>
    refine ⟨fun _ _ => ⟨nofun, nofun⟩, fun operation failed => ?_⟩
    cases connecting.symm.trans (inv.2 operation failed)
  | leave errorCode raised connected =>
    refine ⟨fun _ _ => ⟨nofun, nofun⟩, fun operation failed => ?_⟩
    cases connected.symm.trans (inv.2 operation failed)
  | exit state code reads moved reading running remote =>
    subst moved
    refine ⟨fun _ _ => ⟨nofun, nofun⟩, fun operation failed => ?_⟩
    exact absurd (inv.2 operation failed) running.up.2
  | close errorCode code up why => exact ⟨fun _ _ => ⟨nofun, nofun⟩, fun _ _ => rfl⟩
  | barrier cancelled =>
    obtain ⟨handler, completions, same⟩ := onQueueCancelled_frame
      { s with queueCancels := s.queueCancels - 1 }
    rw [same]
    exact inv
  | flag operation made =>
    have kept : (s.setOperation operation { s.operations operation with cancelled := true }).Past :=
      inv.update rfl rfl
    exact kept
  | startDone taken done =>
    rename_i index operation
    exact Impl.Past.update (s := { s with begins := s.begins.eraseIdx index }) inv rfl rfl
  | startComplete errorCode taken outstanding why =>
    rename_i index operation
    refine Impl.Past.complete ?_ operation errorCode false
    exact Impl.Past.update (s := { s with begins := s.begins.eraseIdx index }) inv rfl rfl
  | startArm taken outstanding unsent connecting free =>
    rename_i index operation
    exact Impl.Past.update (s := { s with
      begins := s.begins.eraseIdx index, termination := some operation }) inv rfl rfl
  | startWrite taken outstanding unsent connected free =>
    refine inv.write ?_ rfl rfl connected
    rw [connected]
    exact nofun
  | startFail errorCode taken outstanding free raised =>
    rename_i index operation
    refine Impl.Past.complete ?_ operation errorCode false
    exact Impl.Past.update (s := { s with
      begins := s.begins.eraseIdx index, termination := some operation }) inv rfl rfl
  | openWrite capabilities connecting passes pending =>
    refine inv.write ?_ rfl rfl rfl
    rw [connecting]
    exact nofun
  | openComplete capabilities errorCode connecting passes pending raised =>
    have past : Impl.Past { s with state := .connected } := by
      refine ⟨fun _ _ => ⟨nofun, nofun⟩, fun operation failed => ?_⟩
      cases connecting.symm.trans (inv.2 operation failed)
    exact past.complete _ _ _
  | complete errorCode unwritten known raised => exact inv.complete _ _ _
  | expire armed | fire idle expired => exact inv.update rfl rfl
  | fireComplete outstanding started unwritten =>
    refine Impl.Past.complete ?_ _ _ _
    exact inv.update rfl rfl
  | cut cause outstanding writing ended =>
    rename_i operation
    have closed := ended.resolve_left (inv.1 operation writing).1
    refine ⟨fun other written => inv.1 other ?_, fun _ _ => closed⟩
    have same : Operation.writing
        ((s.setOperation operation { s.operations operation with cause }).operations other) =
        (s.operations other).writing := by
      refine member_setOperation Operation.writing ?_ other
      rfl
    exact same.symm.trans written
  | confirm errorCode taken ended =>
    refine Impl.Past.complete ?_ _ _ _
    exact inv
  | _ => exact inv

/-- A `Terminate` message. -/
def isTerminate : Message → Bool
  | .terminate => true
  | _ => false

namespace Impl

/-- The pending request is being written. -/
def Writing (s : Impl) : Prop :=
  ∃ operation, s.termination = some operation ∧ (s.operations operation).writing = true

/-- At most one `Terminate` was handed over. Once it was, it is being written, or it was written,
or the connection is closed; and then no request is pending. -/
def Once (s : Impl) : Prop :=
  (s.terminationSent = true → s.termination = none) ∧
  s.sent.countP isTerminate ≤ 1 ∧
  (s.sent.countP isTerminate ≠ 0 → (s.state ≠ .null ∧ s.state ≠ .connecting) ∧
    (s.terminationSent = true ∨ s.Writing ∨ s.state = .disconnected))

variable {operation : Nat}

theorem Writing.update {s : Impl} (inv : s.Writing) {value : Operation}
    (same : value.writing = (s.operations operation).writing) :
    (s.setOperation operation value).Writing := by
  obtain ⟨other, pending, written⟩ := inv
  exact ⟨other, pending, (member_setOperation Operation.writing same other).trans written⟩

theorem termination_completeTermination (errorCode : ErrorCode) (handler : Bool) {s : Impl}
    {termination : Option Nat} (pending : s.termination = termination)
    (other : termination ≠ some operation) :
    (s.completeTermination operation errorCode handler).termination = termination := by
  rw [completeTermination]
  split
  · exact pending
  · show (if s.termination = some operation then none else s.termination) = termination
    rw [pending, if_neg other]

/-- A request that is not written is completed. -/
theorem Writing.complete {s : Impl} (inv : s.Writing) (errorCode : ErrorCode) (handler : Bool)
    (unwritten : (s.operations operation).writing = false) :
    (s.completeTermination operation errorCode handler).Writing := by
  obtain ⟨other, pending, written⟩ := inv
  refine ⟨other, termination_completeTermination errorCode handler pending ?_, ?_⟩
  · rintro ⟨⟩
    cases unwritten.symm.trans written
  · exact (member_completeTermination Operation.writing (fun _ _ _ => rfl) _ _ _ s other).trans
      written

/-- What keeps the state, the messages and the write. -/
theorem Once.frame {s t : Impl} (inv : s.Once) (sent : t.sent.countP isTerminate = s.sent.countP isTerminate)
    (state : t.state = s.state) (written : t.terminationSent = s.terminationSent)
    (free : s.termination = none → t.termination = none)
    (writing : s.Writing → t.Writing) : t.Once := by
  refine ⟨fun done => free (inv.1 (written.symm.trans done)), sent ▸ inv.2.1, fun some => ?_⟩
  obtain ⟨begun, course⟩ := inv.2.2 (sent ▸ some)
  rw [state, written]
  exact ⟨begun, course.imp_right (Or.imp_left writing)⟩

theorem Once.update {s : Impl} (inv : s.Once) {value : Operation}
    (same : value.writing = (s.operations operation).writing) :
    (s.setOperation operation value).Once :=
  inv.frame rfl rfl rfl id fun writing => writing.update same

theorem frame_completeTermination (operation : Nat) (errorCode : ErrorCode) (handler : Bool)
    (s : Impl) :
    ∃ operations termination terminated,
      s.completeTermination operation errorCode handler =
        { s with operations, termination, terminated } ∧
      (s.termination = none → termination = none) ∧
      ∀ entry ∈ terminated, entry ∈ s.terminated ∨ entry = (operation, errorCode) := by
  rw [completeTermination]
  split
  · exact ⟨_, _, _, rfl, id, fun _ mem => .inl mem⟩
  · refine ⟨_, _, _, rfl, fun free => ?_, fun entry mem => ?_⟩
    · show (if s.termination = some operation then none else s.termination) = none
      rw [free, if_neg (by rintro ⟨⟩)]
    · split at mem
      · exact (mem_append.mp mem).imp_right mem_singleton.mp
      · exact .inl mem

theorem Once.complete {s : Impl} (inv : s.Once) (errorCode : ErrorCode) (handler : Bool)
    (unwritten : (s.operations operation).writing = false) :
    (s.completeTermination operation errorCode handler).Once := by
  have writing := fun running : s.Writing => running.complete errorCode handler unwritten
  obtain ⟨operations, termination, terminated, same, free, -⟩ :=
    frame_completeTermination operation errorCode handler s
  rw [same] at writing ⊢
  exact inv.frame rfl rfl rfl free writing

/-- A message besides a `Terminate`. -/
theorem Once.append {s : Impl} (inv : s.Once) {message : Message} (loop : Loop)
    (other : isTerminate message = false) : (s.asyncSend message (.loop loop)).Once := by
  refine inv.frame ?_ rfl rfl id id
  rw [asyncSend, countP_append, countP_singleton, other]
  rfl

theorem Once.early {s : Impl} (inv : s.Once) (early : s.state = .null ∨ s.state = .connecting) :
    s.sent.countP isTerminate = 0 := by
  by_contra some
  obtain ⟨⟨running, begun⟩, -⟩ := inv.2.2 some
  exact early.elim running begun

theorem Once.move {s t : Impl} (inv : s.Once) (sent : t.sent = s.sent)
    (written : t.terminationSent = s.terminationSent) (termination : t.termination = s.termination)
    (operations : t.operations = s.operations)
    (begun : t.state ≠ .null ∧ t.state ≠ .connecting)
    (open_ : s.state ≠ .disconnected ∨ t.state = .disconnected) : t.Once := by
  refine ⟨fun done => termination.trans (inv.1 (written.symm.trans done)), sent ▸ inv.2.1, ?_⟩
  intro some
  obtain ⟨-, course⟩ := inv.2.2 (sent ▸ some)
  refine ⟨begun, ?_⟩
  rw [written, Writing, termination, operations]
  rcases open_ with alive | closed
  · rcases course with done | writing | closed
    · exact .inl done
    · exact .inr (.inl writing)
    · exact absurd closed alive
  · exact .inr (.inr closed)

/-- The only `Terminate` is handed over. -/
theorem Once.write {s t : Impl} (none : s.sent.countP isTerminate = 0)
    (sent : t.sent = s.sent ++ [.terminate]) (unsent : t.terminationSent = false)
    (pending : t.termination = some operation) (written : (t.operations operation).writing = true)
    (connected : t.state = .connected) : t.Once := by
  have one : t.sent.countP isTerminate = 1 := by
    rw [sent, countP_append, none]
    rfl
  refine ⟨fun done => ?_, one.le, fun _ => ⟨?_, .inr (.inl ⟨operation, pending, written⟩)⟩⟩
  · cases unsent.symm.trans done
  · rw [connected]
    exact ⟨nofun, nofun⟩

theorem free_completeTermination {s : Impl} (errorCode : ErrorCode) (handler : Bool)
    (outstanding : (s.operations operation).completed = false)
    (pending : s.termination = some operation) :
    (s.completeTermination operation errorCode handler).termination = none := by
  rw [completeTermination, if_neg (Bool.eq_false_iff.mp outstanding)]
  exact if_pos pending

/-- The write of the pending request is in flight. -/
theorem Orderly.flying {index : Nat} {message : Message} {s : Impl} (inv : s.Orderly)
    (taken : s.sends[index]? = some (message, .termination operation)) :
    s.termination = some operation ∧ (s.operations operation).completed = false := by
  have flying : s.flights operation ≠ 0 := by
    rw [flights, countP_of_taken taken, if_pos (decide_eq_true rfl)]
    exact Nat.succ_ne_zero _
  cases inv.1 operation with
  | posted _ _ _ _ _ _ grounded | held _ _ _ _ _ _ grounded | done _ _ _ grounded => exact absurd grounded flying
  | writing _ _ outstanding waiting => exact ⟨waiting, outstanding⟩

/-- No request was pending and none is after the change. -/
theorem Once.idle {s t : Impl} (inv : s.Once) (free : s.termination = none)
    (gone : t.termination = none) (sent : t.sent = s.sent)
    (written : t.terminationSent = s.terminationSent) (state : t.state = s.state) : t.Once := by
  refine inv.frame (congrArg _ sent) state written (fun _ => gone) ?_
  rintro ⟨operation, pending, -⟩
  cases free.symm.trans pending

theorem Once.drop {s r : Impl} (inv : s.Once) (errorCode : ErrorCode) (handler : Bool)
    (free : s.termination = none) (pending : r.termination = some operation)
    (outstanding : (r.operations operation).completed = false) (sent : r.sent = s.sent)
    (written : r.terminationSent = s.terminationSent) (state : r.state = s.state) :
    (r.completeTermination operation errorCode handler).Once := by
  have gone := free_completeTermination errorCode handler outstanding pending
  obtain ⟨operations, termination, terminated, same, -⟩ :=
    frame_completeTermination operation errorCode handler r
  rw [same] at gone ⊢
  exact inv.idle free gone sent written state

end Impl

theorem isTerminate_of_typed {message : Message} (typed : Typed prims settings message) :
    isTerminate message = false := by
  cases typed with
  | data | eos | terminalSize => rfl

theorem Effect.once (effect : Effect prims settings gate s t) (orderly : s.Orderly) (past : s.Past)
    (inv : s.Once) : t.Once := by
  cases effect with
  | begin null =>
    have none := inv.early (.inl null)
    exact ⟨inv.1, inv.2.1, fun some => absurd none some⟩
  | answer hello value world reads =>
    exact Impl.Once.append (s := { s with serverHello := some hello, reads }) inv _ rfl
  | open_ value world connects handshakes reads =>
    exact Impl.Once.append (s := { s with connects, handshakes, reads }) inv _ rfl
  | connect capabilities connecting passes =>
    refine inv.move rfl rfl rfl rfl ⟨nofun, nofun⟩ (.inl ?_)
    rw [connecting]
    exact nofun
  | announce loop up plain =>
    rename_i message
    refine inv.append loop ?_
    cases message with
    | terminate => cases plain
    | _ => rfl
  | type loop connected typed => exact inv.append loop (isTerminate_of_typed typed)
  | leave errorCode raised connected =>
    refine inv.move rfl rfl rfl rfl ⟨nofun, nofun⟩ (.inl ?_)
    rw [connected]
    exact nofun
  | exit state code reads moved reading running remote =>
    subst moved
    exact inv.move rfl rfl rfl rfl ⟨nofun, nofun⟩ (.inl running.up.2)
  | close errorCode code up why => exact inv.move rfl rfl rfl rfl ⟨nofun, nofun⟩ (.inr rfl)
  | barrier cancelled =>
    obtain ⟨handler, completions, same⟩ := onQueueCancelled_frame
      { s with queueCancels := s.queueCancels - 1 }
    rw [same]
    exact inv
  | flag operation made =>
    have kept : (s.setOperation operation { s.operations operation with cancelled := true }).Once :=
      inv.update rfl
    exact kept
  | startDone taken done =>
    rename_i index operation
    exact Impl.Once.update (s := { s with begins := s.begins.eraseIdx index }) inv rfl
  | startComplete errorCode taken outstanding why =>
    rename_i index operation
    obtain ⟨-, unstarted, -⟩ := orderly.taken taken
    refine Impl.Once.complete ?_ errorCode false ?_
    · exact Impl.Once.update (s := { s with begins := s.begins.eraseIdx index }) inv rfl
    · rw [Impl.operations_setOperation]
      exact (orderly.posted unstarted).2.2.1
  | startArm taken outstanding unsent connecting free =>
    have none := inv.early (.inr connecting)
    refine ⟨fun done => ?_, inv.2.1, fun some => absurd none some⟩
    cases unsent.symm.trans done
  | startWrite taken outstanding unsent connected free =>
    rename_i index operation
    have none : s.sent.countP isTerminate = 0 := by
      by_contra some
      rcases (inv.2.2 some).2 with done | ⟨other, pending, -⟩ | closed
      · cases unsent.symm.trans done
      · cases free.symm.trans pending
      · cases connected.symm.trans closed
    refine .write none rfl unsent rfl ?_ connected
    show Operation.writing (Function.update s.operations operation _ operation) = true
    rw [Function.update_self]
  | startFail errorCode taken outstanding free raised =>
    rename_i index operation
    refine inv.drop errorCode false free rfl ?_ rfl rfl rfl
    rw [Impl.operations_setOperation]
    exact outstanding
  | openWrite capabilities connecting passes pending =>
    rename_i operation
    have unsent : s.terminationSent = false := by
      refine Bool.eq_false_iff.mpr fun done => ?_
      cases (inv.1 done).symm.trans pending
    refine .write (inv.early (.inr connecting)) rfl unsent pending ?_ rfl
    show Operation.writing (Function.update s.operations operation _ operation) = true
    rw [Function.update_self]
  | openComplete capabilities errorCode connecting passes pending raised =>
    rename_i operation
    have unwritten := (orderly.held_of_connecting past connecting pending).1
    refine Impl.Once.complete (s := { s with state := .connected }) ?_ errorCode false unwritten
    refine inv.move rfl rfl rfl rfl ⟨nofun, nofun⟩ (.inl ?_)
    rw [connecting]
    exact nofun
  | complete errorCode unwritten known raised => exact inv.complete errorCode false unwritten
  | expire armed | fire idle expired | cut cause outstanding writing ended => exact inv.update rfl
  | fireComplete outstanding started unwritten =>
    refine Impl.Once.complete ?_ _ false ?_
    · exact inv.update rfl
    · rw [Impl.operations_setOperation]
      exact unwritten
  | confirm errorCode taken ended =>
    rename_i index operation message
    obtain ⟨pending, outstanding⟩ := orderly.flying taken
    generalize (s.operations operation).cause.orElse errorCode = cause at ended
    generalize settled : { s with
      sends := s.sends.eraseIdx index, pendingMessages := s.pendingMessages - 1
      terminationSent := !cause.failed, terminates := s.terminates ++ [errorCode] } = r
    have gone : (r.completeTermination operation cause true).termination = none := by
      subst settled
      exact Impl.free_completeTermination cause true outstanding pending
    obtain ⟨operations, termination, terminated, same, -⟩ :=
      Impl.frame_completeTermination operation cause true r
    rw [same] at gone ⊢
    subst settled
    refine ⟨fun _ => gone, inv.2.1, fun some => ?_⟩
    obtain ⟨begun, -⟩ := inv.2.2 some
    refine ⟨begun, ?_⟩
    show (!cause.failed) = true ∨ _ ∨ s.state = .disconnected
    cases failed : cause.failed with
    | false => exact .inl rfl
    | true => exact .inr (.inr ((ended failed).resolve_left begun.1))
  | _ => exact inv

/-- A `Terminate` was written without an error. -/
def Impl.Wrote (s : Impl) : Prop := ∃ errorCode ∈ s.terminates, errorCode.failed = false

/-- A success is reported only if a `Terminate` was written or the server has returned. -/
def Impl.Truthful (s : Impl) : Prop :=
  (s.terminationSent = true → s.Wrote) ∧
  ∀ entry ∈ s.terminated, entry.2.failed = false → s.Wrote ∨ s.remoteReturnCode.isSome = true

/-- A request is completed, with an error or for one of the two reasons. -/
theorem Impl.Truthful.complete (inv : s.Truthful) (operation : Nat) {errorCode : ErrorCode}
    (handler : Bool) (why : errorCode.failed = false → s.Wrote ∨ s.remoteReturnCode.isSome = true) :
    (s.completeTermination operation errorCode handler).Truthful := by
  obtain ⟨operations, termination, terminated, same, -, mem⟩ :=
    Impl.frame_completeTermination operation errorCode handler s
  rw [same]
  refine ⟨inv.1, fun entry here succeeded => ?_⟩
  rcases mem entry here with old | rfl
  · exact inv.2 entry old succeeded
  · exact why succeeded

/-- No success is reported with an error. -/
theorem not_succeeded {errorCode : ErrorCode} (raised : errorCode.failed = true) {p : Prop}
    (succeeded : errorCode.failed = false) : p := by
  cases raised.symm.trans succeeded

theorem Effect.truthful (effect : Effect prims settings gate s t) (inv : s.Truthful) :
    t.Truthful := by
  cases effect with
  | exit state code reads moved reading running remote => exact ⟨inv.1, fun _ _ _ => .inr rfl⟩
  | barrier cancelled =>
    obtain ⟨handler, completions, same⟩ := onQueueCancelled_frame
      { s with queueCancels := s.queueCancels - 1 }
    rw [same]
    exact inv
  | startComplete errorCode taken outstanding why =>
    refine Impl.Truthful.complete ?_ _ false fun succeeded => ?_
    · exact inv
    · rcases why with raised | written | remote
      · exact not_succeeded raised succeeded
      · exact .inl (inv.1 written)
      · exact .inr remote
  | startFail errorCode taken outstanding free raised
  | openComplete capabilities errorCode connecting passes pending raised =>
    refine Impl.Truthful.complete ?_ _ false (not_succeeded raised)
    exact inv
  | complete errorCode unwritten known raised => exact inv.complete _ false (not_succeeded raised)
  | fireComplete outstanding started unwritten =>
    refine Impl.Truthful.complete ?_ _ false nofun
    exact inv
  | confirm errorCode taken ended =>
    rename_i index operation message
    have wrote : ((s.operations operation).cause.orElse errorCode).failed = false →
        ∃ written ∈ s.terminates ++ [errorCode], written.failed = false := by
      intro succeeded
      rw [ErrorCode.failed_orElse, Bool.or_eq_false_iff] at succeeded
      exact ⟨errorCode, mem_append_right _ (mem_singleton.mpr rfl), succeeded.2⟩
    refine Impl.Truthful.complete ⟨fun written => ?_, fun entry mem succeeded => ?_⟩ operation true
      fun succeeded => .inl (wrote succeeded)
    · exact wrote (Bool.not_eq_eq_eq_not.mp written)
    · refine (inv.2 entry mem succeeded).imp_left ?_
      rintro ⟨written, mem, succeeded⟩
      exact ⟨written, mem_append_left _ mem, succeeded⟩
  | _ => exact inv

/-! ## Overlapping requests and cancellations -/

namespace Impl

/-- What a request is told that begins while another one is pending. -/
def overlapCode (s : Impl) (operation : Nat) : ErrorCode :=
  if (s.operations operation).cancelled then Error.Code.operationAborted
  else if s.remoteReturnCode.isSome then .none
  else if s.state ≠ .connecting ∧ s.state ≠ .connected then Error.Code.invalidState
  else operationInProgress

variable {operation : Nat}

/-- A request that is not the pending one is completed. -/
theorem completeTermination_of_other {s : Impl} (errorCode : ErrorCode)
    (other : s.termination ≠ some operation)
    (outstanding : (s.operations operation).completed = false)
    (handler : (s.operations operation).handler = true) :
    ∃ value, s.completeTermination operation errorCode false =
      { s with
        operations := Function.update s.operations operation value
        terminated := s.terminated ++ [(operation, errorCode)] } := by
  have kept : (if s.termination = some operation then none else s.termination) = s.termination :=
    if_neg other
  refine ⟨{ s.operations operation with
    completed := true, timer := (s.operations operation).timer.cancel
    handler := (s.operations operation).handler && false }, ?_⟩
  rw [completeTermination, if_neg (Bool.eq_false_iff.mp outstanding)]
  simp only [handler, Bool.false_or, if_true]
  show { s with
    operations := Function.update s.operations operation _
    termination := if s.termination = some operation then none else s.termination
    terminated := s.terminated ++ [(operation, errorCode)] } = _
  rw [kept]

theorem completeTermination_of_pending {other : Nat} {s : Impl} (begins : List Nat)
    (errorCode : ErrorCode) (pending : s.termination = some other) (apart : operation ≠ other)
    (outstanding : (s.operations operation).completed = false)
    (handler : (s.operations operation).handler = true) :
    ∃ value, ({ s with begins }.setOperation operation
        { s.operations operation with started := true }).completeTermination operation errorCode
        false =
      { s with
        begins, operations := Function.update s.operations operation value
        terminated := s.terminated ++ [(operation, errorCode)] } := by
  have same := operations_setOperation operation
    { s.operations operation with started := true } { s with begins }
  obtain ⟨value, completed⟩ := completeTermination_of_other
    (s := { s with begins }.setOperation operation { s.operations operation with started := true })
    errorCode (fun here => apart (Option.some.inj (here.symm.trans pending)))
    ((congrArg Operation.completed same).trans outstanding)
    ((congrArg Operation.handler same).trans handler)
  refine ⟨value, completed.trans ?_⟩
  show { s with
    begins, operations := Function.update (Function.update s.operations operation _) operation value
    terminated := s.terminated ++ [(operation, errorCode)] } = _
  rw [Function.update_idem]

/-- **Overlapping requests**: the one that begins is completed, and the pending one, the messages
and the connection are as before. -/
theorem beginTermination_of_pending {index other : Nat} (world : World) {s : Impl}
    (orderly : s.Orderly) (once : s.Once) (taken : s.begins[index]? = some operation)
    (pending : s.termination = some other) :
    operation ≠ other ∧ ∃ value,
      { s with begins := s.begins.eraseIdx index }.beginTermination world operation =
        { s with
          begins := s.begins.eraseIdx index
          operations := Function.update s.operations operation value
          terminated := s.terminated ++ [(operation, s.overlapCode operation)] } := by
  obtain ⟨-, unstarted, -⟩ := orderly.taken taken
  obtain ⟨outstanding, handler, -⟩ := orderly.posted unstarted
  have apart : operation ≠ other := by
    rintro rfl
    cases orderly.1 operation with
    | posted _ _ _ _ _ free | done _ _ free => exact free pending
    | held started | writing started => cases started.symm.trans unstarted
  have unsent : s.terminationSent = false := by
    refine Bool.eq_false_iff.mpr fun done => ?_
    cases (once.1 done).symm.trans pending
  refine ⟨apart, ?_⟩
  have refused := fun errorCode => completeTermination_of_pending (s.begins.eraseIdx index)
    errorCode pending apart outstanding handler
  have state : ∀ (value : Operation) (t : Impl), (t.setOperation operation value).state = t.state :=
    fun _ _ => rfl
  have remote : ∀ (value : Operation) (t : Impl),
      (t.setOperation operation value).remoteReturnCode = t.remoteReturnCode := fun _ _ => rfl
  have written : ∀ (value : Operation) (t : Impl),
      (t.setOperation operation value).terminationSent = t.terminationSent := fun _ _ => rfl
  have waiting : ∀ (value : Operation) (t : Impl),
      (t.setOperation operation value).termination = t.termination := fun _ _ => rfl
  have returned : (s.terminationSent = true ∨ s.remoteReturnCode.isSome = true) ↔
      s.remoteReturnCode.isSome = true := by
    rw [unsent]
    exact or_iff_right Bool.false_ne_true
  have busy : s.termination.isSome = true := by
    rw [pending]
    rfl
  rw [beginTermination, overlapCode]
  simp only [operations_setOperation, state, remote, written, waiting, returned, busy, if_true]
  rw [if_neg (Bool.eq_false_iff.mp outstanding)]
  split
  · exact refused _
  · split
    · exact refused _
    · split
      · exact refused _
      · exact refused _

/-- A request that is not being written is cancelled. -/
theorem cancelTermination_of_unwritten {s : Impl} (cause : ErrorCode)
    (unwritten : (s.operations operation).writing = false) :
    ∃ operations termination terminated, s.cancelTermination operation cause =
      { s with operations, termination, terminated } := by
  rw [cancelTermination]
  split
  · exact ⟨s.operations, s.termination, s.terminated, rfl⟩
  · obtain ⟨operations, termination, terminated, same, -⟩ :=
      frame_completeTermination operation cause false s
    exact ⟨operations, termination, terminated, same⟩

theorem disconnected_onError {errorCode : ErrorCode} {s : Impl} (raised : errorCode.failed = true)
    (begun : s.state ≠ .null) : (s.onError errorCode).state = .disconnected := by
  rw [onError, if_pos raised, onClose]
  split
  · rename_i down
    rw [Impl.down, Bool.or_eq_true, decide_eq_true_eq, decide_eq_true_eq] at down
    exact down.resolve_left begun
  · exact state_abandonTermination _ _

/-- A request that is being written is cancelled. -/
theorem cancelTermination_of_writing {cause : ErrorCode} {s : Impl} (orderly : s.Orderly)
    (past : s.Past) (raised : cause.failed = true)
    (written : (s.operations operation).writing = true)
    (outstanding : (s.operations operation).completed = false) :
    (s.cancelTermination operation cause).state = .disconnected := by
  have started : (s.operations operation).started = true := by
    cases orderly.1 operation with
    | posted _ unwritten => cases unwritten.symm.trans written
    | held started | writing started | done started => exact started
  rw [cancelTermination, if_neg, if_neg]
  · split
    · rename_i cut
      exact past.2 operation cut
    · exact disconnected_onError raised (past.1 operation written).1
  · rw [written]
    rintro ⟨⟩
  · rintro (done | unstarted)
    · cases outstanding.symm.trans done
    · cases unstarted.symm.trans started

/-- The events that cancel a request: the caller's cancellation and the timeout. -/
def Cancels (s : Impl) (operation : Nat) : Event → Prop
  | .cancelTermination index => s.cancels[index]? = some operation
  | .terminationTimer other => other = operation ∧ (s.operations operation).timer = .expired
  | _ => False

theorem step_cancels {event : Event} {world : World} {s : Impl} (orderly : s.Orderly)
    (past : s.Past) (cancels : s.Cancels operation event) :
    ∃ t, s.step prims settings (event, world) = some t ∧
      ((s.operations operation).writing = false → ∃ cancels operations termination terminated,
        t = { s with cancels, operations, termination, terminated }) ∧
      ((s.operations operation).writing = true → (s.operations operation).completed = false →
        t.state = .disconnected) := by
  cases event with
  | cancelTermination index =>
    have taken : s.step prims settings (.cancelTermination index, world) =
        some ({ s with cancels := s.cancels.eraseIdx index }.cancelTermination operation
          Error.Code.operationAborted) := by
      change s.cancels[index]? = some operation at cancels
      simp only [step, cancels]
    refine ⟨_, taken, fun unwritten => ?_, fun written outstanding => ?_⟩
    · obtain ⟨operations, termination, terminated, same⟩ := cancelTermination_of_unwritten
        (s := { s with cancels := s.cancels.eraseIdx index }) Error.Code.operationAborted unwritten
      exact ⟨_, operations, termination, terminated, same⟩
    · exact cancelTermination_of_writing (s := { s with cancels := s.cancels.eraseIdx index })
        orderly past rfl written outstanding
  | terminationTimer other =>
    obtain ⟨rfl, expired⟩ := cancels
    have same := operations_setOperation other { s.operations other with timer := .idle } s
    refine ⟨_, if_pos expired, fun unwritten => ?_, fun written outstanding => ?_⟩
    · obtain ⟨operations, termination, terminated, same⟩ := cancelTermination_of_unwritten
        Error.Code.operationTimeout ((congrArg Operation.writing same).trans unwritten)
      exact ⟨s.cancels, operations, termination, terminated, same⟩
    · have fired : Effect prims settings anyMessage s _ :=
        .fire (.inr (.inr written)) expired
      exact cancelTermination_of_writing (fired.orderly past orderly) (fired.past past) rfl
        ((congrArg Operation.writing same).trans written)
        ((congrArg Operation.completed same).trans outstanding)
  | _ => cases cancels

theorem orderly_init : Orderly {} :=
  ⟨fun _ => .posted rfl rfl rfl rfl rfl nofun rfl rfl, fun _ => rfl, nofun⟩

theorem past_init : Past {} := ⟨nofun, nofun⟩

theorem once_init : Once {} := ⟨nofun, Nat.zero_le 1, fun some => absurd rfl some⟩

theorem truthful_init : Truthful {} := ⟨nofun, fun _ mem => absurd mem not_mem_nil⟩

/-- In every run: the handler of a request is invoked at most once, and once if none of its steps
is in flight; at most one `Terminate` is handed over; a request that begins while another one is
pending is completed with `overlapCode` and changes nothing else; a success is reported only if a
`Terminate` was written without an error or the server has returned; and a cancellation, or a
timeout, of a request leaves the connection and the transport as they are if the request is not
being written, and closes the connection if it is. -/
theorem termination_requests (prims : ProofPrimitives) (settings : Settings) {s : Impl}
    (reaches : Reaches (Impl.step prims settings) {} s) :
    (∀ operation, s.invoked operation ≤ 1 ∧
      (operation < s.requests → operation ∉ s.begins → (s.operations operation).timer = .idle →
        s.flights operation = 0 → s.invoked operation = 1)) ∧
    s.sent.countP isTerminate ≤ 1 ∧
    (∀ index operation other world, s.begins[index]? = some operation →
      s.termination = some other → operation ≠ other ∧ ∃ value,
        s.step prims settings (.beginTermination index, world) = some { s with
          begins := s.begins.eraseIdx index
          operations := Function.update s.operations operation value
          terminated := s.terminated ++ [(operation, s.overlapCode operation)] }) ∧
    (∀ operation errorCode, (operation, errorCode) ∈ s.terminated → errorCode.failed = false →
      s.Wrote ∨ s.remoteReturnCode.isSome = true) ∧
    ∀ event operation world, s.Cancels operation event → ∃ t,
      s.step prims settings (event, world) = some t ∧
      ((s.operations operation).writing = false → ∃ cancels operations termination terminated,
        t = { s with cancels, operations, termination, terminated }) ∧
      ((s.operations operation).writing = true → (s.operations operation).completed = false →
        t.state = .disconnected) := by
  have inv : s.Orderly ∧ s.Past ∧ s.Once ∧ s.Truthful := by
    refine effect_invariant (p := fun s => s.Orderly ∧ s.Past ∧ s.Once ∧ s.Truthful)
      (run_of_reaches reaches) ⟨orderly_init, past_init, once_init, truthful_init⟩ ?_
    intro s t effect inv
    exact ⟨effect.orderly inv.2.1 inv.1, effect.past inv.2.1,
      effect.once inv.1 inv.2.1 inv.2.2.1, effect.truthful inv.2.2.2⟩
  obtain ⟨orderly, past, once, truthful⟩ := inv
  refine ⟨fun operation => ?_, once.2.1, ?_, fun operation errorCode mem => truthful.2 _ mem,
    fun event operation world cancels => step_cancels orderly past cancels⟩
  · cases orderly.1 operation with
    | posted unstarted _ _ _ _ _ _ silent =>
      refine ⟨silent ▸ Nat.zero_le 1, fun made unposted _ _ => ?_⟩
      have posted := orderly.2.1 operation
      rw [if_pos ⟨made, unstarted⟩, count_eq_zero_of_not_mem unposted] at posted
      cases posted
    | held _ _ _ timed _ _ _ silent =>
      exact ⟨silent ▸ Nat.zero_le 1, fun _ _ idle => absurd idle timed⟩
    | writing _ _ _ _ flying silent =>
      refine ⟨silent ▸ Nat.zero_le 1, fun _ _ _ grounded => ?_⟩
      cases grounded.symm.trans flying
    | done _ _ _ _ told => exact ⟨told.le, fun _ _ _ _ => told⟩
  · intro index operation other world taken pending
    obtain ⟨apart, value, begun⟩ :=
      beginTermination_of_pending world orderly once taken pending
    refine ⟨apart, value, ?_⟩
    simp only [step, taken, begun]

/-- A client that may terminate the session writes a request, and what happens then. -/
def requestedRun (later : List Event) : List (Event × World) :=
  let events : List Event := [.run, .resolved .none, .connected .none, .sent 0 .none,
    .received .none (some (.ack [.terminate])), .requestTermination, .beginTermination 0]
  (events ++ later).map fun event => (event, {})

/-- Another request is posted. -/
def overlappingClient : Impl :=
  (exec (Impl.step Server.sampleProofPrims {}) {} (requestedRun [.requestTermination])).getD {}

/-- The second request is refused, and the first one is not affected. -/
theorem overlappingClient_requests :
    overlappingClient.termination = some 0 ∧ overlappingClient.flights 0 = 1 ∧
      overlappingClient.overlapCode 1 = operationInProgress ∧ ∃ value,
        overlappingClient.step Server.sampleProofPrims {} (.beginTermination 0, {}) =
          some { overlappingClient with
            begins := overlappingClient.begins.eraseIdx 0
            operations := Function.update overlappingClient.operations 1 value
            terminated := overlappingClient.terminated ++ [(1, operationInProgress)] } := by
  have reaches : Reaches (Impl.step Server.sampleProofPrims {}) {} overlappingClient :=
    .of_exec_getD (requestedRun [.requestTermination]) (by decide)
  have code : overlappingClient.overlapCode 1 = operationInProgress := by decide
  refine ⟨by decide, by decide, code, ?_⟩
  obtain ⟨-, -, overlap, -⟩ := termination_requests Server.sampleProofPrims {} reaches
  rw [← code]
  exact (overlap 0 1 0 {} (by decide) (by decide)).2

/-- The caller disconnects during the write, and another request is posted. -/
def cancelledClient : Impl :=
  (exec (Impl.step Server.sampleProofPrims {}) {}
    (requestedRun [.cancel, .requestTermination])).getD {}

/-- The second request is told that the state is invalid. -/
theorem cancelledClient_overlap :
    Reaches (Impl.step Server.sampleProofPrims {}) {} cancelledClient ∧
      cancelledClient.begins = [1] ∧ cancelledClient.termination = some 0 ∧
      (cancelledClient.step Server.sampleProofPrims {} (.beginTermination 0, {})).map
          Impl.terminated = some [(1, Error.Code.invalidState.toErrorCode)] ∧
      Error.Code.invalidState.toErrorCode ≠ operationInProgress := by
  refine ⟨.of_exec_getD (requestedRun [.cancel, .requestTermination]) (by decide), ?_⟩
  decide

end Impl

end

end Rstream.Webtty.Client
