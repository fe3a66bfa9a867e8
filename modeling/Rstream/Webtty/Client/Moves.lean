import Rstream.Webtty.Client.Effects

/-!
# The course of a connection

The results about the connection do not look at the termination requests. Seen without
them, an effect is a chain of the changes of `Move`, in which all that concerns only the
requests, the timers and the local terminal is one change.
-/

namespace Rstream.Webtty.Client

open IoRstrm (ErrorCode)
open Server (DataPayload DataType Message Open ProofPrimitives TerminalSize)

/-- One primitive change of a connection. -/
inductive Move (prims : ProofPrimitives) (settings : Settings) (gate : Gate) :
    Impl → Impl → Prop where
  | tend {s : Impl} (timers heartbeats stdInReads sizeWaits requests : Nat)
      (terminalSize : Option TerminalSize) (canTerminate terminationSent : Bool)
      (refusals : List (ErrorCode × Int)) (termination : Option Nat)
      (operations : Nat → Operation) (begins cancels : List Nat) (terminates : List ErrorCode)
      (terminated : List (Nat × ErrorCode)) :
      Move prims settings gate s
        { s with
          timers, heartbeats, stdInReads, sizeWaits, requests, terminalSize, canTerminate
          terminationSent, refusals, termination, operations, begins, cancels, terminates
          terminated }
  | begin {s : Impl} (null : s.state = .null) :
      Move prims settings gate s
        { s with state := .connecting, handler := true, resolves := s.resolves + 1 }
  | hop {s : Impl} (resolves connects handshakes reads : Nat)
      (forward : resolves + connects + handshakes ≤ s.resolves + s.connects + s.handshakes)
      (bounded : resolves + connects + handshakes + reads ≤
        s.resolves + s.connects + s.handshakes + s.reads) :
      Move prims settings gate s { s with resolves, connects, handshakes, reads }
  | hello {s : Impl} (value : ServerHello) (reading : s.reads ≠ 0)
      (connecting : s.state = .connecting) (passes : gate s.sent (.serverHello value))
      (expected : settings.expectedServerIdentity.isSome = true)
      (accepted : (verifyServerHello prims settings value).failed = false) :
      Move prims settings gate s { s with serverHello := some value }
  | answer {s : Impl} (hello : ServerHello) (value : Open) (world : World) (reads : Nat)
      (bounded : reads ≤ s.reads) (reading : s.reads ≠ 0) (connecting : s.state = .connecting)
      (passes : gate s.sent (.serverHello hello))
      (expected : settings.expectedServerIdentity.isSome = true)
      (accepted : (verifyServerHello prims settings hello).failed = false)
      (made : openMessage prims settings world (some hello) = .ok value) :
      Move prims settings gate s
        ({ s with serverHello := some hello, reads }.asyncSend (.open_ value) (.loop .null))
  | open_ {s : Impl} (value : Open) (world : World) (connects handshakes reads : Nat)
      (spent : connects + handshakes + 1 ≤ s.connects + s.handshakes)
      (bounded : connects + handshakes + reads ≤ s.connects + s.handshakes + s.reads)
      (connecting : s.state = .connecting)
      (answers : settings.expectedServerIdentity.isSome = true → s.serverHello.isSome = true)
      (made : openMessage prims settings world s.serverHello = .ok value) :
      Move prims settings gate s
        ({ s with connects, handshakes, reads }.asyncSend (.open_ value) (.loop .null))
  | connect {s : Impl} (capabilities : List SessionCapability) (connecting : s.state = .connecting)
      (passes : gate s.sent (.ack capabilities)) :
      Move prims settings gate s { s with state := .connected }
  | announce {s : Impl} {message : Message} (handler : SendHandler) (up : s.Up)
      (plain : neutral message = true ∨ message = .terminate) :
      Move prims settings gate s (s.asyncSend message handler)
  | type {s : Impl} {message : Message} (loop : Loop) (connected : s.state = .connected)
      (typed : Typed prims settings message) :
      Move prims settings gate s (s.asyncSend message (.loop loop))
  | leave {s : Impl} (errorCode : ErrorCode) (raised : errorCode.failed = true)
      (connected : s.state = .connected) :
      Move prims settings gate s { s with state := .disconnecting, errorCode }
  | exit {s : Impl} (state : State) (code : Int) (reads : Nat) (moved : state = .disconnecting)
      (reading : reads + 1 = s.reads) (running : s.Running) (remote : s.remoteReturnCode = none) :
      Move prims settings gate s
        { s with state, reads, closes := s.closes ++ [code], remoteReturnCode := some code }
  | exitAgain {s : Impl} (code : Int) (reads : Nat) (reading : reads + 1 = s.reads)
      (remote : s.remoteReturnCode.isSome = true) :
      Move prims settings gate s { s with reads, closes := s.closes ++ [code] }
  | deliver {s : Impl} {type : DataType} {payload : DataPayload} (reads : Nat)
      (running : s.Running) (passes : gate s.sent (.data type payload))
      (bounded : reads + (content prims settings (type, payload)).toList.length ≤ s.reads) :
      Move prims settings gate s
        { s with
          reads, received := s.received ++ [(type, payload)]
          writes := s.writes ++ (content prims settings (type, payload)).toList }
  | wrote {s : Impl} {index : Nat} {stream : StdfdType} {bytes : Bytes} (count reads : Nat)
      (taken : s.writes[index]? = some (stream, bytes))
      (spent : reads = s.reads ∨ reads = s.reads + 1 ∧ count = bytes.length) :
      Move prims settings gate s
        { s with
          writes := s.writes.eraseIdx index, reads
          written := s.written ++ [(stream, bytes.take count)] }
  | closeWebsocket {s : Impl} (code : Int) (remote : s.remoteReturnCode = some code) :
      Move prims settings gate s { s with websocketCloses := s.websocketCloses ++ [code] }
  | dropWebsocket {s : Impl} (index : Nat) :
      Move prims settings gate s
        { s with websocketCloses := s.websocketCloses.eraseIdx index }
  | close {s : Impl} (errorCode : ErrorCode) (code : Int) (up : s.Up)
      (why : errorCode.failed = true ∨ s.remoteReturnCode.isSome = true) :
      Move prims settings gate s
        { s with
          state := .disconnected, closeCause := s.causeOf errorCode
          closeCode := s.remoteReturnCode.getD
            (if (s.causeOf errorCode).failed then -1 else code) }
  | cancelQueue {s : Impl} (closed : s.state = .disconnected) :
      Move prims settings gate s { s with queueCancels := s.queueCancels + 1 }
  | barrier {s : Impl} (cancelled : s.queueCancels ≠ 0) :
      Move prims settings gate s { s with queueCancels := s.queueCancels - 1 }.onQueueCancelled
  | dropSend {s : Impl} {index : Nat} {send : Message × SendHandler}
      (taken : s.sends[index]? = some send) :
      Move prims settings gate s
        { s with
          sends := s.sends.eraseIdx index, pendingMessages := s.pendingMessages - 1 }

section

variable {prims : ProofPrimitives} {settings : Settings} {gate : Gate}

/-- A chain of moves. -/
abbrev Moves (prims : ProofPrimitives) (settings : Settings) (gate : Gate) (s t : Impl) : Prop :=
  Relation.ReflTransGen (Move prims settings gate) s t

/-- What is done about the termination requests alone. -/
theorem move_operations (operations : Nat → Operation) (termination : Option Nat)
    (begins cancels : List Nat) (requests : Nat) (terminationSent : Bool)
    (terminates : List ErrorCode) (terminated : List (Nat × ErrorCode)) (s : Impl) :
    Move prims settings gate s
      { s with
        operations, termination, begins, cancels, requests, terminationSent, terminates
        terminated } :=
  .tend s.timers s.heartbeats s.stdInReads s.sizeWaits requests s.terminalSize s.canTerminate
    terminationSent s.refusals termination operations begins cancels terminates terminated

theorem moves_completeTermination (operation : Nat) (errorCode : ErrorCode) (handler : Bool)
    (s : Impl) :
    Moves prims settings gate s (s.completeTermination operation errorCode handler) := by
  rw [Impl.completeTermination]
  split
  · exact .refl
  · exact .single (move_operations _ _ s.begins s.cancels s.requests s.terminationSent s.terminates
      _ s)

theorem moves_setOperation (operation : Nat) (value : Operation) (s : Impl) :
    Moves prims settings gate s (s.setOperation operation value) :=
  .single (move_operations _ s.termination s.begins s.cancels s.requests s.terminationSent
    s.terminates s.terminated s)

/-- The pending request takes up another member, and one is taken from the posted ones. -/
theorem moves_begins (termination : Option Nat) (begins : List Nat) (s : Impl) :
    Moves prims settings gate s { s with begins, termination } :=
  .single (move_operations s.operations termination begins s.cancels s.requests s.terminationSent
    s.terminates s.terminated s)

variable {s t : Impl} {p : Impl → Prop}

theorem Effect.moves (effect : Effect prims settings gate s t) : Moves prims settings gate s t := by
  cases effect with
  | adjust timers heartbeats stdInReads sizeWaits terminalSize canTerminate =>
    exact .single (.tend timers heartbeats stdInReads sizeWaits s.requests terminalSize
      canTerminate s.terminationSent s.refusals s.termination s.operations s.begins s.cancels
      s.terminates s.terminated)
  | refuse refusal =>
    exact .single (.tend s.timers s.heartbeats s.stdInReads s.sizeWaits s.requests s.terminalSize
      s.canTerminate s.terminationSent (s.refusals ++ [refusal]) s.termination s.operations
      s.begins s.cancels s.terminates s.terminated)
  | begin null => exact .single (.begin null)
  | hop resolves connects handshakes reads forward bounded =>
    exact .single (.hop resolves connects handshakes reads forward bounded)
  | hello value reading connecting passes expected accepted =>
    exact .single (.hello value reading connecting passes expected accepted)
  | answer hello value world reads bounded reading connecting passes expected accepted made =>
    exact .single (.answer hello value world reads bounded reading connecting passes expected
      accepted made)
  | open_ value world connects handshakes reads spent bounded connecting answers made =>
    exact .single (.open_ value world connects handshakes reads spent bounded connecting answers
      made)
  | connect capabilities connecting passes =>
    exact .single (.connect capabilities connecting passes)
  | announce loop up plain => exact .single (.announce (.loop loop) up (.inl plain))
  | type loop connected typed => exact .single (.type loop connected typed)
  | leave errorCode raised connected => exact .single (.leave errorCode raised connected)
  | exit state code reads moved reading running remote =>
    exact .single (.exit state code reads moved reading running remote)
  | exitAgain code reads reading remote => exact .single (.exitAgain code reads reading remote)
  | deliver reads running passes bounded => exact .single (.deliver reads running passes bounded)
  | wrote count reads taken spent => exact .single (.wrote count reads taken spent)
  | closeWebsocket code remote => exact .single (.closeWebsocket code remote)
  | dropWebsocket index => exact .single (.dropWebsocket index)
  | close errorCode code up why => exact .single (.close errorCode code up why)
  | cancelQueue closed => exact .single (.cancelQueue closed)
  | barrier cancelled => exact .single (.barrier cancelled)
  | dropSend taken => exact .single (.dropSend taken)
  | request =>
    exact .single (move_operations s.operations s.termination _ s.cancels _ s.terminationSent
      s.terminates s.terminated s)
  | flag operation made =>
    exact .single (move_operations _ s.termination s.begins _ s.requests s.terminationSent
      s.terminates s.terminated s)
  | dropCancel index =>
    exact .single (move_operations s.operations s.termination s.begins _ s.requests
      s.terminationSent s.terminates s.terminated s)
  | startDone taken done =>
    exact (moves_begins s.termination _ s).trans (moves_setOperation _ _ _)
  | startComplete errorCode taken outstanding why =>
    exact ((moves_begins s.termination _ s).trans (moves_setOperation _ _ _)).trans
      (moves_completeTermination _ _ _ _)
  | startArm taken outstanding unsent connecting free =>
    exact (moves_begins _ _ s).trans (moves_setOperation _ _ _)
  | startWrite taken outstanding unsent connected free =>
    exact ((moves_begins _ _ s).trans (moves_setOperation _ _ _)).tail
      (.announce _ (Impl.Running.up (.inl connected)) (.inr rfl))
  | startFail errorCode taken outstanding free raised =>
    exact ((moves_begins _ _ s).trans (moves_setOperation _ _ _)).trans
      (moves_completeTermination _ _ _ _)
  | openWrite capabilities connecting passes pending =>
    exact .head (.connect capabilities connecting passes)
      ((moves_setOperation _ _ _).tail (.announce _ (Impl.Running.up (.inl rfl)) (.inr rfl)))
  | openComplete capabilities errorCode connecting passes pending raised =>
    exact .head (.connect capabilities connecting passes) (moves_completeTermination _ _ _ _)
  | complete errorCode unwritten known raised => exact moves_completeTermination _ _ _ _
  | expire armed | fire idle expired | cut cause outstanding writing ended => exact moves_setOperation _ _ _
  | fireComplete outstanding started unwritten =>
    exact (moves_setOperation _ _ _).trans (moves_completeTermination _ _ _ _)
  | confirm errorCode taken ended =>
    exact .head (.dropSend taken) (.head
      (move_operations s.operations s.termination s.begins s.cancels s.requests _ _ s.terminated _)
      (moves_completeTermination _ _ _ _))

theorem Moves.invariant (chain : Moves prims settings gate s t)
    (kept : ∀ {s t : Impl}, Move prims settings gate s t → p s → p t) (initially : p s) : p t := by
  induction chain with
  | refl => exact initially
  | tail _ move ih => exact kept move ih

/-- A chain of effects keeps what every effect keeps. -/
theorem Leads.invariant (chain : Leads prims settings gate s t)
    (kept : ∀ {s t : Impl}, Effect prims settings gate s t → p s → p t) (initially : p s) :
    p t := by
  induction chain with
  | refl => exact initially
  | tail _ effect ih => exact kept effect ih

theorem onQueueCancelled_frame (s : Impl) :
    ∃ handler completions, s.onQueueCancelled =
      { s with
        resourcesClosed := true, barriers := s.barriers + 1, handler, completions } := by
  rw [Impl.onQueueCancelled]
  split
  · exact ⟨_, _, rfl⟩
  · exact ⟨s.handler, s.completions, rfl⟩

theorem Move.announced (move : Move prims settings gate s t) (announced : s.Announced) :
    t.Announced := by
  cases move with
  | exit state code reads moved reading running remote => exact fun _ => rfl
  | closeWebsocket code remote => exact fun _ => remote ▸ rfl
  | dropWebsocket index =>
    intro some
    refine announced fun none => some ?_
    rw [none]
    rfl
  | barrier cancelled =>
    obtain ⟨handler, completions, same⟩ := onQueueCancelled_frame
      { s with queueCancels := s.queueCancels - 1 }
    rw [same]
    exact announced
  | _ => exact announced

namespace Impl

open Library

/-- What every effect keeps holds along runs. -/
theorem effect_invariant {p : Impl → Prop} {s : Impl}
    (run : Run (Impl.step prims settings) (Passes gate) {} s) (initially : p {})
    (kept : ∀ {s t : Impl}, Effect prims settings gate s t → p s → p t) : p s := by
  have both : p s ∧ s.Announced := by
    refine run.invariant (p := fun s => p s ∧ s.Announced) ⟨initially, fun some => absurd rfl some⟩ ?_
    intro s input t inv passes taken
    have chain := step_leads inv.2 passes taken
    refine ⟨chain.invariant kept inv.1, chain.invariant ?_ inv.2⟩
    intro s t effect announced
    exact effect.moves.invariant Move.announced announced
  exact both.1

/-- What every move keeps holds along runs. -/
theorem move_invariant {p : Impl → Prop} {s : Impl}
    (run : Run (Impl.step prims settings) (Passes gate) {} s) (initially : p {})
    (kept : ∀ {s t : Impl}, Move prims settings gate s t → p s → p t) : p s :=
  effect_invariant run initially fun effect => effect.moves.invariant kept

/-! ## One operation after the other -/

/-- At most one operation of the transport or the local output is in flight, and none before the
run or after the server has reported the return code. -/
def Driven (s : Impl) : Prop :=
  s.drive ≤ 1 ∧ (s.state = .null → s.drive = 0 ∧ s.remoteReturnCode = none) ∧
    (s.remoteReturnCode.isSome = true → s.drive = 0)

theorem driven_init : Driven {} := ⟨Nat.zero_le 1, fun _ => ⟨rfl, rfl⟩, nofun⟩

theorem Driven.shrink {s t : Impl} (inv : s.Driven) (fewer : t.drive ≤ s.drive)
    (null : t.state = .null → s.state = .null)
    (remote : t.remoteReturnCode = s.remoteReturnCode) : t.Driven := by
  refine ⟨fewer.trans inv.1, fun here => ?_, fun there => ?_⟩
  · obtain ⟨idle, none⟩ := inv.2.1 (null here)
    exact ⟨Nat.eq_zero_of_le_zero (idle ▸ fewer), remote.trans none⟩
  · rw [remote] at there
    exact Nat.eq_zero_of_le_zero (inv.2.2 there ▸ fewer)

/-- A connection that is not null stays so. -/
theorem Driven.state {s t : Impl} (inv : s.Driven) (same : t.drive = s.drive)
    (begun : t.state ≠ .null) (remote : t.remoteReturnCode = s.remoteReturnCode) : t.Driven :=
  inv.shrink same.le (fun null => absurd null begun) remote

theorem drive_eraseIdx {s : Impl} {index : Nat} {write : StdfdType × Bytes}
    (taken : s.writes[index]? = some write) :
    (s.writes.eraseIdx index).length + 1 = s.writes.length := by
  obtain ⟨bound, -⟩ := List.getElem?_eq_some_iff.mp taken
  rw [List.length_eraseIdx_of_lt bound]
  omega

end Impl

theorem Move.driven (move : Move prims settings gate s t) (inv : s.Driven) : t.Driven := by
  cases move with
  | begin null =>
    obtain ⟨idle, none⟩ := inv.2.1 null
    refine ⟨?_, nofun, fun there => ?_⟩
    · simp only [Impl.drive] at idle ⊢
      omega
    · exact absurd there (Option.not_isSome_iff_eq_none.mpr none)
  | hop resolves connects handshakes reads forward bounded =>
    exact inv.shrink (Nat.add_le_add_right bounded _) id rfl
  | answer hello value world reads bounded reading connecting passes expected accepted made =>
    exact inv.shrink (Nat.add_le_add_right (Nat.add_le_add_left bounded _) _) id rfl
  | open_ value world connects handshakes reads spent bounded connecting answers made =>
    refine inv.shrink ?_ id rfl
    simp only [Impl.drive, Impl.asyncSend]
    omega
  | connect capabilities connecting passes | leave errorCode raised connected
  | close errorCode code up why => exact inv.state rfl nofun rfl
  | exit state code reads moved reading running remote =>
    have single := inv.1
    have none : reads + 1 + s.resolves + s.connects + s.handshakes + s.writes.length ≤ 1 := by
      rw [Impl.drive, ← reading] at single
      omega
    refine ⟨?_, fun here => ?_, fun _ => ?_⟩
    · simp only [Impl.drive]
      omega
    · rw [moved] at here
      cases here
    · simp only [Impl.drive]
      omega
  | exitAgain code reads reading remote =>
    refine inv.shrink ?_ id rfl
    simp only [Impl.drive]
    omega
  | deliver reads running passes bounded =>
    refine inv.shrink ?_ id rfl
    simp only [Impl.drive, List.length_append]
    omega
  | wrote count reads taken spent =>
    refine inv.shrink ?_ id rfl
    have fewer := Impl.drive_eraseIdx taken
    simp only [Impl.drive]
    omega
  | barrier cancelled =>
    obtain ⟨handler, completions, same⟩ := onQueueCancelled_frame
      { s with queueCancels := s.queueCancels - 1 }
    rw [same]
    exact inv
  | _ => exact inv

namespace Impl

open Library

instance Passes.decidable (gate : Gate) [∀ sent message, Decidable (gate sent message)] (s : Impl) :
    (input : Event × World) → Decidable (s.Passes gate input)
  | (.received errorCode (some message), _) =>
    decidable_of_iff (errorCode.failed = false → isMessageExpected s.state message = true →
        gate s.sent message) (by
      constructor
      · rintro passes _ _ ⟨⟩
        exact passes
      · intro passes
        exact passes errorCode message rfl)
  | (.received _ none, _) | (.run, _) | (.cancel, _) | (.requestTermination, _)
  | (.cancelRequest _, _) | (.beginTermination _, _) | (.cancelTermination _, _)
  | (.expireTermination _, _) | (.terminationTimer _, _) | (.timer, _) | (.heartbeat, _)
  | (.resolved _, _) | (.connected _, _) | (.handshaken _, _) | (.sent _ _, _) | (.inputRead _, _)
  | (.terminalSize _, _) | (.written _ _ _, _) | (.websocketClosed _, _) | (.queueCancelled, _) =>
    isTrue fun _ _ same => nomatch same

/-- The gate that is always open. -/
def anyMessage : Gate := fun _ _ => True

theorem run_of_reaches {s : Impl} (reaches : Reaches (Impl.step prims settings) {} s) :
    Run (Impl.step prims settings) (Passes anyMessage) {} s :=
  reaches.mono fun _ _ _ _ _ _ _ _ => trivial

end Impl

end

end Rstream.Webtty.Client
