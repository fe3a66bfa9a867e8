import Rstream.Webtty.Client.Moves
import Rstream.Webtty.Server.Execution

/-!
# The server is authenticated before it is used

A client with an expected identity waits for a `ServerHello`, verifies it and answers it
with an `Open`; the `Ack` of the server makes it connected. The table of expected messages
admits the hello and the `Ack` in any order and any number while the client is connecting.
If the peer keeps the order (`openOrder`), the client is connected, sends local input and
writes peer data only after an accepted hello and an `Open` that answers it, and it sends
at most one `Open` (`authenticated_before_use`). A peer that sends the `Ack` first connects
without any hello (`ackFirst_connects`), and one that repeats its hello gets a second `Open`.
-/

namespace Rstream.Webtty.Client

open List
open IoRstrm (ErrorCode)
open Library
open Server (Message Open ProofPrimitives)

def isOpen : Message → Bool
  | .open_ _ => true
  | _ => false

/-- The messages that carry the local terminal: its input and its size. -/
def uses : Message → Bool
  | .data _ _ | .parameter _ => true
  | _ => false

/-- The order of a peer: of a client with an expected identity it acknowledges an `Open` that was
sent, and it sends no hello after it. -/
def openOrder (settings : Settings) : Gate := fun sent message =>
  settings.expectedServerIdentity.isSome = true →
    match message with
    | .ack _ => ∃ message ∈ sent, isOpen message = true
    | .serverHello _ => ∀ message ∈ sent, isOpen message = false
    | _ => True

instance openOrder.decidable (settings : Settings) (sent : List Message) :
    (message : Incoming) → Decidable (openOrder settings sent message)
  | .ack _ => inferInstanceAs
      (Decidable (_ = true → ∃ message ∈ sent, isOpen message = true))
  | .serverHello _ => inferInstanceAs
      (Decidable (_ = true → ∀ message ∈ sent, isOpen message = false))
  | .error | .protocolError _ | .close _ | .data _ _ | .heartbeat | .other =>
    isTrue fun _ => trivial

namespace Impl

/-- The client has accepted a hello, and the `Open` that it sent answers it. -/
def Answered (prims : ProofPrimitives) (settings : Settings) (s : Impl) : Prop :=
  ∃ hello world value, s.serverHello = some hello ∧
    (verifyServerHello prims settings hello).failed = false ∧
    openMessage prims settings world (some hello) = .ok value ∧ .open_ value ∈ s.sent

/-- Every `Open` that was sent answers the hello that the client keeps. -/
def Answers (prims : ProofPrimitives) (settings : Settings) (s : Impl) : Prop :=
  ∀ message ∈ s.sent, isOpen message = true → ∃ hello world value, s.serverHello = some hello ∧
    (verifyServerHello prims settings hello).failed = false ∧
    openMessage prims settings world (some hello) = .ok value ∧ message = .open_ value

/-- The members that change only once a client is connected. -/
def Used (s : Impl) : Prop :=
  s.Running ∨ s.received ≠ [] ∨ s.writes ≠ [] ∨ s.written ≠ [] ∨
    ∃ message ∈ s.sent, uses message = true

theorem answered_of_answers {prims : ProofPrimitives} {settings : Settings} {s : Impl}
    (answers : s.Answers prims settings) (sent : ∃ message ∈ s.sent, isOpen message = true) :
    s.Answered prims settings := by
  obtain ⟨message, mem, isOpen⟩ := sent
  obtain ⟨hello, world, value, known, accepted, made, rfl⟩ := answers message mem isOpen
  exact ⟨hello, world, value, known, accepted, made, mem⟩

/-- An `Open` was handed to the queue. -/
def Opened (s : Impl) : Prop := ∃ message ∈ s.sent, isOpen message = true

/-- What an authenticated client keeps to. -/
def Authentic (prims : ProofPrimitives) (settings : Settings) (s : Impl) : Prop :=
  (∀ hello, s.serverHello = some hello → (verifyServerHello prims settings hello).failed = false) ∧
    s.Answers prims settings ∧ (s.Used → s.Opened) ∧
    ∀ before, before <+: s.sent → (∃ message ∈ before, uses message = true) →
      ∃ message ∈ before, isOpen message = true

section

variable {prims : ProofPrimitives} {settings : Settings} {gate : Gate}

variable {s t : Impl}

variable {message : Message} {handler : SendHandler}

theorem Opened.append (opened : s.Opened) (sent : t.sent = s.sent ++ [message]) : t.Opened := by
  obtain ⟨open_, mem, isOpen⟩ := opened
  exact ⟨open_, sent ▸ mem_append_left _ mem, isOpen⟩

/-- A message besides an `Open` is handed over. -/
theorem Authentic.append (inv : s.Authentic prims settings) (other : isOpen message = false)
    (allowed : uses message = true → s.Opened) :
    (s.asyncSend message handler).Authentic prims settings := by
  obtain ⟨verified, answers, used, order⟩ := inv
  have opened : (s.asyncSend message handler).Used → s.Opened := by
    rintro (running | received | writes | written | ⟨use, mem, isUse⟩)
    · exact used (.inl running)
    · exact used (.inr (.inl received))
    · exact used (.inr (.inr (.inl writes)))
    · exact used (.inr (.inr (.inr (.inl written))))
    · rcases mem_append.mp mem with old | new
      · exact used (.inr (.inr (.inr (.inr ⟨use, old, isUse⟩))))
      · rw [mem_singleton.mp new] at isUse
        exact allowed isUse
  refine ⟨verified, ?_, fun here => (opened here).append rfl, ?_⟩
  · intro candidate mem isOpen
    rcases mem_append.mp mem with old | new
    · exact answers candidate old isOpen
    · rw [mem_singleton.mp new, other] at isOpen
      cases isOpen
  · intro before isPrefix uses
    rcases prefix_concat_iff.mp isPrefix with rfl | old
    · have here : (s.asyncSend message handler).Opened :=
        (opened (.inr (.inr (.inr (.inr uses))))).append rfl
      exact here
    · exact order before old uses

/-- An `Open` is handed over that answers the hello. -/
theorem Authentic.open_ {hello : ServerHello} {value : Open} {world : World}
    (verified : ∀ hello, s.serverHello = some hello →
      (verifyServerHello prims settings hello).failed = false) (answers : s.Answers prims settings)
    (order : ∀ before, before <+: s.sent → (∃ message ∈ before, uses message = true) →
      ∃ message ∈ before, isOpen message = true) (known : s.serverHello = some hello)
    (made : openMessage prims settings world (some hello) = .ok value) :
    (s.asyncSend (.open_ value) handler).Authentic prims settings := by
  have last : Message.open_ value ∈ s.sent ++ [.open_ value] :=
    mem_append_right _ (mem_singleton.mpr rfl)
  refine ⟨verified, ?_, fun _ => ⟨_, last, rfl⟩, ?_⟩
  · intro candidate mem isOpen
    rcases mem_append.mp mem with old | new
    · exact answers candidate old isOpen
    · exact ⟨hello, world, value, known, verified hello known, made, mem_singleton.mp new⟩
  · intro before isPrefix uses
    rcases prefix_concat_iff.mp isPrefix with rfl | old
    · exact ⟨_, last, rfl⟩
    · exact order before old uses

/-- Nothing is handed over, and what is used was used before. -/
theorem Authentic.keep (inv : s.Authentic prims settings) (hello : t.serverHello = s.serverHello)
    (sent : t.sent = s.sent) (used : t.Used → s.Opened) : t.Authentic prims settings := by
  obtain ⟨verified, answers, -, order⟩ := inv
  refine ⟨hello ▸ verified, ?_, fun here => ?_, sent ▸ order⟩
  · rw [Answers, hello, sent]
    exact answers
  · rw [Opened, sent]
    exact used here

/-- The same members are used, and the client is not running. -/
theorem Used.back (used : t.Used) (rest : ¬ t.Running) (received : t.received = s.received)
    (writes : t.writes = s.writes) (written : t.written = s.written) (sent : t.sent = s.sent) :
    s.Used := by
  rcases used with running | used
  · exact absurd running rest
  · rw [received, writes, written, sent] at used
    exact .inr used

end

end Impl

section

variable {prims : ProofPrimitives} {settings : Settings}

variable {s : Impl}

theorem Move.authentic {t : Impl} (expected : settings.expectedServerIdentity.isSome = true)
    (move : Move prims settings (openOrder settings) s t) (inv : s.Authentic prims settings) :
    t.Authentic prims settings := by
  cases move with
  | begin null | close errorCode code up why =>
    refine inv.keep rfl rfl fun used => inv.2.2.1 ?_
    exact used.back (by rintro (state | state) <;> cases state) rfl rfl rfl rfl
  | hello value reading connecting passes known accepted =>
    have unopened : ¬ s.Opened := fun ⟨message, mem, isOpen⟩ => by
      rw [passes expected message mem] at isOpen
      cases isOpen
    obtain ⟨-, -, used, order⟩ := inv
    refine ⟨fun hello same => ?_, fun message mem isOpen => ?_, used, order⟩
    · cases same
      exact accepted
    · exact absurd ⟨message, mem, isOpen⟩ unopened
  | answer hello value world reads bounded reading connecting passes known accepted made =>
    have unopened : ¬ s.Opened := fun ⟨message, mem, isOpen⟩ => by
      rw [passes expected message mem] at isOpen
      cases isOpen
    refine Impl.Authentic.open_ (fun other same => ?_) (fun message mem isOpen => ?_) inv.2.2.2 rfl
      made
    · cases same
      exact accepted
    · exact absurd ⟨message, mem, isOpen⟩ unopened
  | open_ value world connects handshakes reads spent bounded connecting answers made =>
    obtain ⟨hello, known⟩ := Option.isSome_iff_exists.mp (answers expected)
    rw [known] at made
    exact Impl.Authentic.open_ inv.1 inv.2.1 inv.2.2.2 known made
  | connect capabilities connecting passes => exact inv.keep rfl rfl fun _ => passes expected
  | announce handler up plain =>
    rename_i message
    cases message with
    | error errorCode | heartbeat | terminate => exact inv.append rfl nofun
    | _ => rcases plain with plain | plain <;> cases plain
  | type loop connected typed =>
    have opened := inv.2.2.1 (.inl (.inl connected))
    cases typed with
    | data | eos | terminalSize => exact inv.append rfl fun _ => opened
  | leave errorCode raised connected =>
    exact inv.keep rfl rfl fun _ => inv.2.2.1 (.inl (.inl connected))
  | exit state code reads moved reading running remote | deliver reads running passes bounded =>
    exact inv.keep rfl rfl fun _ => inv.2.2.1 (.inl running)
  | wrote count reads taken spent =>
    refine inv.keep rfl rfl fun _ => inv.2.2.1 (.inr (.inr (.inl ?_)))
    exact ne_nil_of_mem (mem_of_getElem? taken)
  | barrier cancelled =>
    obtain ⟨handler, completions, same⟩ := onQueueCancelled_frame
      { s with queueCancels := s.queueCancels - 1 }
    rw [same]
    exact inv
  | _ => exact inv

/-! ## A single `Open` -/

/-- At most one `Open` was sent, and from then on nothing connects. -/
def Impl.OpenedOnce (s : Impl) : Prop :=
  s.Driven ∧ s.sent.countP isOpen ≤ 1 ∧
    (s.Opened → s.state ≠ .null ∧ s.resolves + s.connects + s.handshakes = 0)

theorem countP_eq_zero_of_not_opened (unopened : ¬ s.Opened) : s.sent.countP isOpen = 0 := by
  rw [countP_eq_zero]
  intro message mem isOpen
  exact unopened ⟨message, mem, isOpen⟩

variable {message : Message} {handler : SendHandler}

theorem not_isOpen_of_typed (typed : Typed prims settings message) : isOpen message = false := by
  cases typed with
  | data | eos | terminalSize => rfl

/-- A message besides an `Open` changes nothing about those that were sent. -/
theorem Impl.OpenedOnce.append (driven : (s.asyncSend message handler).Driven) (inv : s.OpenedOnce)
    (other : isOpen message = false) : (s.asyncSend message handler).OpenedOnce := by
  refine ⟨driven, ?_, ?_⟩
  · rw [Impl.asyncSend, countP_append, countP_singleton, other]
    exact inv.2.1
  · rintro ⟨candidate, mem, isOpen⟩
    rcases mem_append.mp mem with old | new
    · exact inv.2.2 ⟨candidate, old, isOpen⟩
    · rw [mem_singleton.mp new, other] at isOpen
      cases isOpen

theorem Impl.OpenedOnce.first {value : Open} (driven : (s.asyncSend (.open_ value) handler).Driven)
    (unopened : ¬ s.Opened) (connecting : s.state = .connecting)
    (idle : s.resolves + s.connects + s.handshakes = 0) :
    (s.asyncSend (.open_ value) handler).OpenedOnce := by
  have begun : s.state ≠ .null := by
    rw [connecting]
    decide
  refine ⟨driven, ?_, fun _ => ⟨begun, idle⟩⟩
  rw [Impl.asyncSend, countP_append, countP_eq_zero_of_not_opened unopened]
  exact Nat.le_refl 1

theorem Move.openedOnce {t : Impl} (move : Move prims settings (openOrder settings) s t)
    (inv : s.OpenedOnce) : t.OpenedOnce := by
  have driven := move.driven inv.1
  have single : s.resolves + s.connects + s.handshakes + s.reads ≤ 1 :=
    (Nat.le_add_right _ _).trans inv.1.1
  cases move with
  | begin null => exact ⟨driven, inv.2.1, fun opened => absurd null (inv.2.2 opened).1⟩
  | hop resolves connects handshakes reads forward bounded =>
    refine ⟨driven, inv.2.1, fun opened => ⟨(inv.2.2 opened).1, ?_⟩⟩
    exact Nat.eq_zero_of_le_zero ((inv.2.2 opened).2 ▸ forward)
  | answer hello value world reads bounded reading connecting passes known accepted made =>
    refine .first driven (fun ⟨message, mem, isOpen⟩ => ?_) connecting ?_
    · rw [passes known message mem] at isOpen
      cases isOpen
    · change s.resolves + s.connects + s.handshakes = 0
      omega
  | open_ value world connects handshakes reads spent bounded connecting answers made =>
    refine .first driven (fun opened => ?_) connecting ?_
    · have none := (inv.2.2 opened).2
      omega
    · change s.resolves + connects + handshakes = 0
      omega
  | connect capabilities connecting passes | leave errorCode raised connected
  | close errorCode code up why =>
    exact ⟨driven, inv.2.1, fun opened => ⟨nofun, (inv.2.2 opened).2⟩⟩
  | announce handler up plain =>
    rename_i message
    refine inv.append driven ?_
    cases message with
    | open_ value => rcases plain with plain | plain <;> cases plain
    | _ => rfl
  | type loop connected typed => exact inv.append driven (not_isOpen_of_typed typed)
  | exit state code reads moved reading running remote =>
    refine ⟨driven, inv.2.1, fun opened => ⟨fun null => ?_, (inv.2.2 opened).2⟩⟩
    exact nomatch moved.symm.trans null
  | barrier cancelled =>
    obtain ⟨handler, completions, same⟩ := onQueueCancelled_frame
      { s with queueCancels := s.queueCancels - 1 }
    rw [same]
    exact inv
  | deliver reads running passes bounded | wrote count reads taken spent
  | exitAgain code reads reading remote => exact ⟨driven, inv.2⟩
  | _ => exact inv

namespace Impl

theorem not_opened_init : ¬ Opened {} := by
  rintro ⟨message, mem, -⟩
  cases mem

theorem not_used_init : ¬ Used {} := by
  rintro ((state | state) | received | writes | written | ⟨message, mem, -⟩)
  · cases state
  · cases state
  · exact received rfl
  · exact writes rfl
  · exact written rfl
  · cases mem

theorem authentic_init (prims : ProofPrimitives) (settings : Settings) :
    Authentic prims settings {} := by
  refine ⟨fun hello same => ?_, fun message mem => ?_, fun used => absurd used not_used_init, ?_⟩
  · cases same
  · cases mem
  · rintro before isPrefix ⟨message, mem, -⟩
    rw [prefix_nil.mp isPrefix] at mem
    cases mem

/-- In every run in which the peer keeps to `openOrder`: if the client has an expected identity,
it is connected or disconnecting, has read or written peer data or has sent local input or a
terminal size only after it accepted a hello and handed over an `Open` that answers it, and each
such message has an `Open` before it. And in any case at most one `Open` is handed over. -/
theorem authenticated_before_use (prims : ProofPrimitives) (settings : Settings) {s : Impl}
    (run : Run (Impl.step prims settings) (Passes (openOrder settings)) {} s) :
    (settings.expectedServerIdentity.isSome = true →
      (s.Used → s.Answered prims settings) ∧
      ∀ before message after, s.sent = before ++ message :: after → uses message = true →
        ∃ open_ ∈ before, isOpen open_ = true) ∧
    s.sent.countP isOpen ≤ 1 := by
  have once : s.OpenedOnce := move_invariant run
    ⟨driven_init, Nat.zero_le 1, fun opened => absurd opened not_opened_init⟩ Move.openedOnce
  refine ⟨fun expected => ?_, once.2.1⟩
  have inv : s.Authentic prims settings :=
    move_invariant run (authentic_init prims settings) (Move.authentic expected)
  refine ⟨fun used => answered_of_answers inv.2.1 (inv.2.2.1 used), ?_⟩
  intro before message after split isUse
  have isPrefix : before ++ [message] <+: s.sent := ⟨after, by rw [split, append_assoc]; rfl⟩
  obtain ⟨open_, mem, isOpen⟩ := inv.2.2.2 (before ++ [message]) isPrefix
    ⟨message, mem_append_right _ (mem_singleton.mpr rfl), isUse⟩
  rcases mem_append.mp mem with old | new
  · exact ⟨open_, old, isOpen⟩
  · rw [mem_singleton.mp new] at isOpen
    cases message with
    | open_ value => cases isUse
    | _ => cases isOpen

/-- A client that knows its server and is interactive. -/
def knownServer : Settings where
  expectedServerIdentity := some (Server.publicEndpointIdentity Server.sampleIdentity)
  protocolConfig := ⟨{ interactive := true }, [], [], none, none⟩

/-- The hello of the server, without the proof. -/
def unsignedHello : ServerHello where
  serverIdentity := some (Server.publicEndpointIdentity Server.sampleIdentity)
  sessionId := [8]

/-- The hello of the server. -/
def signedHello : ServerHello :=
  let digest := (hashWebttyServerProofTranscript Server.sampleProofPrims.sha256
    (serverProofTranscript knownServer unsignedHello
      (Server.publicEndpointIdentity Server.sampleIdentity)) .none).1
  { unsignedHello with serverProof := some ⟨.ecdsaP256Sha256, [2], digest, [6] ++ digest⟩ }

/-- The server says hello, acknowledges the `Open`, and a line is typed. -/
def greetedRun : List (Event × World) :=
  [(.run, {}), (.resolved .none, {}), (.connected .none, {}),
    (.received .none (some (.serverHello signedHello)), {}),
    (.received .none (some (.ack [])), {}), (.inputRead (.data [108, 115]), {})]

/-- The client at the end of the run. -/
def greetedClient : Impl :=
  (exec (Impl.step Server.sampleProofPrims knownServer) {} greetedRun).getD {}

set_option maxRecDepth 4000 in
/-- A peer that keeps the order is authenticated and gets the input. -/
theorem greetedClient_authenticated :
    greetedClient.state = .connected ∧ greetedClient.Answered Server.sampleProofPrims knownServer ∧
      greetedClient.sent.map uses = [false, true] ∧ greetedClient.sent.countP isOpen ≤ 1 := by
  have run : Run (Impl.step Server.sampleProofPrims knownServer) (Passes (openOrder knownServer)) {}
      greetedClient := .of_exec_getD greetedRun (by decide) (by decide)
  have connected : greetedClient.state = .connected := by decide
  obtain ⟨known, once⟩ := authenticated_before_use Server.sampleProofPrims knownServer run
  exact ⟨connected, (known rfl).1 (.inl (.inl connected)), by decide, once⟩

/-- The peer acknowledges at once, and a line is typed. -/
def ackFirstRun : List (Event × World) :=
  [(.run, {}), (.resolved .none, {}), (.connected .none, {}),
    (.received .none (some (.ack [])), {}), (.inputRead (.data [108, 115]), {})]

/-- The server says hello twice. -/
def twiceGreetedRun : List (Event × World) :=
  [(.run, {}), (.resolved .none, {}), (.connected .none, {}),
    (.received .none (some (.serverHello signedHello)), {}),
    (.received .none (some (.serverHello signedHello)), {})]

set_option maxRecDepth 4000 in
/-- A client that knows its server is connected and sends its input to a peer that only said `Ack`;
and it opens twice for a server that says hello twice. -/
theorem ackFirst_connects :
    (∃ s, Reaches (Impl.step Server.sampleProofPrims knownServer) {} s ∧ s.state = .connected ∧
      s.serverHello = none ∧ s.sent = [.data .stdIn (.data [108, 115])]) ∧
    ∃ s, Reaches (Impl.step Server.sampleProofPrims knownServer) {} s ∧
      s.sent.countP isOpen = 2 := by
  refine ⟨⟨_, .of_exec_getD ackFirstRun (by decide), ?_⟩,
    ⟨_, .of_exec_getD twiceGreetedRun (by decide), ?_⟩⟩
  · decide
  · decide

end Impl

end

end Rstream.Webtty.Client
