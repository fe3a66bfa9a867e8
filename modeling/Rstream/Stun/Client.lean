import Rstream.Stun.RoundTrip
import Rstream.Stun.Server

/-!
# The STUN client

A request is serialised and sent once, and then datagrams are received until one has its transaction
id. They are parsed and turned into text outside of a `try`, so what decides is the first datagram
that is no message with valid texts for another request: it answers, or an exception leaves the
handler and the request is never completed (`Task.request_decided`).

What the server sends is always such a message, whatever it has received, so over a network that
loses, repeats and reorders its datagrams no exception leaves the client, and the message it
completes with has the address that the server saw (`mappedAddress_learned`).
-/

namespace Rstream.Stun

open Library List

/-! ## A request -/

/-- An operation of the transport whose handler has not run. -/
inductive Transfer where
  | send (bytes : Bytes)
  | receive
  deriving DecidableEq

/-- `client_base::task`: with it, the datagrams that were received, what the completion handler was
invoked with, and what left a handler. -/
structure Task where
  request : Message
  transfers : List Transfer
  datagrams : List Bytes := []
  invoked : List (Except ErrorCode Message) := []
  escaped : List Fault := []

/-- `run`, with the configured `m_message_max_length`: what it throws, `async_request` throws. -/
def runTask (env : Surroundings) (maxLength : Nat) (request : Message) :
    Except Fault Task := do
  let size ← byteSizeLongMessage request
  require (size ≤ maxLength) (.thrown "STUN request is too long")
  let done ← serializeMessage env.digests env.memory request
  let _ ← messageToString env.texts request
  .ok { request, transfers := [.send (region done.1.bytes 0 size)] }

namespace Task

def start (task : Task) (transfer : Transfer) : Task :=
  { task with transfers := transfer :: task.transfers }

def finish (task : Task) (transfer : Transfer) : Task :=
  { task with transfers := task.transfers.erase transfer }

def complete (task : Task) (result : Except ErrorCode Message) : Task :=
  { task with invoked := task.invoked ++ [result] }

def onSendRequest (task : Task) : Option ErrorCode → Task
  | some error => task.complete (.error error)
  | none => task.start .receive

def onResponse (env : Surroundings) (task : Task) (response : Message) : Except Fault Task := do
  let _ ← messageToString env.texts response
  .ok (if response.header.transactionId = task.request.header.transactionId then
      task.complete (.ok response)
    else task.start .receive)

/-- The buffer with a datagram. -/
def buffer (maxLength : Nat) (datagram : Bytes) : Memory :=
  received datagram (maxLength - datagram.length) true

/-- `on_read_response`. A datagram may come from anyone. -/
def onReadResponse (env : Surroundings) (maxLength : Nat) (task : Task) (datagram : Bytes) :
    Except Fault Task := do
  let response ← parseMessage (buffer maxLength datagram)
  task.onResponse env response

/-- The task after a handler: an exception that leaves it leaves the task as it was. -/
def settle (task : Task) : Except Fault Task → Task
  | .ok after => after
  | .error fault => { task with escaped := task.escaped ++ [fault] }

/-- A datagram is in the buffer. -/
def arrived (task : Task) (datagram : Bytes) : Task :=
  { task.finish .receive with datagrams := task.datagrams ++ [datagram] }

/-- What happens to a task. -/
inductive Event where
  | sent (bytes : Bytes) (error : Option ErrorCode)
  | failed (error : ErrorCode)
  | received (datagram : Bytes)

def step (env : Surroundings) (maxLength : Nat) (task : Task) : Event → Option Task
  | .sent bytes error =>
    if .send bytes ∈ task.transfers then
      some ((task.finish (.send bytes)).onSendRequest error)
    else none
  | .failed error =>
    if .receive ∈ task.transfers then some ((task.finish .receive).complete (.error error))
    else none
  | .received datagram =>
    if .receive ∈ task.transfers ∧ datagram.length ≤ maxLength then
      some ((task.arrived datagram).settle
        ((task.arrived datagram).onReadResponse env maxLength datagram))
    else none

/-! ## What decides a request -/

/-- A datagram is a message with valid texts. -/
def Reads (maxLength : Nat) (datagram : Bytes) (message : Message) : Prop :=
  parseMessage (buffer maxLength datagram) = .ok message ∧ message.Printable

/-- A datagram is a message with valid texts for another request. -/
def Foreign (maxLength : Nat) (request : Message) (datagram : Bytes) : Prop :=
  ∃ message, Reads maxLength datagram message ∧
    message.header.transactionId ≠ request.header.transactionId

/-- What became of a request. -/
inductive Decided (maxLength : Nat) (task : Task) : Prop where
  /-- The request is being sent. -/
  | sending (bytes : Bytes) (only : task.transfers = [.send bytes]) (unread : task.datagrams = [])
      (uninvoked : task.invoked = []) (quiet : task.escaped = [])
  /-- A datagram is received, and none that came decides. -/
  | receiving (only : task.transfers = [.receive])
      (foreign : ∀ datagram ∈ task.datagrams, Foreign maxLength task.request datagram)
      (uninvoked : task.invoked = []) (quiet : task.escaped = [])
  /-- The transport failed before a datagram decided. -/
  | failed (error : ErrorCode) (idle : task.transfers = [])
      (foreign : ∀ datagram ∈ task.datagrams, Foreign maxLength task.request datagram)
      (once : task.invoked = [.error error]) (quiet : task.escaped = [])
  /-- The last datagram answers the request. -/
  | answered (earlier : List Bytes) (datagram : Bytes) (response : Message)
      (idle : task.transfers = []) (came : task.datagrams = earlier ++ [datagram])
      (foreign : ∀ datagram ∈ earlier, Foreign maxLength task.request datagram)
      (reads : Reads maxLength datagram response)
      (own : response.header.transactionId = task.request.header.transactionId)
      (once : task.invoked = [.ok response]) (quiet : task.escaped = [])
  /-- The last datagram is no message with valid texts, and the request is never completed. -/
  | thrown (earlier : List Bytes) (datagram : Bytes) (fault : Fault)
      (idle : task.transfers = []) (came : task.datagrams = earlier ++ [datagram])
      (foreign : ∀ datagram ∈ earlier, Foreign maxLength task.request datagram)
      (unread : ∀ message, ¬Reads maxLength datagram message)
      (uninvoked : task.invoked = []) (escaped : task.escaped = [fault])

section Decided

variable {env : Surroundings} {maxLength : Nat} {request : Message} {task : Task}

/-- What the handler of a datagram does. -/
theorem onReadResponse_cases (env : Surroundings) (maxLength : Nat) (task : Task)
    (datagram : Bytes) :
    (∃ fault, task.onReadResponse env maxLength datagram = .error fault ∧
      ∀ message, ¬Reads maxLength datagram message) ∨
    ∃ message, Reads maxLength datagram message ∧
      task.onReadResponse env maxLength datagram =
        .ok (if message.header.transactionId = task.request.header.transactionId then
            task.complete (.ok message)
          else task.start .receive) := by
  have exactly : (buffer maxLength datagram).size =
    (buffer maxLength datagram).string.length := rfl
  cases parsed : parseMessage (buffer maxLength datagram) with
  | error fault =>
    refine .inl ⟨fault, ?_, fun message reads => ?_⟩
    · rw [onReadResponse, parsed, error_bind]
    · rw [reads.1] at parsed
      cases parsed
  | ok message =>
    have printable := messageToString_parsed env exactly parsed
    cases printed : messageToString env.texts message with
    | error fault =>
      refine .inl ⟨fault, ?_, fun other reads => ?_⟩
      · rw [onReadResponse, parsed, ok_bind, onResponse, printed, error_bind]
      · have same : message = other := Except.ok.inj (parsed.symm.trans reads.1)
        obtain ⟨text, made⟩ := printable.mpr (same ▸ reads.2)
        rw [made] at printed
        cases printed
    | ok text =>
      refine .inr ⟨message, ⟨parsed, printable.mp ⟨text, printed⟩⟩, ?_⟩
      rw [onReadResponse, parsed, ok_bind, onResponse, printed, ok_bind]

theorem Decided.of_runTask (started : runTask env maxLength request = .ok task) :
    task.request = request ∧ task.datagrams = [] ∧ Decided maxLength task := by
  obtain ⟨size, -, started⟩ := bind_eq_ok.mp started
  obtain ⟨_, -, started⟩ := bind_eq_ok.mp started
  obtain ⟨done, -, started⟩ := bind_eq_ok.mp started
  obtain ⟨text, -, started⟩ := bind_eq_ok.mp started
  cases started
  exact ⟨rfl, rfl, .sending _ rfl rfl rfl rfl⟩

theorem step_of_idle (idle : task.transfers = []) (event : Event) :
    task.step env maxLength event = none := by
  cases event <;> simp [step, idle]

theorem transfers_start (idle : task.transfers = []) (transfer : Transfer) :
    (task.start transfer).transfers = [transfer] := by
  rw [start, idle]

theorem invoked_complete (uninvoked : task.invoked = []) (result : Except ErrorCode Message) :
    (task.complete result).invoked = [result] := by
  rw [complete, uninvoked, nil_append]

theorem transfers_finish {transfer : Transfer} (only : task.transfers = [transfer]) :
    (task.finish transfer).transfers = [] := by
  rw [finish, only, erase_cons_head]

theorem Decided.onReadResponse (only : task.transfers = [.receive])
    (foreign : ∀ datagram ∈ task.datagrams, Foreign maxLength task.request datagram)
    (uninvoked : task.invoked = []) (quiet : task.escaped = []) (env : Surroundings)
    (datagram : Bytes) {after : Task} (handled : after = (task.arrived datagram).settle
      ((task.arrived datagram).onReadResponse env maxLength datagram)) :
    after.request = task.request ∧ Decided maxLength after := by
  subst handled
  have idle : (task.arrived datagram).transfers = [] := transfers_finish only
  rcases onReadResponse_cases env maxLength (task.arrived datagram) datagram with
    ⟨fault, thrown, unread⟩ | ⟨message, reads, done⟩
  · rw [thrown]
    exact ⟨rfl, .thrown task.datagrams datagram fault idle rfl foreign unread uninvoked
      (congrArg (· ++ [fault]) quiet)⟩
  · rw [done, settle]
    split
    · rename_i own
      exact ⟨rfl, .answered task.datagrams datagram message idle rfl foreign reads own
        (invoked_complete uninvoked _) quiet⟩
    · rename_i other
      refine ⟨rfl, .receiving (transfers_start idle _) (fun later mem => ?_) uninvoked quiet⟩
      obtain mem | mem := mem_append.mp mem
      · exact foreign later mem
      · obtain rfl := mem_singleton.mp mem
        exact ⟨message, reads, other⟩

/-- A handler keeps the request and decides once what became of it. -/
theorem Decided.step (decided : Decided maxLength task) {event : Event} {after : Task}
    (stepped : task.step env maxLength event = some after) :
    after.request = task.request ∧ Decided maxLength after := by
  cases decided with
  | sending bytes only unread uninvoked quiet =>
    cases event with
    | sent bytes' error =>
      obtain ⟨pending, same⟩ := Option.ite_none_right_eq_some.mp stepped
      rw [only, mem_singleton] at pending
      cases pending
      cases same
      have foreign : ∀ datagram ∈ task.datagrams,
          Foreign maxLength task.request datagram := by
        rw [unread]
        exact nofun
      cases error with
      | some error =>
        exact ⟨rfl, .failed error (transfers_finish only) foreign (invoked_complete uninvoked _)
          quiet⟩
      | none =>
        exact ⟨rfl, .receiving (transfers_start (transfers_finish only) _) foreign uninvoked quiet⟩
    | failed error | received datagram => simp [Task.step, only] at stepped
  | receiving only foreign uninvoked quiet =>
    cases event with
    | sent bytes error => simp [Task.step, only] at stepped
    | failed error =>
      obtain ⟨-, same⟩ := Option.ite_none_right_eq_some.mp stepped
      cases same
      exact ⟨rfl, .failed error (transfers_finish only) foreign (invoked_complete uninvoked _)
        quiet⟩
    | received datagram =>
      obtain ⟨-, same⟩ := Option.ite_none_right_eq_some.mp stepped
      cases same
      exact Decided.onReadResponse only foreign uninvoked quiet env datagram rfl
  | failed _ idle | answered _ _ _ idle | thrown _ _ _ idle =>
    rw [step_of_idle idle] at stepped
    cases stepped

theorem decided_of_run {started : Task} (run : runTask env maxLength request = .ok started)
    (steps : Reaches (Task.step env maxLength) started task) :
    task.request = request ∧ Decided maxLength task := by
  obtain ⟨own, -, start⟩ := Decided.of_runTask run
  refine steps.invariant (p := fun task => task.request = request ∧ Decided maxLength task)
    ⟨own, start⟩ fun before event after kept _ stepped => ?_
  obtain ⟨same, decided⟩ := kept.2.step stepped
  exact ⟨same.trans kept.1, decided⟩

/-- **A request is decided by the first datagram that is no message for another request**, and
decided once. -/
theorem request_decided {started : Task} (run : runTask env maxLength request = .ok started)
    (steps : Reaches (Task.step env maxLength) started task) :
    task.request = request ∧ Decided maxLength task ∧
      task.transfers.length + task.invoked.length + task.escaped.length = 1 := by
  obtain ⟨same, decided⟩ := decided_of_run run steps
  refine ⟨same, decided, ?_⟩
  cases decided with
  | sending _ only _ uninvoked quiet | receiving only _ uninvoked quiet =>
    rw [only, uninvoked, quiet]
    rfl
  | failed _ idle _ once quiet | answered _ _ _ idle _ _ _ _ once quiet =>
    rw [idle, once, quiet]
    rfl
  | thrown _ _ _ idle _ _ _ uninvoked escaped =>
    rw [idle, uninvoked, escaped]
    rfl

end Decided

end Task

/-! ## What the server answers -/

/-- Bytes that the server sends to an endpoint that asked. -/
def IsAnswer (env : Surroundings) (dst : Endpoint) (bytes : Bytes) : Prop :=
  ∃ transactionId out, sendMessage env.digests env.memory (encodeMsgType .responseSuccess .binding)
    transactionId (responseValues env dst) = .ok (out, bytes)

/-- What the server is sending are answers. -/
def Answering (env : Surroundings) (server : Server) : Prop :=
  ∀ bytes dst, .send bytes dst ∈ server.operations → IsAnswer env dst bytes

section Answering

variable {env : Surroundings} {config : Config} {server after : Server} {src : Endpoint}

theorem Answering.start_receive (answering : Answering env server) :
    Answering env (server.start .receive) := by
  intro bytes dst mem
  obtain other | mem := mem_cons.mp mem
  · cases other
  · exact answering bytes dst mem

theorem Answering.finish (answering : Answering env server) (operation : Operation) :
    Answering env (server.finish operation) :=
  fun bytes dst mem => answering bytes dst (mem_of_mem_erase mem)

theorem Answering.doClose (answering : Answering env server) (cause : Option ErrorCode) :
    Answering env (server.doClose cause) := by
  unfold Server.doClose
  split
  · exact answering
  · exact answering

theorem Answering.onError (answering : Answering env server) (cause : Option ErrorCode) :
    Answering env (server.onError cause) := by
  cases cause with
  | none => exact answering
  | some cause => exact answering.doClose (some cause)

theorem guarded_ok {α : Type} {attempt : Except Fault α} {value : α}
    (caught : guarded attempt = .ok (some value)) : attempt = .ok value := by
  unfold guarded at caught
  split at caught
  · cases caught
    rfl
  · cases caught
  · cases caught

theorem Answering.processStunBindingRequest (answering : Answering env server) {message : Message}
    (done : server.processStunBindingRequest env src message = .ok after) :
    Answering env after := by
  obtain ⟨first, mapped, done⟩ := bind_eq_ok.mp done
  obtain ⟨second, software, done⟩ := bind_eq_ok.mp done
  obtain ⟨third, fingerprint, done⟩ := bind_eq_ok.mp done
  obtain ⟨response, caught, done⟩ := bind_eq_ok.mp done
  cases response with
  | none =>
    cases done
    exact answering.start_receive
  | some response =>
    obtain ⟨size, sized, done⟩ := bind_eq_ok.mp done
    obtain ⟨written, serialized, done⟩ := bind_eq_ok.mp done
    obtain ⟨text, -, done⟩ := bind_eq_ok.mp done
    cases done
    intro bytes dst mem
    obtain same | mem := mem_cons.mp mem
    · cases same
      refine ⟨message.header.transactionId, written.1, ?_⟩
      simp only [sendMessage, buildMessage, responseValues, foldlM_cons, foldlM_nil, mapped,
        software, fingerprint, ok_bind, pure_bind, guarded_ok caught, sized, serialized]
    · exact answering bytes dst mem

theorem Answering.onStunMessage (answering : Answering env server) {message : Message}
    (done : server.onStunMessage env src message = .ok after) : Answering env after := by
  obtain ⟨text, -, done⟩ := bind_eq_ok.mp done
  obtain ⟨stunClass, -, done⟩ := bind_eq_ok.mp done
  cases stunClass with
  | request =>
    obtain ⟨stunMethod, -, done⟩ := bind_eq_ok.mp done
    cases stunMethod
    exact answering.processStunBindingRequest done
  | indication | responseSuccess | responseError =>
    cases done
    exact answering.start_receive

theorem Answering.onMessage (answering : Answering env server) (error : Option ErrorCode)
    (datagram : Bytes) :
    Answering env (server.settle (server.onMessage env config error datagram src)) := by
  cases handled : server.onMessage env config error datagram src with
  | error fault => exact answering
  | ok after =>
    show Answering env after
    unfold Server.onMessage at handled
    split at handled
    · cases handled
      exact answering
    · cases error with
      | some error =>
        cases handled
        exact answering.onError (some error)
      | none =>
        rcases onDatagram_cases env config server src datagram with
          ⟨-, left⟩ | ⟨message, -, processed⟩
        · rw [left] at handled
          cases handled
          exact answering.start_receive
        · exact answering.onStunMessage (processed.symm.trans handled)

/-- A handler of the server sends nothing but answers, whatever it receives. -/
theorem Answering.step (answering : Answering env server) {event : Event}
    (stepped : server.step env config event = some after) : Answering env after := by
  cases event with
  | asyncRun hasHandler =>
    cases stepped
    unfold Server.asyncRunInternal
    split
    · exact answering
    · intro bytes dst mem
      obtain other | mem := mem_cons.mp mem
      · cases other
      · exact answering bytes dst mem
  | cancel =>
    cases stepped
    exact answering.doClose none
  | resolved error results configured =>
    obtain ⟨-, same⟩ := Option.ite_none_right_eq_some.mp stepped
    cases same
    have finished := answering.finish .resolve
    unfold Server.onDoResolveHost
    split
    · exact finished
    · split
      · exact finished.onError _
      · split
        · exact finished.onError _
        · cases configured with
          | some error => exact finished.onError (some error)
          | none => exact finished.start_receive
  | message error datagram src =>
    obtain ⟨-, same⟩ := Option.ite_none_right_eq_some.mp stepped
    cases same
    exact (answering.finish .receive).onMessage error datagram
  | sent bytes dst error =>
    obtain ⟨-, same⟩ := Option.ite_none_right_eq_some.mp stepped
    cases same
    have finished := answering.finish (.send bytes dst)
    cases error with
    | some error => exact finished.onError (some error)
    | none => exact finished.start_receive

theorem answering_of_reaches (reached : Reaches (Server.step env config) {} server) :
    Answering env server :=
  reached.invariant (fun _ _ mem => (nomatch mem)) fun _ _ _ answering _ stepped =>
    answering.step stepped

end Answering

/-! ## What the client receives -/

theorem validUtf8_of_got {attributes : List Attribute} {got : List AttributeValue}
    (reads : List.Forall₂ (fun attr value => attr.header.type = getAttributeMsgType value.kind ∧
      attr.get value.kind = .ok value) attributes got)
    (valid : ∀ value ∈ got, ∀ text ∈ valueTexts value, validUtf8 text = true) :
    ∀ attr ∈ attributes, ∀ text ∈ attributeTexts attr, validUtf8 text = true := by
  induction reads with
  | nil => exact nofun
  | cons read _ ih =>
    rw [forall_mem_cons] at valid ⊢
    refine ⟨fun text among => ?_, ih valid.2⟩
    rw [attributeTexts, read.1, getAttributeType_getAttributeMsgType] at among
    simp only [read.2] at among
    exact valid.1 text among

section Received

variable {env : Surroundings} {dst : Endpoint} {bytes : Bytes}

/-- What the client reads in an answer of the server. -/
structure Learned (env : Surroundings) (dst : Endpoint) (message : Message) : Prop where
  type : message.header.type = encodeMsgType .responseSuccess .binding
  address : (getAttribute message (getAttributeMsgType .xorMappedAddress) >>= fun attr =>
    attr.get .xorMappedAddress) = .ok (.xorMappedAddress (mappedAddressOf env dst))

/-- An answer that fits in the buffer is a message with valid texts and the address of its
endpoint. -/
theorem IsAnswer.reads (answer : IsAnswer env dst bytes) {maxLength : Nat}
    (room : 20 + blocks (responseValues env dst) ≤ maxLength) :
    bytes.length ≤ maxLength ∧
      ∃ message, Task.Reads maxLength bytes message ∧ Learned env dst message := by
  obtain ⟨transactionId, out, sent⟩ := answer
  obtain ⟨small, rfl, written⟩ := sendMessage_ok sent
  have fits : (region out.bytes 0 (20 + blocks (responseValues env dst))).length ≤
      maxLength := by
    rw [length_region]
    exact room
  have parsed := parseMessage_written written ⟨.responseSuccess, .binding, rfl⟩ rfl
    (toNat_payloadLength _ transactionId small)
    (maxLength - (region out.bytes 0 (20 + blocks (responseValues env dst))).length) true
  have gettable : ∀ value ∈ responseValues env dst, Gettable value := by
    intro value mem
    simp only [responseValues, mem_cons, not_mem_nil, or_false] at mem
    rcases mem with rfl | rfl | rfl <;> trivial
  have capacity : 20 + blocks (responseValues env dst) ≤ (Task.buffer maxLength
      (region out.bytes 0 (20 + blocks (responseValues env dst)))).capacity := by
    rw [Task.buffer, received, length_region]
    exact Nat.le_add_right ..
  have holds : (Task.buffer maxLength
      (region out.bytes 0 (20 + blocks (responseValues env dst)))).string =
    region out.bytes 0 (20 + blocks (responseValues env dst)) := rfl
  have got := get_readBacks holds capacity (by omega) (Nat.le_refl 20) (by decide) rfl small gettable
    written.placed
  refine ⟨fits, _, ⟨parsed, validUtf8_of_got got ?_⟩, rfl, ?_⟩
  · intro value mem text among
    simp only [responseValues, readBacks, readBack, mem_cons, not_mem_nil, or_false] at mem
    rcases mem with rfl | rfl | rfl
    · cases among
    · obtain rfl := mem_singleton.mp among
      decide
    · cases among
  · obtain ⟨head, -⟩ := forall₂_cons.mp got
    exact head.2

end Received

/-! ## What the client learns -/

namespace Task

/-- The client receives only what a server has sent to it, cut to its buffer: late, in another order,
more than once or never. The server may have received anything from anyone. -/
def Genuine (env : Surroundings) (config : Config) (maxLength : Nat) (dst : Endpoint) (_ : Task) :
    Event → Prop
  | .received datagram => ∃ server bytes, Reaches (Server.step env config) {} server ∧
    .send bytes dst ∈ server.operations ∧ datagram = bytes.take maxLength
  | _ => True

theorem mem_datagrams_of_step {env : Surroundings} {maxLength : Nat} {task next : Task}
    {event : Event} {datagram : Bytes} (stepped : task.step env maxLength event = some next)
    (mem : datagram ∈ next.datagrams) :
    datagram ∈ task.datagrams ∨ event = .received datagram := by
  cases event with
  | sent bytes error =>
    obtain ⟨-, same⟩ := Option.ite_none_right_eq_some.mp stepped
    cases same
    cases error <;> exact .inl mem
  | failed error =>
    obtain ⟨-, same⟩ := Option.ite_none_right_eq_some.mp stepped
    cases same
    exact .inl mem
  | received came =>
    obtain ⟨-, same⟩ := Option.ite_none_right_eq_some.mp stepped
    cases same
    have kept : datagram ∈ task.datagrams ++ [came] := by
      rcases onReadResponse_cases env maxLength (task.arrived came) came with
        ⟨fault, thrown, -⟩ | ⟨message, -, done⟩
      · rw [thrown] at mem
        exact mem
      · rw [done, settle] at mem
        split at mem <;> exact mem
    obtain mem | mem := mem_append.mp kept
    · exact .inl mem
    · exact .inr (congrArg Event.received (mem_singleton.mp mem).symm)

end Task

/-- **A client that completes has learned its own address** when all that reaches it was sent to it
by the server, and nothing leaves its handlers. -/
theorem mappedAddress_learned {env clientEnv : Surroundings} {config : Config} {maxLength : Nat}
    {dst : Endpoint} {request : Message} {started task : Task}
    (room : 20 + blocks (responseValues env dst) ≤ maxLength)
    (runs : runTask clientEnv maxLength request = .ok started)
    (run : Run (Task.step clientEnv maxLength) (Task.Genuine env config maxLength dst) started task) :
    task.escaped = [] ∧ task.invoked.length ≤ 1 ∧
      ∀ response, .ok response ∈ task.invoked →
        response.header.transactionId = request.header.transactionId ∧
          Learned env dst response := by
  obtain ⟨own, unread, -⟩ := Task.Decided.of_runTask runs
  obtain ⟨same, decided⟩ := Task.decided_of_run runs run.reaches
  have learned : ∀ datagram ∈ task.datagrams,
      ∃ message, Task.Reads maxLength datagram message ∧ Learned env dst message := by
    refine run.invariant (p := fun task => ∀ datagram ∈ task.datagrams,
      ∃ message, Task.Reads maxLength datagram message ∧ Learned env dst message) ?_
      fun before event after kept genuine stepped datagram mem => ?_
    · rw [unread]
      exact nofun
    · obtain mem | rfl := Task.mem_datagrams_of_step stepped mem
      · exact kept datagram mem
      · obtain ⟨server, bytes, reached, sending, rfl⟩ := genuine
        obtain ⟨fits, read⟩ := (answering_of_reaches reached bytes dst sending).reads room
        rwa [take_of_length_le fits]
  have last {earlier : List Bytes} {datagram : Bytes}
      (came : task.datagrams = earlier ++ [datagram]) : datagram ∈ task.datagrams := by
    rw [came]
    exact mem_append_right _ (mem_singleton_self datagram)
  cases decided with
  | sending _ _ _ uninvoked quiet | receiving _ _ uninvoked quiet =>
    rw [uninvoked]
    exact ⟨quiet, Nat.zero_le 1, nofun⟩
  | failed error _ _ once quiet =>
    rw [once]
    refine ⟨quiet, Nat.le_refl 1, fun response mem => ?_⟩
    cases mem_singleton.mp mem
  | answered earlier datagram response _ came _ reads ownId once quiet =>
    rw [once]
    refine ⟨quiet, Nat.le_refl 1, fun other mem => ?_⟩
    cases mem_singleton.mp mem
    obtain ⟨message, read, address⟩ := learned datagram (last came)
    have only : response = message := Except.ok.inj (reads.1.symm.trans read.1)
    rw [same] at ownId
    exact ⟨ownId, only ▸ address⟩
  | thrown earlier datagram fault _ came _ unread =>
    obtain ⟨message, read, -⟩ := learned datagram (last came)
    exact absurd read (unread message)

/-! ## A run of both -/

def bindingRequest : Message :=
  builtMessage (encodeMsgType .request .binding) ⟨replicate 12 7, rfl⟩ []

def requestBytes : Bytes :=
  [0x00, 0x01, 0x00, 0x00, 0x21, 0x12, 0xA4, 0x42] ++ replicate 12 7

def requestingTask : Task where
  request := bindingRequest
  transfers := [.send requestBytes]

theorem runTask_bindingRequest :
    runTask exampleSurroundings 500 bindingRequest = .ok requestingTask := rfl

theorem request_decided_invalidRequest :
    Task.Decided 500 ((exec (Task.step exampleSurroundings 500) requestingTask
      [.sent requestBytes none, .received invalidRequest]).getD requestingTask) :=
  (Task.request_decided runTask_bindingRequest (.of_exec_getD _ rfl)).2.1

/-- The server that has received the request. -/
def answeringServer : Server :=
  (exec (Server.step exampleSurroundings exampleConfig) {} [.asyncRun true,
    .resolved none [exampleEndpoint] none, .message none requestBytes exampleEndpoint]).getD {}

/-- What it is sending. -/
def answerBytes : Bytes :=
  (answeringServer.operations.findSome? fun operation =>
    match operation with
    | .send bytes _ => some bytes
    | _ => none).getD []

def waitingTask : Task := (requestingTask.finish (.send requestBytes)).onSendRequest none

def learnedTask : Task :=
  (waitingTask.step exampleSurroundings 500 (.received answerBytes)).getD waitingTask

theorem run_learnedTask : Run (Task.step exampleSurroundings 500)
    (Task.Genuine exampleSurroundings exampleConfig 500 exampleEndpoint) requestingTask
    learnedTask := by
  have sent : .send answerBytes exampleEndpoint ∈ answeringServer.operations := by decide
  have genuine : Task.Genuine exampleSurroundings exampleConfig 500 exampleEndpoint waitingTask
      (.received answerBytes) :=
    ⟨answeringServer, answerBytes, .of_exec_getD _ rfl, sent, rfl⟩
  have waiting : Run (Task.step exampleSurroundings 500)
      (Task.Genuine exampleSurroundings exampleConfig 500 exampleEndpoint) requestingTask
      waitingTask :=
    Run.refl.tail (show Task.Genuine exampleSurroundings exampleConfig 500 exampleEndpoint
      requestingTask (.sent requestBytes none) from trivial) rfl
  exact waiting.tail genuine rfl

theorem mappedAddress_learned_answer :
    learnedTask.invoked.length ≤ 1 ∧ ∀ response, .ok response ∈ learnedTask.invoked →
      response.header.transactionId = bindingRequest.header.transactionId ∧
        Learned exampleSurroundings exampleEndpoint response :=
  (mappedAddress_learned (by decide) runTask_bindingRequest run_learnedTask).2

example : learnedTask.invoked.length = 1 := by decide +kernel

end Rstream.Stun
