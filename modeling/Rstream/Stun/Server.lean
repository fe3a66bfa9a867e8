import Rstream.Library.Runs
import Rstream.Stun.Exchange
import Rstream.Stun.ToString

/-!
# The STUN server

The server resolves its host, opens a socket and then has one operation on it at a time: it receives
a datagram, answers a binding request and receives again. Each handler runs in a strand, one after
the other, and starts the next operation before it returns.

A message that was received is turned into text for the log before it is processed, and nothing
catches what that throws, so the handler ends without a next operation when a text in the message is
not valid UTF-8. Along the runs whose messages have valid texts there is always one operation
(`server_survives`).
-/

namespace Rstream.Stun

open Library List

/-! ## The server -/

/-- `boost::asio::ip::address`. -/
@[ext] structure IpAddress where
  family : StunAddressFamily
  address : Bytes
  fits : address.length = family.addressLength

instance : DecidableEq IpAddress := fun _ _ => decidable_of_iff _ IpAddress.ext_iff.symm

structure Endpoint where
  address : IpAddress
  port : UInt16
  deriving DecidableEq

/-- `boost::system::error_code`, where it is an error. -/
inductive ErrorCode where
  | invalidState
  | noValidEndpoint
  | other (value : Int)
  deriving DecidableEq

/-- `server::impl::state`. -/
inductive ServerState where
  | null
  | running
  | stopped
  deriving DecidableEq, Repr

/-- An operation whose handler has not run. -/
inductive Operation where
  | resolve
  | receive
  | send (bytes : Bytes) (dst : Endpoint)
  deriving DecidableEq

/-- `server::impl`: with it, what completion handlers were invoked with, and what left a handler. -/
structure Server where
  state : ServerState := .null
  operations : List Operation := []
  hasHandler : Bool := false
  invoked : List (Option ErrorCode) := []
  escaped : List Fault := []

/-- The configuration and the settings. -/
structure Config where
  mtu : Nat
  inet4 : Bool
  inet6 : Bool

/-- What is not part of the server: the digests and texts, the padding of an address that is not set,
and the memory that a message is serialised to. -/
structure Surroundings where
  digests : Digests
  texts : Texts
  padding : UInt8
  memory : Nat → UInt8

def Server.doClose (server : Server) (cause : Option ErrorCode) : Server :=
  if server.state ≠ .running then server
  else { server with
    state := .stopped
    hasHandler := false
    invoked := if server.hasHandler then server.invoked ++ [cause] else server.invoked }

def Server.onError (server : Server) : Option ErrorCode → Server
  | none => server
  | some cause => server.doClose (some cause)

/-- An operation is started. -/
def Server.start (server : Server) (operation : Operation) : Server :=
  { server with operations := operation :: server.operations }

/-- An operation has ended. -/
def Server.finish (server : Server) (operation : Operation) : Server :=
  { server with operations := server.operations.erase operation }

def Server.doReadStunMessage (server : Server) : Server := server.start .receive

def Server.asyncRunInternal (server : Server) (hasHandler : Bool) : Server :=
  if server.state ≠ .null then
    { server with
      invoked := if hasHandler then server.invoked ++ [some .invalidState] else server.invoked }
  else { server with state := .running, hasHandler }.start .resolve

/-- The loop over the results of `on_do_resolve_host`. -/
def Config.findEndpoint (config : Config) (results : List Endpoint) : Option Endpoint :=
  results.find? fun endpoint =>
    ¬(config.inet4 ∧ endpoint.address.family = .ipv6) ∧
      ¬(config.inet6 ∧ endpoint.address.family = .ipv4)

/-- `do_configure_socket`, by the first error of its calls. -/
def Server.doConfigureSocket (server : Server) : Option ErrorCode → Server
  | some error => server.onError (some error)
  | none => server.doReadStunMessage

def Server.onDoResolveHost (config : Config) (server : Server) (error : Option ErrorCode)
    (results : List Endpoint) (configured : Option ErrorCode) : Server :=
  if server.state ≠ .running then server
  else match error with
    | some error => server.onError (some error)
    | none =>
      match config.findEndpoint results with
      | none => server.onError (some .noValidEndpoint)
      | some _ => server.doConfigureSocket configured

/-! ## Messages -/

/-- The address that is mapped: that in an IPv4-mapped one. -/
def IpAddress.unmapped (address : IpAddress) : IpAddress :=
  if mapped : address.family = .ipv6 ∧
      address.address.take 12 = List.replicate 10 0x00 ++ [0xFF, 0xFF] then
    { family := .ipv4
      address := address.address.drop 12
      fits := by
        rw [List.length_drop, address.fits, mapped.1]
        rfl }
  else address

/-- `attribute_value_xor_mapped_address` of an endpoint. -/
def mappedAddressOf (env : Surroundings) (src : Endpoint) : MappedAddress where
  padding := env.padding
  family := src.address.unmapped.family
  port := src.port
  address := src.address.unmapped.address
  fits := src.address.unmapped.fits

/-- What `add_software` adds. -/
def softwareText : Bytes := "rstream STUN client".toList.map fun char => UInt8.ofNat char.toNat

def Server.sendStunMessage (env : Surroundings) (server : Server) (dst : Endpoint)
    (message : Message) : Except Fault Server := do
  let size ← byteSizeLongMessage message
  let done ← serializeMessage env.digests env.memory message
  let _ ← messageToString env.texts message
  .ok (server.start (.send (region done.1.bytes 0 size) dst))

def Server.processStunBindingRequest (env : Surroundings) (server : Server) (src : Endpoint)
    (message : Message) : Except Fault Server := do
  let builder := messageBuilder (encodeMsgType .responseSuccess .binding)
    message.header.transactionId
  let builder ← addAttribute builder (.xorMappedAddress (mappedAddressOf env src))
  let builder ← addAttribute builder (.software softwareText)
  let builder ← addAttribute builder (.fingerprint none)
  let response ← guarded (build builder)
  match response with
  | none => .ok server.doReadStunMessage
  | some response => server.sendStunMessage env src response

def Server.processStunMessage (env : Surroundings) (server : Server) (src : Endpoint)
    (message : Message) : Except Fault Server := do
  let stunClass ← parseStunClass message.header.type
  match stunClass with
  | .request => do
      let stunMethod ← parseStunMethod message.header.type
      match stunMethod with
      | .binding => server.processStunBindingRequest env src message
  | _ => .ok server.doReadStunMessage

/-- `on_stun_message`: the text of the message is made whether it is logged or not. -/
def Server.onStunMessage (env : Surroundings) (server : Server) (src : Endpoint)
    (message : Message) : Except Fault Server := do
  let _ ← messageToString env.texts message
  server.processStunMessage env src message

/-- The buffer with a datagram. -/
def Config.buffer (config : Config) (datagram : Bytes) : Memory :=
  received datagram (config.mtu - datagram.length) true

/-- A datagram that was received without an error. -/
def Server.onDatagram (env : Surroundings) (config : Config) (server : Server) (datagram : Bytes)
    (src : Endpoint) : Except Fault Server := do
  let header ← guarded (parseHeader (config.buffer datagram))
  match header with
  | none => .ok server.doReadStunMessage
  | some _ => do
      let message ← guarded (parseMessage (config.buffer datagram))
      match message with
      | none => .ok server.doReadStunMessage
      | some message => server.onStunMessage env src message

def Server.onMessage (env : Surroundings) (config : Config) (server : Server)
    (error : Option ErrorCode) (datagram : Bytes) (src : Endpoint) : Except Fault Server :=
  if server.state ≠ .running then .ok server
  else match error with
    | some error => .ok (server.onError (some error))
    | none => server.onDatagram env config datagram src

def Server.onSendStunMessage (server : Server) : Option ErrorCode → Server
  | some error => server.onError (some error)
  | none => server.doReadStunMessage

/-! ## Runs -/

/-- What happens to the server. -/
inductive Event where
  | asyncRun (hasHandler : Bool)
  | cancel
  | resolved (error : Option ErrorCode) (results : List Endpoint) (configured : Option ErrorCode)
  | message (error : Option ErrorCode) (datagram : Bytes) (src : Endpoint)
  | sent (bytes : Bytes) (dst : Endpoint) (error : Option ErrorCode)

/-- The server after a handler: an exception that leaves it leaves the server as it was. -/
def Server.settle (server : Server) : Except Fault Server → Server
  | .ok after => after
  | .error fault => { server with escaped := server.escaped ++ [fault] }

/-- One handler runs. -/
def Server.step (env : Surroundings) (config : Config) (server : Server) : Event → Option Server
  | .asyncRun hasHandler => some (server.asyncRunInternal hasHandler)
  | .cancel => some (server.doClose none)
  | .resolved error results configured =>
    if .resolve ∈ server.operations then
      some ((server.finish .resolve).onDoResolveHost config error results configured)
    else none
  | .message error datagram src =>
    if .receive ∈ server.operations ∧ datagram.length ≤ config.mtu then
      some ((server.finish .receive).settle
        ((server.finish .receive).onMessage env config error datagram src))
    else none
  | .sent bytes dst error =>
    if .send bytes dst ∈ server.operations then
      some ((server.finish (.send bytes dst)).onSendStunMessage error)
    else none

/-- The texts of a datagram that is a message are valid UTF-8. -/
def Config.PrintableDatagram (config : Config) (datagram : Bytes) : Prop :=
  ∀ message, parseMessage (config.buffer datagram) = .ok message → message.Printable

/-- A datagram that is received while the server is running has valid texts. -/
def Printable (config : Config) (server : Server) : Event → Prop
  | .message none datagram _ => server.state = .running → config.PrintableDatagram datagram
  | _ => True

/-! ## What a handler starts -/

/-- The operation that a handler of a message starts. -/
def Operation.Next : Operation → Prop
  | .resolve => False
  | .receive => True
  | .send .. => True

section Handlers

variable (env : Surroundings) (config : Config) (server : Server) (src : Endpoint)

theorem guarded_cases {α : Type} {attempt : Except Fault α} (safe : Safe attempt) :
    (∃ value, attempt = .ok value ∧ guarded attempt = .ok (some value)) ∨
      (∀ value, attempt ≠ .ok value) ∧ guarded attempt = .ok none := by
  cases attempt with
  | ok value => exact .inl ⟨value, rfl, rfl⟩
  | error fault =>
    obtain ⟨what, rfl⟩ := safe fault rfl
    exact .inr ⟨fun value same => (nomatch same), rfl⟩

theorem attributeTexts_parsedAttribute (value : AttributeValue) :
    attributeTexts (parsedAttribute value) = valueTexts value := by
  have known : getAttributeType (parsedAttribute value).header.type = some value.kind :=
    getAttributeType_getAttributeMsgType value.kind
  rw [attributeTexts, known]
  rfl

theorem messageToString_builtMessage (texts : Texts) (stunClass : StunClass)
    (stunMethod : StunMethod) (transactionId : { bytes : Bytes // bytes.length = 12 })
    {values : List AttributeValue}
    (valid : ∀ value ∈ values, ∀ text ∈ valueTexts value, validUtf8 text = true) :
    ∃ text, messageToString texts
      (builtMessage (encodeMsgType stunClass stunMethod) transactionId values) = .ok text := by
  have known : (builtMessage (encodeMsgType stunClass stunMethod) transactionId values).header.type
      &&& 0xFEEF = 0x0001 := known_iff.mp ⟨stunClass, stunMethod, rfl⟩
  refine (messageToString_iff texts known fun attr mem type => ?_).mpr fun attr mem text among => ?_
  · obtain ⟨value, -, rfl⟩ := mem_map.mp mem
    exact Safe.ok _
  · obtain ⟨value, added, rfl⟩ := mem_map.mp mem
    rw [attributeTexts_parsedAttribute] at among
    exact valid value added text among

def responseValues : List AttributeValue :=
  [.xorMappedAddress (mappedAddressOf env src), .software softwareText, .fingerprint none]

theorem blocks_responseValues_le : blocks (responseValues env src) ≤ 65535 := by
  have address : (mappedAddressOf env src).address.length ≤ 16 :=
    (mappedAddressOf env src).fits.le.trans (addressLength_le _)
  have first := aligned_lt (byteSizeLongValue (.xorMappedAddress (mappedAddressOf env src)))
  have size : byteSizeLongValue (.xorMappedAddress (mappedAddressOf env src)) =
    4 + (mappedAddressOf env src).address.length := rfl
  have software : blockSize (.software softwareText) = 24 := by decide
  have last : blockSize (.fingerprint none) = 8 := by decide
  rw [responseValues, blocks_cons, blocks_cons, blocks_cons, blocks_nil, software, last, blockSize]
  omega

theorem processStunBindingRequest_ok (message : Message) :
    ∃ bytes, server.processStunBindingRequest env src message =
      .ok (server.start (.send bytes src)) := by
  have small := blocks_responseValues_le env src
  have built : buildMessage (encodeMsgType .responseSuccess .binding) message.header.transactionId
      (responseValues env src) = _ := buildMessage_of_le small
  obtain ⟨out, next, done⟩ := serializeMessage_of_le env.digests env.memory
    (encodeMsgType .responseSuccess .binding) message.header.transactionId small
  have valid : ∀ value ∈ responseValues env src, ∀ text ∈ valueTexts value,
      validUtf8 text = true := by
    intro value mem text among
    simp only [responseValues, mem_cons, not_mem_nil, or_false] at mem
    rcases mem with rfl | rfl | rfl
    · cases among
    · obtain rfl := mem_singleton.mp among
      decide
    · cases among
  obtain ⟨text, printed⟩ := messageToString_builtMessage env.texts .responseSuccess .binding
    message.header.transactionId valid
  have sizes : ∀ value ∈ responseValues env src, byteSizeLongValue value ≤ 65535 :=
    fun value mem => (byteSizeLongValue_le_blocks mem).trans small
  rw [buildMessage, foldlM_addAttribute_of_le _ sizes, ok_bind] at built
  refine ⟨region out.bytes 0 (20 + blocks (responseValues env src)), ?_⟩
  have run : server.processStunBindingRequest env src message = (do
      let response ← guarded (build {
        messageBuilder (encodeMsgType .responseSuccess .binding) message.header.transactionId with
        attributes := (messageBuilder (encodeMsgType .responseSuccess .binding)
          message.header.transactionId).attributes ++ (responseValues env src).map parsedAttribute })
      match response with
      | none => .ok server.doReadStunMessage
      | some response => server.sendStunMessage env src response) := by
    rw [responseValues, forall_mem_cons, forall_mem_cons, forall_mem_singleton]
      at sizes
    simp only [Server.processStunBindingRequest, addAttribute, makeAttribute_of_le sizes.1,
      makeAttribute_of_le sizes.2.1, makeAttribute_of_le sizes.2.2, ok_bind]
    rfl
  rw [run, built, guarded, ok_bind]
  show server.sendStunMessage env src (builtMessage (encodeMsgType .responseSuccess .binding)
    message.header.transactionId (responseValues env src)) = _
  rw [Server.sendStunMessage, byteSizeLongMessage_builtMessage, ok_bind, done, ok_bind, printed,
    ok_bind]

theorem processStunMessage_ok {message : Message}
    (known : message.header.type &&& 0xFEEF = 0x0001) :
    ∃ operation, operation.Next ∧
      server.processStunMessage env src message = .ok (server.start operation) := by
  obtain ⟨stunClass, classified⟩ := parseStunClass_ok message.header.type
  have method : parseStunMethod message.header.type = .ok .binding := parseStunMethod_eq_ok.mpr known
  rw [Server.processStunMessage, classified, ok_bind]
  cases stunClass with
  | request =>
    obtain ⟨bytes, answered⟩ := processStunBindingRequest_ok env server src message
    refine ⟨.send bytes src, trivial, ?_⟩
    simp only [method, ok_bind]
    exact answered
  | indication | responseSuccess | responseError => exact ⟨.receive, trivial, rfl⟩

section Parsed

variable {memory : Memory} {message : Message}

section

variable (exactly : memory.size = memory.string.length)

include exactly

theorem messageToString_parsed
    (parsed : parseMessage memory = .ok message) :
    (∃ text, messageToString env.texts message = .ok text) ↔ message.Printable := by
  obtain ⟨accepted, reads, -⟩ := (parseMessage_eq_ok exactly).mp parsed
  have inside := parseMessage_inside exactly parsed
  exact messageToString_iff env.texts (reads.type ▸ known_iff.mp accepted.known) fun attr mem =>
    Attribute.get_safe (inside attr mem)

theorem onStunMessage_ok
    (parsed : parseMessage memory = .ok message) (printable : message.Printable) :
    ∃ operation, operation.Next ∧
      server.onStunMessage env src message = .ok (server.start operation) := by
  obtain ⟨accepted, reads, -⟩ := (parseMessage_eq_ok exactly).mp parsed
  obtain ⟨text, printed⟩ := (messageToString_parsed env exactly parsed).mpr printable
  rw [Server.onStunMessage, printed, ok_bind]
  exact processStunMessage_ok env server src (reads.type ▸ known_iff.mp accepted.known)

theorem printable_of_onStunMessage
    (parsed : parseMessage memory = .ok message) {after : Server}
    (done : server.onStunMessage env src message = .ok after) : message.Printable := by
  obtain ⟨text, printed, -⟩ := bind_eq_ok.mp done
  exact (messageToString_parsed env exactly parsed).mp ⟨text, printed⟩

end

end Parsed

/-- A datagram either is no message and is left, or is a message that is processed. -/
theorem onDatagram_cases (datagram : Bytes) :
    (∀ message, parseMessage (config.buffer datagram) ≠ .ok message) ∧
        server.onDatagram env config datagram src = .ok (server.start .receive) ∨
      ∃ message, parseMessage (config.buffer datagram) = .ok message ∧
        server.onDatagram env config datagram src = server.onStunMessage env src message := by
  have exactly : (config.buffer datagram).size = (config.buffer datagram).string.length := rfl
  rcases guarded_cases (parseHeader_safe exactly) with ⟨header, read, caught⟩ | ⟨unread, caught⟩
  · rcases guarded_cases (parseMessage_safe exactly) with
      ⟨message, parsed, kept⟩ | ⟨unparsed, kept⟩
    · refine .inr ⟨message, parsed, ?_⟩
      simp only [Server.onDatagram, caught, kept, ok_bind]
    · refine .inl ⟨unparsed, ?_⟩
      simp only [Server.onDatagram, caught, kept, ok_bind]
      rfl
  · refine .inl ⟨fun message parsed => ?_, ?_⟩
    · obtain ⟨header, read, -⟩ := bind_eq_ok.mp parsed
      exact unread header read
    · simp only [Server.onDatagram, caught, ok_bind]
      rfl

theorem onDatagram_ok {datagram : Bytes} (printable : config.PrintableDatagram datagram) :
    ∃ operation, operation.Next ∧
      server.onDatagram env config datagram src = .ok (server.start operation) := by
  have exactly : (config.buffer datagram).size = (config.buffer datagram).string.length := rfl
  rcases onDatagram_cases env config server src datagram with
    ⟨-, left⟩ | ⟨message, parsed, processed⟩
  · exact ⟨.receive, trivial, left⟩
  · rw [processed]
    exact onStunMessage_ok env server src exactly parsed (printable message parsed)

/-- A datagram whose handler returns has valid texts. -/
theorem printable_of_onDatagram {datagram : Bytes} {after : Server}
    (done : server.onDatagram env config datagram src = .ok after) :
    config.PrintableDatagram datagram := by
  have exactly : (config.buffer datagram).size = (config.buffer datagram).string.length := rfl
  intro message parsed
  rcases onDatagram_cases env config server src datagram with
    ⟨unparsed, -⟩ | ⟨other, same, processed⟩
  · exact (unparsed message parsed).elim
  · rw [parsed] at same
    cases same
    rw [processed] at done
    exact printable_of_onStunMessage env server src exactly parsed done

end Handlers

/-! ## Runs of the server -/

/-- What holds between handlers. -/
structure Alive (server : Server) : Prop where
  idle : server.state = .null → server.operations = []
  one : server.state = .running → ∃ operation, server.operations = [operation]
  quiet : server.escaped = []

section Alive

variable {env : Surroundings} {config : Config} {server : Server}

theorem Alive.start : Alive {} := ⟨fun _ => rfl, (fun running => nomatch running), rfl⟩

theorem Alive.of_stopped (stopped : server.state = .stopped) (quiet : server.escaped = []) :
    Alive server :=
  ⟨fun null => absurd (stopped.symm.trans null) (by decide),
    fun running => absurd (stopped.symm.trans running) (by decide), quiet⟩

theorem Alive.doClose (alive : Alive server) (cause : Option ErrorCode) :
    Alive (server.doClose cause) := by
  rw [Server.doClose]
  split
  · exact alive
  · exact .of_stopped rfl alive.quiet

/-- What a handler finds in a server that is running. -/
theorem Alive.finish (alive : Alive server) {operation : Operation}
    (pending : operation ∈ server.operations) (running : server.state = .running) :
    (server.finish operation).operations = [] := by
  obtain ⟨only, same⟩ := alive.one running
  rw [same, mem_singleton] at pending
  rw [Server.finish, same, pending, erase_cons_head]

theorem Alive.of_start {operation : Operation} (empty : server.operations = [])
    (running : server.state = .running) (quiet : server.escaped = []) :
    Alive (server.start operation) := by
  refine ⟨fun null => absurd (running.symm.trans null) (by decide), fun _ => ⟨operation, ?_⟩, quiet⟩
  rw [Server.start, empty]

/-- A server in which an error ends the operation. -/
theorem alive_onError (running : server.state = .running) (quiet : server.escaped = [])
    (cause : ErrorCode) : Alive (server.onError (some cause)) := by
  rw [Server.onError, Server.doClose, if_neg (not_not.mpr running)]
  exact .of_stopped rfl quiet

section

variable (alive : Alive server)

include alive

theorem Alive.stopped {operation : Operation}
    (pending : operation ∈ server.operations) (idle : server.state ≠ .running) :
    server.state = .stopped := by
  cases state : server.state with
  | null =>
    rw [alive.idle state] at pending
    cases pending
  | running => exact absurd state idle
  | stopped => rfl

theorem Alive.onDoResolveHost (pending : .resolve ∈ server.operations)
    (error : Option ErrorCode) (results : List Endpoint) (configured : Option ErrorCode) :
    Alive ((server.finish .resolve).onDoResolveHost config error results configured) := by
  unfold Server.onDoResolveHost
  split
  · rename_i idle
    exact .of_stopped (alive.stopped pending idle) alive.quiet
  · rename_i running
    have running : (server.finish .resolve).state = .running := not_not.mp running
    split
    · exact alive_onError running alive.quiet _
    · split
      · exact alive_onError running alive.quiet _
      · cases configured with
        | some error => exact alive_onError running alive.quiet error
        | none => exact .of_start (alive.finish pending running) running alive.quiet

theorem Alive.onMessage (pending : .receive ∈ server.operations)
    (error : Option ErrorCode) (datagram : Bytes) (src : Endpoint)
    (printable : Printable config server (.message error datagram src)) :
    Alive ((server.finish .receive).settle
      ((server.finish .receive).onMessage env config error datagram src)) := by
  unfold Server.onMessage
  split
  · rename_i idle
    exact .of_stopped (alive.stopped pending idle) alive.quiet
  · rename_i running
    have running : (server.finish .receive).state = .running := not_not.mp running
    cases error with
    | some error => exact alive_onError running alive.quiet error
    | none =>
      obtain ⟨operation, -, handled⟩ :=
        onDatagram_ok env config (server.finish .receive) src (printable running)
      show Alive ((server.finish .receive).settle
        ((server.finish .receive).onDatagram env config datagram src))
      rw [handled]
      exact .of_start (alive.finish pending running) running alive.quiet

theorem Alive.onSendStunMessage {bytes : Bytes} {dst : Endpoint}
    (pending : .send bytes dst ∈ server.operations) (error : Option ErrorCode) :
    Alive ((server.finish (.send bytes dst)).onSendStunMessage error) := by
  by_cases running : (server.finish (.send bytes dst)).state = .running
  · cases error with
    | some error => exact alive_onError running alive.quiet error
    | none => exact .of_start (alive.finish pending running) running alive.quiet
  · have stopped : (server.finish (.send bytes dst)).state = .stopped :=
      alive.stopped pending running
    cases error with
    | some error =>
      rw [Server.onSendStunMessage, Server.onError, Server.doClose, if_pos running]
      exact .of_stopped stopped alive.quiet
    | none => exact .of_stopped stopped alive.quiet

/-- **A handler of a server that is alive leaves it alive** when the texts it receives are
valid. -/
theorem Alive.step {event : Event} (printable : Printable config server event)
    {after : Server} (stepped : server.step env config event = some after) : Alive after := by
  cases event with
  | asyncRun hasHandler =>
    cases stepped
    rw [Server.asyncRunInternal]
    split
    · exact ⟨alive.idle, alive.one, alive.quiet⟩
    · rename_i null
      exact .of_start (alive.idle (not_not.mp null)) rfl alive.quiet
  | cancel =>
    cases stepped
    exact alive.doClose none
  | resolved error results configured =>
    obtain ⟨pending, same⟩ := Option.ite_none_right_eq_some.mp stepped
    cases same
    exact alive.onDoResolveHost pending error results configured
  | message error datagram src =>
    obtain ⟨pending, same⟩ := Option.ite_none_right_eq_some.mp stepped
    cases same
    exact alive.onMessage pending.1 error datagram src printable
  | sent bytes dst error =>
    obtain ⟨pending, same⟩ := Option.ite_none_right_eq_some.mp stepped
    cases same
    exact alive.onSendStunMessage pending error

end

/-- **A server whose messages have valid texts survives every datagram**: no exception has left a
handler, a server that is running has one operation, and the next datagram leaves it with one
exactly when its texts are valid. -/
theorem server_survives (run : Run (Server.step env config) (Printable config) {} server) :
    server.escaped = [] ∧
    (server.state = .running → ∃ operation, server.operations = [operation]) ∧
    ∀ datagram src, server.state = .running → Operation.receive ∈ server.operations →
      ((∃ after, (server.finish .receive).onMessage env config none datagram src = .ok after ∧
          (after.state = .running → ∃ operation, operation.Next ∧ after.operations = [operation])) ↔
        config.PrintableDatagram datagram) := by
  have alive : Alive server :=
    run.invariant Alive.start fun s e t alive printable stepped => alive.step printable stepped
  refine ⟨alive.quiet, alive.one, fun datagram src running pending => ?_⟩
  have empty := alive.finish pending running
  have handled : (server.finish .receive).onMessage env config none datagram src =
      (server.finish .receive).onDatagram env config datagram src :=
    if_neg (not_not.mpr running)
  rw [handled]
  constructor
  · rintro ⟨after, done, -⟩
    exact printable_of_onDatagram env config (server.finish .receive) src done
  · intro printable
    obtain ⟨operation, next, done⟩ :=
      onDatagram_ok env config (server.finish .receive) src printable
    refine ⟨_, done, fun _ => ⟨operation, next, ?_⟩⟩
    rw [Server.start, empty]

end Alive

/-! ## A run -/

/-- An endpoint of the network for documentation. -/
def exampleEndpoint : Endpoint where
  address := { family := .ipv4, address := [192, 0, 2, 7], fits := rfl }
  port := 40000

def exampleConfig : Config where
  mtu := 4096
  inet4 := false
  inet6 := false

def exampleSurroundings : Surroundings where
  digests := { hmacSha1 := fun _ _ => ⟨List.replicate 20 0, rfl⟩, crc32 := fun _ => 0 }
  texts := { address := fun _ => "192.0.2.7", json := fun _ => [] }
  padding := 0
  memory := fun _ => 0

/-- A server that has opened its socket. -/
def listening : Server where
  state := .running
  operations := [.receive]
  hasHandler := true

theorem run_listening (good : Server → Event → Prop)
    (start : good {} (.asyncRun true))
    (opened : good (({} : Server).asyncRunInternal true) (.resolved none [exampleEndpoint] none)) :
    Run (Server.step exampleSurroundings exampleConfig) good {} listening :=
  (Run.refl.tail start rfl).tail opened rfl

theorem server_survives_softwareRequest :
    ∃ after, (listening.finish .receive).onMessage exampleSurroundings exampleConfig none
        softwareRequest exampleEndpoint = .ok after ∧
      (after.state = .running → ∃ operation, operation.Next ∧ after.operations = [operation]) := by
  obtain ⟨-, -, survives⟩ := server_survives (run_listening _ trivial trivial)
  refine (survives softwareRequest exampleEndpoint rfl (by decide)).mpr fun message parsed => ?_
  have read : parseMessage (exampleConfig.buffer softwareRequest) = .ok {
      header := {
        type := 0x0001
        payloadLength := 8
        magic := stunMagic
        transactionId := ⟨replicate 12 0, rfl⟩ }
      attributes := [attributeAt (exampleConfig.buffer softwareRequest)
        { type := 0x8022, length := 3 } 24] } := rfl
  rw [read] at parsed
  cases parsed
  intro attr mem text among
  obtain rfl := mem_singleton.mp mem
  obtain rfl : text = [0x61, 0x62, 0x63] := mem_singleton.mp among
  decide

/-- A software that is not valid UTF-8. -/
def invalidRequest : Bytes :=
  [0x00, 0x01, 0x00, 0x08, 0x21, 0x12, 0xA4, 0x42] ++ List.replicate 12 0x00 ++
    [0x80, 0x22, 0x00, 0x03, 0xFF, 0x62, 0x63, 0x00]

/-- An exception leaves the handler of a request whose software is not valid UTF-8. -/
theorem invalidRequest_not_survived :
    ¬∀ (env : Surroundings) (config : Config) (server : Server),
      Reaches (Server.step env config) {} server → ∀ datagram src,
      server.state = .running → Operation.receive ∈ server.operations →
      datagram.length ≤ config.mtu →
      ∃ after, (server.finish .receive).onMessage env config none datagram src = .ok after ∧
        (after.state = .running → ∃ operation, operation.Next ∧ after.operations = [operation]) := by
  intro always
  obtain ⟨after, done, -⟩ := always exampleSurroundings exampleConfig listening
    (run_listening Any trivial trivial) invalidRequest exampleEndpoint rfl (by decide) (by decide)
  have thrown : (listening.finish .receive).onMessage exampleSurroundings exampleConfig none
      invalidRequest exampleEndpoint = .error (.thrown "invalid UTF-8 byte") := rfl
  rw [thrown] at done
  cases done

end Rstream.Stun
