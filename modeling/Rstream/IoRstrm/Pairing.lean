import Rstream.IoRstrm.Acceptor.Connects
import Rstream.IoRstrm.Client.Subscription

/-!
# The acceptor and its clients

The acceptor and each of the clients it makes run on strands of their own. What the acceptor
asks of a client is a call on it. What a client has to tell, the completion of an operation, a
disconnection or a status, is posted to the strand of the acceptor, and on an executor with
several threads the posted messages may arrive in any order.

`on_client_disconnection` reacts in `state::connected` only. A disconnection that overtakes the
completion of the connect it follows finds the acceptor in `state::connecting` and is ignored;
the completion then makes the acceptor connected with a client that is closed, and nothing tells
it so (`connected_to_a_closed_client`). While no disconnection overtakes a successful connect,
a connected acceptor has a client that is not closed, or a disconnection of it is on its way
(`disconnection_not_lost`).
-/

namespace Rstream.IoRstrm

open Library Option List

/-- What a client tells the acceptor. -/
inductive Notice where
  | completed (op : OpId) (errorCode : ErrorCode) (value : Value)
  | disconnection (errorCode : ErrorCode)
  | status (status : Status)
  deriving DecidableEq, Repr

namespace Notice

/-- What an output of a client tells the acceptor, if anything. -/
def ofOutput : Output → Option Notice
  | .completed op errorCode value _ => some (.completed op errorCode value)
  | .disconnection errorCode => some (.disconnection errorCode)
  | .status report => some (.status report)
  | _ => none

/-- The completion of a successful connect. -/
def opens : Notice → Bool
  | .completed (.connect _) errorCode _ => !errorCode.failed
  | _ => false

end Notice

/-- A message posted to the strand of the acceptor, with the client it comes from. -/
structure Posted where
  client : Nat
  notice : Notice
  deriving DecidableEq, Repr

/-- What the constructor of a client resolves: the default engine address and its tokens. -/
structure Resolved where
  defaultServerAddress : Except ErrorCode Address := .error Error.Code.invalidConfiguration
  token : Except ErrorCode (Option String) := .ok none
  mtlsToken : Except ErrorCode (Option String) := .ok none

namespace Acceptor.Event

/-- The event comes from the user, the strand or the timer, not from a client. -/
def isOwn : Event → Bool
  | .call _ | .run _ _ | .expire | .timer _ => true
  | _ => false

/-- The event, with the clients that refuse new callbacks. -/
def refusing (refuses : Nat → Bool) : Event → Event
  | .run index oracle => .run index { oracle with refuses := refuses }
  | .timer oracle => .timer { oracle with refuses := refuses }
  | .completed request errorCode value oracle propertiesCalls calls =>
    .completed request errorCode value { oracle with refuses := refuses } propertiesCalls calls
  | .disconnection errorCode oracle calls =>
    .disconnection errorCode { oracle with refuses := refuses } calls
  | .status report oracle calls => .status report { oracle with refuses := refuses } calls
  | event => event

end Acceptor.Event

/-- An acceptor, the clients it has made, and the messages on their way to it. -/
structure Pairing where
  acceptor : Acceptor := {}
  clients : List Client := []
  messages : List Posted := []

namespace Pairing

variable {host : Host}

/-- `set_control_callbacks` is refused by a client that is not free. -/
def refuses (w : Pairing) (client : Nat) : Bool :=
  w.clients[client]?.any fun s => s.isStateNonNull

/-- What an output of the acceptor does to its clients: it makes one, or calls one. -/
def serve (resolved : Resolved) (clients : List Client) : AcceptorOutput → List Client
  | .makeClient config =>
    clients ++ [Client.make config resolved.defaultServerAddress resolved.token
      resolved.mtlsToken]
  | .connect client address =>
    clients.modify client fun s =>
      (s.setControlCallbacks ⟨true, true⟩).call (.asyncConnect address)
  | .createTunnel client properties _ _ _ =>
    clients.modify client fun s => s.call (.asyncCreateTunnel properties)
  | .acceptTunnel client tunnelId peer =>
    clients.modify client fun s => s.call (.asyncAcceptTunnel tunnelId peer)
  | .cancelAccept client index =>
    clients.modify client fun s => s.call (.cancel (.acceptTunnel index))
  | .closeClient client => clients.modify client fun s => s.call .close
  | _ => clients

/-- A step of the acceptor, with the calls it makes on its clients. -/
def runAcceptor (host : Host) (w : Pairing) (event : Acceptor.Event)
    (resolved : Resolved) : Option Pairing :=
  (Acceptor.step host w.acceptor (event.refusing w.refuses)).map fun acceptor =>
    { w with
      acceptor := acceptor
      clients := (acceptor.log.drop w.acceptor.log.length).foldl (serve resolved) w.clients }

/-- The messages that a client posts in a step. -/
def posts (client : Nat) (s t : Client) : List Posted :=
  (t.log.drop s.log.length).filterMap fun output =>
    (Notice.ofOutput output).map fun notice => ⟨client, notice⟩

/-- A step of a client. Its callbacks post to the acceptor and make no calls on it. -/
def runClient (host : Host) (w : Pairing) (client index : Nat) (input : Input) : Option Pairing :=
  match w.clients[client]? with
  | none => none
  | some s =>
    (Client.step host s (.run index { input with calls := [] })).map fun t =>
      { w with
        clients := w.clients.set client t, messages := w.messages ++ posts client s t }

/-- The event with which a message reaches the acceptor. A completion goes to the handler of
the request it is of. -/
def delivered (requests : List Request) (message : Posted) (oracle : AcceptorOracle)
    (propertiesCalls calls : List AcceptorCall) : Option Acceptor.Event :=
  match message.notice with
  | .completed op errorCode value =>
    (requests.find? fun request => request.client = message.client && request.opId = op).map
      fun request => .completed request errorCode value oracle propertiesCalls calls
  | .disconnection errorCode => some (.disconnection errorCode oracle calls)
  | .status status => some (.status status oracle calls)

/-- An event: the acceptor runs something of its own, a message is delivered to it, or a client
runs a piece of work. -/
inductive Event where
  | acceptor (event : Acceptor.Event) (resolved : Resolved)
  | deliver (index : Nat) (oracle : AcceptorOracle) (propertiesCalls calls : List AcceptorCall)
      (resolved : Resolved)
  | client (client index : Nat) (input : Input)

/-- One step of the acceptor and its clients. -/
def step (host : Host) (w : Pairing) : Event → Option Pairing
  | .acceptor event resolved =>
    if event.isOwn then w.runAcceptor host event resolved else none
  | .deliver index oracle propertiesCalls calls resolved =>
    match w.messages[index]? with
    | none => none
    | some message =>
      let rest : Pairing := { w with messages := w.messages.eraseIdx index }
      match delivered w.acceptor.requests message oracle propertiesCalls calls with
      | none => some rest
      | some event => rest.runAcceptor host event resolved
  | .client client index input => w.runClient host client index input

/-- The completion of a successful connect of the client is on its way. -/
def opening (w : Pairing) (client : Nat) : Bool :=
  w.messages.any fun message => message.client = client && message.notice.opens

/-- A disconnection is not delivered while the completion of a successful connect of the same
client is on its way. -/
def Ordered (w : Pairing) : Event → Prop
  | .deliver index _ _ _ _ =>
    match w.messages[index]? with
    | some ⟨client, .disconnection _⟩ => w.opening client = false
    | _ => True
  | _ => True

/-! ## What the acceptor asks of its clients -/

/-- A client of a user that listens. -/
structure Listened (s : Client) : Prop where
  invariant : s.Invariant
  subscribed : s.Subscribed

variable {s t : Client} {client index : Nat} {message : Posted}

theorem Listened.asked (listened : Listened s) (asked : s.Asked t) : Listened t :=
  ⟨asked.invariant listened.invariant, asked.subscribed listened.subscribed⟩

/-- The client has an open connection. -/
def Open (clients : List Client) (client : Nat) : Prop :=
  ∃ s, clients[client]? = some s ∧ s.Up

/-- What happens to the clients keeps them listened to, and their connections open. -/
structure Served (clients after : List Client) : Prop where
  listened : (∀ s ∈ clients, Listened s) → ∀ s ∈ after, Listened s
  opened : ∀ client, Open clients client → Open after client

namespace Served

variable {clients after later : List Client}

theorem refl : Served clients clients := ⟨fun listened => listened, fun _ opened => opened⟩

theorem trans (first : Served clients after) (second : Served after later) :
    Served clients later :=
  ⟨fun listened => second.listened (first.listened listened),
    fun client opened => second.opened client (first.opened client opened)⟩

theorem modify (called : Nat) {change : Client → Client} (asked : ∀ s, Client.Asked s (change s)) :
    Served clients (clients.modify called change) := by
  refine ⟨fun listened s mem => ?_, fun client ⟨s, found, up⟩ => ?_⟩
  · obtain ⟨position, found⟩ := getElem?_of_mem mem
    rw [getElem?_modify] at found
    cases before : clients[position]? with
    | none =>
      rw [before] at found
      contradiction
    | some u =>
      have known := listened u (mem_of_getElem? before)
      rw [before] at found
      cases found
      split
      · exact known.asked (asked u)
      · exact known
  · by_cases same : called = client
    · refine ⟨change s, ?_, (asked s).up up⟩
      simp [same, found]
    · refine ⟨s, ?_, up⟩
      simp [same, found]

theorem append {s : Client} (fresh : Listened s) : Served clients (clients ++ [s]) := by
  refine ⟨fun listened u mem => ?_, fun client ⟨u, found, up⟩ => ⟨u, ?_, up⟩⟩
  · rcases mem_append.mp mem with before | last
    · exact listened u before
    · rw [mem_singleton.mp last]
      exact fresh
  · have bound := (List.getElem?_eq_some_iff.mp found).1
    rw [getElem?_append_left bound]
    exact found

end Served

theorem served_serve (resolved : Resolved) (clients : List Client)
    (output : AcceptorOutput) : Served clients (serve resolved clients output) := by
  cases output with
  | makeClient config =>
    exact .append ⟨Client.invariant_make _ _ _ _, Client.subscribed_make _ _ _ _⟩
  | connect client address => exact .modify client fun s => .connect address
  | createTunnel client properties _ _ _ => exact .modify client fun s => .create properties
  | acceptTunnel client tunnelId peer => exact .modify client fun s => .accept tunnelId peer
  | cancelAccept client index => exact .modify client fun s => .cancel _
  | closeClient client => exact .modify client fun s => .close
  | _ => exact .refl

theorem served_foldl (resolved : Resolved) (outputs : List AcceptorOutput)
    (clients : List Client) : Served clients (outputs.foldl (serve resolved) clients) := by
  induction outputs generalizing clients with
  | nil => exact .refl
  | cons output outputs ih =>
    exact (served_serve resolved clients output).trans (ih (serve resolved clients output))

/-! ## The invariant -/

variable {w u v : Pairing}

/-- The connection of the client is open, or a disconnection of it is on its way. -/
def Told (w : Pairing) (client : Nat) : Prop :=
  Open w.clients client ∨ ∃ errorCode, ⟨client, .disconnection errorCode⟩ ∈ w.messages

/-- The acceptor is connected with the client, or about to be. -/
def Relies (w : Pairing) (client : Nat) : Prop :=
  w.acceptor.state = .connected ∧ w.acceptor.client = some client ∨ w.opening client = true

/-- Whatever connection the acceptor relies on is open, or it will be told of its end. -/
structure Sound (w : Pairing) : Prop where
  wellFormed : w.acceptor.WellFormed
  matched : w.acceptor.Matched
  listened : ∀ s ∈ w.clients, Listened s
  told : ∀ client, w.Relies client → w.Told client

theorem opening_iff (w : Pairing) (client : Nat) :
    w.opening client = true ↔ ∃ message ∈ w.messages,
      message.client = client ∧ message.notice.opens = true := by
  simp [opening]

theorem refusing_disconnects (event : Acceptor.Event) (refuses : Nat → Bool) :
    (event.refusing refuses).disconnects = event.disconnects := by
  cases event with
  | _ => rfl

theorem refusing_connects (event : Acceptor.Event) (refuses : Nat → Bool) (client : Option Nat) :
    (event.refusing refuses).connects client ↔ event.connects client := by
  cases event with
  | _ => exact Iff.rfl

/-- A step of the acceptor, from what it relies on during the step. -/
theorem runAcceptor_sound (wellFormed : u.acceptor.WellFormed) (matched : u.acceptor.Matched)
    (listened : ∀ s ∈ u.clients, Listened s) {event : Acceptor.Event}
    {resolved : Resolved} (taken : u.runAcceptor host event resolved = some v)
    (kept : ∀ client, event.disconnects = false → u.acceptor.state = .connected →
      u.acceptor.client = some client → u.Told client)
    (opened : ∀ client, event.connects (some client) → u.Told client)
    (opening : ∀ client, u.opening client = true → u.Told client) : v.Sound := by
  obtain ⟨acceptor, stepped, rfl⟩ := map_eq_some_iff.mp taken
  have served := served_foldl resolved (acceptor.log.drop u.acceptor.log.length) u.clients
  obtain ⟨after, connected⟩ := Acceptor.step_connected wellFormed matched stepped
  refine ⟨wellFormed.step stepped, after, served.listened listened, fun client relies => ?_⟩
  have before : u.Told client := by
    rcases relies with ⟨now, attached⟩ | soon
    · rcases connected now with ⟨other, already, same⟩ | success
      · rw [refusing_disconnects] at other
        exact kept client other already (same.symm.trans attached)
      · rw [refusing_connects] at success
        exact opened client (attached ▸ success)
    · exact opening client soon
  rcases before with open' | disconnected
  · exact .inl (served.opened client open')
  · exact .inr disconnected

/-- What a client reports of a successful connect. -/
theorem opens_of_posts (mem : message ∈ posts client s t) (success : message.notice.opens = true) :
    message.client = client ∧ ∃ output ∈ t.log.drop s.log.length, output.opens = true := by
  obtain ⟨output, reported, posted⟩ := mem_filterMap.mp mem
  obtain ⟨notice, told, rfl⟩ := map_eq_some_iff.mp posted
  refine ⟨rfl, output, reported, ?_⟩
  cases output with
  | completed op errorCode value connection =>
    cases told
    cases op with
    | connect index => exact success
    | _ => contradiction
  | disconnection errorCode | status report =>
    cases told
    contradiction
  | _ => contradiction

theorem posts_disconnection {errorCode : ErrorCode}
    (mem : Output.disconnection errorCode ∈ t.log.drop s.log.length) :
    ⟨client, .disconnection errorCode⟩ ∈ posts client s t :=
  mem_filterMap.mpr ⟨_, mem, rfl⟩

theorem Sound.runClient (sound : w.Sound) {input : Input}
    (taken : w.runClient host client index input = some v) : v.Sound := by
  unfold Pairing.runClient at taken
  split at taken
  · contradiction
  rename_i s found
  obtain ⟨t, stepped, rfl⟩ := map_eq_some_iff.mp taken
  have listened := sound.listened s (mem_of_getElem? found)
  have invariant := listened.invariant.step stepped
  obtain ⟨subscribed, reports⟩ :=
    Client.step_reports listened.invariant listened.subscribed rfl stepped
  have here : (w.clients.set client t)[client]? = some t := by
    rw [List.getElem?_set_self (List.getElem?_eq_some_iff.mp found).1]
  refine ⟨sound.wellFormed, sound.matched, fun other mem => ?_, fun other relies => ?_⟩
  · rcases mem_or_eq_of_mem_set mem with before | rfl
    · exact sound.listened other before
    · exact ⟨invariant, subscribed⟩
  have either : w.Relies other ∨
      other = client ∧ ∃ output ∈ t.log.drop s.log.length, output.opens = true := by
    rcases relies with now | soon
    · exact .inl (.inl now)
    · obtain ⟨message, mem, rfl, success⟩ := (opening_iff _ _).mp soon
      rcases mem_append.mp mem with before | new
      · exact .inl (.inr ((opening_iff _ _).mpr ⟨message, before, rfl, success⟩))
      · exact .inr (opens_of_posts new success)
  rcases either with before | ⟨rfl, output, mem, success⟩
  · rcases sound.told other before with ⟨u, known, up⟩ | ⟨errorCode, posted⟩
    · by_cases same : client = other
      · subst same
        rw [found, some_inj] at known
        subst known
        rcases reports.ends up with still | ⟨errorCode, ended⟩
        · exact .inl ⟨t, here, still⟩
        · exact .inr ⟨errorCode, mem_append_right _ (posts_disconnection ended)⟩
      · refine .inl ⟨u, ?_, up⟩
        rw [getElem?_set_ne same]
        exact known
    · exact .inr ⟨errorCode, mem_append_left _ posted⟩
  · exact .inl ⟨t, here, reports.opens output mem success⟩

/-- Taking a message from its way. -/
theorem told_of_taken (found : w.messages[index]? = some message)
    (other : message.client = client → ∀ errorCode,
      message.notice ≠ .disconnection errorCode) (told : w.Told client) :
    ({ w with messages := w.messages.eraseIdx index } : Pairing).Told client := by
  rcases told with open' | ⟨errorCode, posted⟩
  · exact .inl open'
  · refine .inr ⟨errorCode, mem_eraseIdx_of_ne found ?_ posted⟩
    rintro rfl
    exact other rfl errorCode rfl

theorem opening_of_taken
    (soon : ({ w with messages := w.messages.eraseIdx index } : Pairing).opening client = true) :
    w.opening client = true := by
  obtain ⟨message, mem, same, success⟩ := (opening_iff _ _).mp soon
  exact (opening_iff _ _).mpr ⟨message, mem_of_mem_eraseIdx mem, same, success⟩

/-- The event of a message: a disconnection, or something else that connects the acceptor only
as the completion of a successful connect. -/
theorem delivered_cases {requests : List Request} {oracle : AcceptorOracle}
    {propertiesCalls calls : List AcceptorCall} {event : Acceptor.Event}
    (arrives : delivered requests message oracle propertiesCalls calls = some event) :
    (∃ errorCode, message.notice = .disconnection errorCode) ∧ event.disconnects = true ∧
        (∀ client, ¬ event.connects client) ∨
      (∀ errorCode, message.notice ≠ .disconnection errorCode) ∧ event.disconnects = false ∧
        ∀ client, event.connects (some client) →
          message.client = client ∧ message.notice.opens = true := by
  unfold delivered at arrives
  split at arrives
  · rename_i op errorCode value told
    obtain ⟨request, found, rfl⟩ := map_eq_some_iff.mp arrives
    have matches' := find?_some found
    simp only [Bool.and_eq_true, decide_eq_true_eq] at matches'
    refine .inr ⟨by simp [told], rfl, fun client success => ?_⟩
    obtain ⟨kind, succeeded, attached⟩ := success
    have opId : op = .connect request.index := by
      rw [← matches'.2, Request.opId, kind]
    refine ⟨?_, by simp [told, opId, Notice.opens, succeeded]⟩
    rw [← matches'.1]
    exact (some_inj.mp attached).symm
  · rename_i errorCode told
    cases arrives
    exact .inl ⟨⟨errorCode, told⟩, rfl, fun _ success => success⟩
  · rename_i report told
    cases arrives
    exact .inr ⟨by simp [told], rfl, fun _ success => absurd success id⟩

/-- **One step**: unless a disconnection overtakes a successful connect, whatever connection the
acceptor relies on is open or it will be told of its end. -/
theorem Sound.step (sound : w.Sound) {event : Event} (ordered : Ordered w event)
    (taken : Pairing.step host w event = some v) : v.Sound := by
  cases event with
  | acceptor event resolved =>
    obtain ⟨own, ran⟩ := ite_none_right_eq_some.mp taken
    refine runAcceptor_sound sound.wellFormed sound.matched sound.listened ran
      (fun client _ connected attached => sound.told client (.inl ⟨connected, attached⟩))
      (fun client success => ?_) fun client soon => sound.told client (.inr soon)
    cases event with
    | completed _ _ _ _ _ _ => contradiction
    | _ => exact absurd success id
  | deliver index oracle propertiesCalls calls resolved =>
    cases found : w.messages[index]? with
    | none =>
      simp only [Pairing.step, found] at taken
      contradiction
    | some message =>
      simp only [Pairing.step, found] at taken
      split at taken
      · rename_i unclaimed
        cases taken
        have other (errorCode : ErrorCode) : message.notice ≠ .disconnection errorCode := by
          intro ends
          simp only [delivered, ends] at unclaimed
          contradiction
        refine ⟨sound.wellFormed, sound.matched, sound.listened, fun client relies => ?_⟩
        refine told_of_taken found (fun _ => other) (sound.told client ?_)
        rcases relies with now | soon
        · exact .inl now
        · exact .inr (opening_of_taken soon)
      · rename_i event arrives
        rcases delivered_cases arrives with
          ⟨⟨errorCode, ends⟩, disconnects, never⟩ | ⟨other, steady, success⟩
        · -- a disconnection: the acceptor is not connected afterwards
          refine runAcceptor_sound (u := { w with messages := w.messages.eraseIdx index })
            sound.wellFormed sound.matched sound.listened taken (fun _ other => ?_)
            (fun client success => absurd success (never _)) fun client soon => ?_
          · rw [disconnects] at other
            contradiction
          · have before := opening_of_taken soon
            refine told_of_taken found (fun same _ _ => ?_) (sound.told client (.inr before))
            obtain ⟨sender, notice⟩ := message
            cases ends
            simp only [Ordered, found] at ordered
            rw [← same, ordered] at before
            contradiction
        · have kept (client : Nat) (told : w.Told client) :
              ({ w with messages := w.messages.eraseIdx index } : Pairing).Told client :=
            told_of_taken found (fun _ => other) told
          refine runAcceptor_sound (u := { w with messages := w.messages.eraseIdx index })
            sound.wellFormed sound.matched sound.listened taken
            (fun client _ connected attached =>
              kept client (sound.told client (.inl ⟨connected, attached⟩)))
            (fun client connects => ?_)
            fun client soon => kept client (sound.told client (.inr (opening_of_taken soon)))
          obtain ⟨same, opens⟩ := success client connects
          have mem := mem_of_taken found
          exact kept client (sound.told client
            (.inr ((opening_iff _ _).mpr ⟨message, mem, same, opens⟩)))
  | client client index input => exact sound.runClient taken

theorem sound_initial : ({} : Pairing).Sound where
  wellFormed := Acceptor.wellFormed_initial
  matched := .inl rfl
  listened := by simp
  told client relies := by
    rcases relies with ⟨connected, -⟩ | soon
    · cases connected
    · cases soon

/-- **A disconnection is not lost** in a run in which none overtakes the completion of a
successful connect of the same client. When nothing is on its way, a connected acceptor has a
client that is not closed. A connected acceptor whose client is closed has a disconnection of it
on its way, and after its delivery the acceptor is not connected. -/
theorem disconnection_not_lost (host : Host) (w : Pairing)
    (run : Run (step host) Ordered {} w) :
    (w.messages = [] → w.acceptor.state = .connected →
      ∃ client s, w.acceptor.client = some client ∧ w.clients[client]? = some s ∧
        s.state ≠ .null) ∧
    (∀ client s, w.acceptor.state = .connected → w.acceptor.client = some client →
      w.clients[client]? = some s → s.state = .null →
        ∃ errorCode, ⟨client, .disconnection errorCode⟩ ∈ w.messages) ∧
    (∀ index client errorCode oracle propertiesCalls calls resolved v,
      w.messages[index]? = some ⟨client, .disconnection errorCode⟩ →
        step host w (.deliver index oracle propertiesCalls calls resolved) = some v →
          v.acceptor.state ≠ .connected) := by
  have sound : w.Sound := 
    run.invariant sound_initial fun _ _ _ before ordered taken => before.step ordered taken
  refine ⟨fun quiet connected => ?_, fun client s connected attached found closed => ?_,
    fun index client errorCode oracle propertiesCalls calls resolved v found taken connected => ?_⟩
  · have attached := sound.wellFormed.attached.mpr (by simp [connected])
    obtain ⟨client, held⟩ := isSome_iff_exists.mp attached
    rcases sound.told client (.inl ⟨connected, held⟩) with ⟨s, found, up⟩ | ⟨errorCode, posted⟩
    · exact ⟨client, s, held, found, up.running.1⟩
    · rw [quiet] at posted
      cases posted
  · rcases sound.told client (.inl ⟨connected, attached⟩) with ⟨u, known, up⟩ | posted
    · rw [found, some_inj] at known
      exact absurd (known ▸ closed) up.running.1
    · exact posted
  · simp only [step, found, delivered, runAcceptor] at taken
    obtain ⟨acceptor, stepped, rfl⟩ := map_eq_some_iff.mp taken
    obtain ⟨-, opened⟩ := Acceptor.step_connected sound.wellFormed sound.matched stepped
    rcases opened connected with ⟨other, -⟩ | success
    · cases other
    · exact success

/-- An acceptor whose first client connects. The completion of the connect and a status are on
their way. -/
def connectFirst : List Event :=
  [.acceptor (.call (.bind {})) {}, .acceptor (.call (.asyncAccept 0)) {}, .acceptor (.run 0 {}) {},
    .client 0 0 {}, .client 0 1 { results := [{}] }, .client 0 1 {}, .client 0 1 {},
    .client 0 1 {}, .client 0 2 { message := some (.openControlChannelRsp (.ok "client" none)) }]

/-- The messages are delivered in order. -/
def deliverInOrder : List Event := connectFirst ++ [.deliver 0 {} [] [] {}, .deliver 0 {} [] [] {}]

/-- The connection fails before the messages are delivered, and the disconnection overtakes
them. -/
def overtaken : List Event :=
  connectFirst ++ [.client 0 3 { errorCode := .operationAborted }, .client 0 3 {},
    .deliver 2 {} [] [] {}, .deliver 0 {} [] [] {}, .deliver 0 {} [] [] {}]

theorem deliverInOrder_isSome :
    (exec (step .plain) {} deliverInOrder).isSome = true := by
  rfl

/-- An acceptor that was told of the connection. -/
def connectedPair : Pairing :=
  (exec (step .plain) {} deliverInOrder).get deliverInOrder_isSome

theorem deliverInOrder_ordered : GoodAlong (step .plain) Ordered {} deliverInOrder :=
  ⟨trivial, trivial, trivial, trivial, trivial, trivial, trivial, trivial, trivial, trivial, trivial,
    trivial⟩

theorem connectedPair_running : ∃ client s, connectedPair.acceptor.client = some client ∧
    connectedPair.clients[client]? = some s ∧ s.state ≠ .null := by
  have run : Run (step .plain) Ordered {} connectedPair :=
    .of_exec deliverInOrder_ordered (some_get deliverInOrder_isSome).symm
  exact (disconnection_not_lost .plain connectedPair run).1 rfl rfl

theorem overtaken_isSome : (exec (step .plain) {} overtaken).isSome = true := by
  rfl

/-- **The disconnection that overtakes the connect is lost**: nothing is on its way, and the
acceptor is connected with a client that is closed. -/
theorem connected_to_a_closed_client : ∃ w, Reaches (step .plain) {} w ∧
    w.messages = [] ∧ w.acceptor.state = .connected ∧ w.acceptor.client = some 0 ∧
      (w.clients[0]?).map Client.state = some .null :=
  ⟨_, Reaches.of_exec overtaken_isSome, rfl, rfl, rfl, rfl⟩

end Pairing

end Rstream.IoRstrm
