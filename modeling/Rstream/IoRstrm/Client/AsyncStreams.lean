import Rstream.IoRstrm.Client.Streams

/-!
# Streams in the asynchronous mode

With `m_async_stream_operation` every stream has a socket of its own, and a stream
and an accept operation meet from either side: the stream may be connected before
an accept operation arrives, or wait for one. The runs considered are those
against an engine that does not reuse a stream id on a connection.

The invariant has three parts. `Meeting` is about the tunnels: a tunnel with a
pending accept operation has no connected stream, a stream is in one tunnel only and
has not been handed over before, and an attempt in flight is the attempt of the
socket the stream still holds. `Reported` and `Budget` bound what the log may
contain by the proxy requests in it. They are stated with a credit, because a
handler first takes an attempt or logs a request and only then starts an attempt,
reports a success or sends a response.
-/

namespace Rstream.IoRstrm

open Library Nat
open Std (TreeMap)

/-- The output is a proxy request for a stream. -/
def Output.isRequest (connection : Nat) (streamId : String) : Output → Bool
  | .proxyRequest other stream _ => other = connection ∧ stream = streamId
  | _ => false

/-- The output is the admission of a proxy request for a stream. -/
def Output.isAdmission (connection : Nat) (streamId : String) : Output → Bool
  | .proxyRequest other stream admitted => other = connection ∧ stream = streamId ∧ admitted
  | _ => false

/-- The output is the rejection of a proxy request for a stream. -/
def Output.isRejection (connection : Nat) (streamId : String) : Output → Bool
  | .proxyRequest other stream admitted => other = connection ∧ stream = streamId ∧ ¬admitted
  | _ => false

/-- The output is the report of a successful connect attempt for a stream. -/
def Output.isSuccess (connection : Nat) (streamId : String) : Output → Bool
  | .streamConnected other stream _ _ => other = connection ∧ stream = streamId
  | _ => false

/-- The output is the successful completion of an accept operation with a stream. -/
def Output.handsOver (connection : Nat) (streamId : String) : Output → Bool
  | .completed (.acceptTunnel _) errorCode (.accepted endpoint _) other =>
    !errorCode.failed && other = connection && endpoint.idName = some streamId
  | _ => false

/-- The proxy request that is read, if it is one. -/
def Input.proxyRequest (input : Input) : Option ProxyConnReq :=
  match input.message with
  | some (.proxyConnReq request) => some request
  | _ => none

/-- The task is a connect attempt for a stream. -/
def Task.attempts (connection : Nat) (streamId : String) (task : Task) : Bool :=
  match task.work with
  | .connectStream _ stream _ _ => task.connection = connection ∧ stream = streamId
  | _ => false

namespace Client

variable {host : Host} {s t u : Client}

/-! ## Counting -/

/-- The proxy requests for a stream of a connection. -/
def requests (s : Client) (connection : Nat) (streamId : String) : Nat :=
  s.log.countP (Output.isRequest connection streamId)

/-- Those that were admitted. -/
def admissions (s : Client) (connection : Nat) (streamId : String) : Nat :=
  s.log.countP (Output.isAdmission connection streamId)

/-- Those that were rejected. -/
def rejections (s : Client) (connection : Nat) (streamId : String) : Nat :=
  s.log.countP (Output.isRejection connection streamId)

/-- The successful connect attempts for a stream. -/
def successes (s : Client) (connection : Nat) (streamId : String) : Nat :=
  s.log.countP (Output.isSuccess connection streamId)

/-- The accept operations that were completed with a stream. -/
def handovers (s : Client) (connection : Nat) (streamId : String) : Nat :=
  s.log.countP (Output.handsOver connection streamId)

/-- The connect attempts in flight for a stream. -/
def attemptsFor (s : Client) (connection : Nat) (streamId : String) : Nat :=
  s.attempts.countP (Task.attempts connection streamId)

/-- One for a stream of a connection, zero for every other. -/
def once (connection : Nat) (streamId : String) (other : Nat) (stream : String) : Nat :=
  if other = connection ∧ stream = streamId then 1 else 0

/-- Zero for every stream. -/
def nothing (_ : Nat) (_ : String) : Nat := 0

/-- Every successful report and every attempt in flight, and those a handler still
may make, comes from an admitted request. -/
def Reported (s : Client) (credit : Nat → String → Nat) : Prop :=
  ∀ connection streamId, s.successes connection streamId + s.attemptsFor connection streamId +
    credit connection streamId ≤ s.admissions connection streamId

/-- Every response and every attempt in flight, and those a handler still may make,
comes from a request. -/
def Budget (s : Client) (credit : Nat → String → Nat) : Prop :=
  ∀ connection streamId, s.responses connection streamId + s.attemptsFor connection streamId +
    credit connection streamId ≤ s.requests connection streamId

/-- A request is admitted or rejected. -/
theorem requests_eq (s : Client) (connection : Nat) (streamId : String) :
    s.requests connection streamId =
      s.admissions connection streamId + s.rejections connection streamId := by
  rw [requests, admissions, rejections]
  induction s.log with
  | nil => rfl
  | cons output log ih =>
    rw [List.countP_cons, List.countP_cons, List.countP_cons, ih]
    cases output with
    | proxyRequest other stream admitted =>
      cases admitted with
      | true | false =>
        simp [Output.isRequest, Output.isAdmission, Output.isRejection]
        omega
    | _ => simp [Output.isRequest, Output.isAdmission, Output.isRejection]

/-- The same requests, reports and attempts. -/
structure SameTally (s t : Client) : Prop where
  attempts : t.attempts = s.attempts
  requests : t.requests = s.requests
  admissions : t.admissions = s.admissions
  successes : t.successes = s.successes

theorem SameTally.trans (first : SameTally s t) (second : SameTally t u) : SameTally s u :=
  ⟨second.attempts.trans first.attempts, second.requests.trans first.requests,
    second.admissions.trans first.admissions, second.successes.trans first.successes⟩

variable {kind : Output → Bool} {output : Output} {endpoint : Endpoint} {change : Tunnel → Tunnel}
  {index : Nat}

theorem countP_streamLog (s : Client)
    (about : ∀ output, kind output = true → output.isStream = true) :
    s.log.countP kind = s.streamLog.countP kind := by
  rw [streamLog, List.countP_filter]
  refine List.countP_congr fun output _ => ?_
  simp only [Bool.and_eq_true]
  exact ⟨fun counted => ⟨counted, about output counted⟩, fun both => both.1⟩

theorem TableKept.countP (kept : TableKept s t)
    (about : ∀ output, kind output = true → output.isStream = true) :
    t.log.countP kind = s.log.countP kind := by
  rw [countP_streamLog t about, countP_streamLog s about, kept.streamLog]

theorem TableKept.mem_log (kept : TableKept s t) (about : output.isStream = true) :
    output ∈ t.log ↔ output ∈ s.log := by
  have filtered (v : Client) : output ∈ v.log ↔ output ∈ v.streamLog := by
    rw [Client.streamLog, List.mem_filter]
    exact ⟨fun mem => ⟨mem, about⟩, fun both => both.1⟩
  rw [filtered t, filtered s, kept.streamLog]

variable {streamId tunnelId : String} {connection generation : Nat} {credit : Nat → String → Nat}
  {peer : PeerId} {container : Container} {owner : Option Nat} {tunnel : Tunnel}

theorem isStream_of_isRequest (output : Output)
    (request : output.isRequest connection streamId = true) : output.isStream = true := by
  cases output with
  | proxyRequest _ _ _ => rfl
  | _ => contradiction

theorem isStream_of_isAdmission (output : Output)
    (admission : output.isAdmission connection streamId = true) : output.isStream = true := by
  cases output with
  | proxyRequest _ _ _ => rfl
  | _ => contradiction

theorem isStream_of_isSuccess (output : Output)
    (success : output.isSuccess connection streamId = true) : output.isStream = true := by
  cases output with
  | streamConnected _ _ _ _ => rfl
  | _ => contradiction

theorem isStream_of_handsOver (output : Output)
    (hands : output.handsOver connection streamId = true) : output.isStream = true := by
  cases output with
  | completed op errorCode value other =>
    cases op with
    | acceptTunnel index =>
      cases value with
      | accepted endpoint peer =>
        simp only [Output.handsOver, Bool.and_eq_true] at hands
        exact hands.1.1
      | _ => contradiction
    | _ => contradiction
  | _ => contradiction

theorem TableKept.sameTally (kept : TableKept s t) : SameTally s t := by
  refine ⟨kept.attempts, ?_, ?_, ?_⟩
  · funext connection streamId
    exact kept.countP isStream_of_isRequest
  · funext connection streamId
    exact kept.countP isStream_of_isAdmission
  · funext connection streamId
    exact kept.countP isStream_of_isSuccess

theorem TableKept.handovers (kept : TableKept s t) : t.handovers = s.handovers := by
  funext connection streamId
  exact kept.countP isStream_of_handsOver

theorem SameTally.reported (same : SameTally s t) (reported : s.Reported credit) :
    t.Reported credit := by
  intro connection streamId
  rw [attemptsFor, same.attempts, same.admissions, same.successes]
  exact reported connection streamId

theorem SameTally.budget (same : SameTally s t) (responses : t.responses = s.responses)
    (budget : s.Budget credit) : t.Budget credit := by
  intro connection streamId
  rw [attemptsFor, same.attempts, same.requests, responses]
  exact budget connection streamId

/-- The credit of a request pays for its response. -/
theorem SameTally.budget_of_answered (same : SameTally s t)
    (answered : ∀ connection other, t.responses connection other ≤
      s.responses connection other + once s.connection streamId connection other)
    (budget : s.Budget (once s.connection streamId)) : t.Budget nothing := by
  intro connection other
  rw [attemptsFor, same.attempts, same.requests]
  have bound := budget connection other
  have response := answered connection other
  rw [nothing]
  rw [attemptsFor] at bound
  omega

theorem Reported.weaken (reported : s.Reported credit) : s.Reported nothing := by
  intro connection streamId
  exact Nat.le_trans (Nat.add_le_add_left (Nat.zero_le _) _) (reported connection streamId)

theorem Budget.weaken (budget : s.Budget credit) : s.Budget nothing := by
  intro connection streamId
  exact Nat.le_trans (Nat.add_le_add_left (Nat.zero_le _) _) (budget connection streamId)

/-! ## Streams and accept operations -/

/-- What holds of the streams while the connection is open. -/
structure Session (s : Client) : Prop where
  waiting : ∀ tunnelId streamId container stream,
    s.streamAt tunnelId streamId = some container → container.ptr = some stream →
    stream.connected = true →
    ∃ owner, Output.streamConnected s.connection streamId stream.peer owner ∈ s.log
  admitted : ∀ tunnelId streamId container, s.streamAt tunnelId streamId = some container →
    0 < s.admissions s.connection streamId
  unhanded : ∀ tunnelId streamId container, s.streamAt tunnelId streamId = some container →
    s.handovers s.connection streamId = 0
  unique : ∀ tunnelId other streamId container container',
    s.streamAt tunnelId streamId = some container → s.streamAt other streamId = some container' →
    tunnelId = other
  peers : ∀ task ∈ s.attempts, ∀ tunnelId streamId peer owner container stream,
    task.generation = s.generation → task.work = .connectStream tunnelId streamId peer owner →
    s.streamAt tunnelId streamId = some container → container.ptr = some stream →
    stream.peer = peer

/-- How streams and accept operations meet. -/
structure Meeting (s : Client) : Prop where
  own : ∀ tunnelId streamId container, s.streamAt tunnelId streamId = some container →
    ∃ stream, container.ptr = some stream
  exclusive : ∀ tunnelId streamId op container stream, s.acceptOn tunnelId = some op →
    s.streamAt tunnelId streamId = some container → container.ptr = some stream →
    stream.connected = false
  bounded : ∀ tunnelId, 0 < s.config.maxOngoingStreams →
    s.streamCount tunnelId ≤ s.config.maxOngoingStreams
  admittedOnce : ∀ connection streamId, s.admissions connection streamId ≤ 1
  handedOnce : ∀ connection streamId,
    s.handovers connection streamId ≤ s.admissions connection streamId
  genuine : ∀ op errorCode value connection,
    Output.completed (.acceptTunnel op) errorCode value connection ∈ s.log →
    errorCode.failed = false → ∃ endpoint peer streamId owner,
      value = .accepted endpoint peer ∧ endpoint.idName = some streamId ∧
      Output.streamConnected connection streamId peer owner ∈ s.log
  session : s.state = .connected → s.Session

theorem Session.of_frame (session : s.Session) (kept : TableKept s t)
    (generation : t.generation = s.generation) (connection : t.connection = s.connection) :
    t.Session where
  waiting := by
    intro tunnelId streamId container stream found ptr connected
    obtain ⟨owner, mem⟩ := session.waiting _ _ _ _ (kept.streams _ _ _ found) ptr connected
    rw [connection]
    exact ⟨owner, (kept.mem_log rfl).mpr mem⟩
  admitted := by
    intro tunnelId streamId container found
    rw [kept.sameTally.admissions, connection]
    exact session.admitted _ _ _ (kept.streams _ _ _ found)
  unhanded := by
    intro tunnelId streamId container found
    rw [kept.handovers, connection]
    exact session.unhanded _ _ _ (kept.streams _ _ _ found)
  unique := by
    intro tunnelId other streamId container container' found foundOther
    exact session.unique _ _ _ _ _ (kept.streams _ _ _ found) (kept.streams _ _ _ foundOther)
  peers := by
    intro task mem tunnelId streamId peer owner container stream current work found ptr
    rw [kept.attempts] at mem
    rw [generation] at current
    exact session.peers task mem _ _ _ _ _ _ current work (kept.streams _ _ _ found) ptr

theorem Session.of_unused (unused : s.Unused) : s.Session := by
  have absent (tunnelId streamId : String) (container : Container)
      (found : s.streamAt tunnelId streamId = some container) : False := by
    rw [(unused tunnelId).2 streamId] at found
    contradiction
  refine ⟨?_, ?_, ?_, ?_, ?_⟩
  · intro tunnelId streamId container _ found
    exact (absent _ _ _ found).elim
  · intro tunnelId streamId container found
    exact (absent _ _ _ found).elim
  · intro tunnelId streamId container found
    exact (absent _ _ _ found).elim
  · intro tunnelId other streamId container _ found
    exact (absent _ _ _ found).elim
  · intro task mem tunnelId streamId peer owner container stream current work found
    exact (absent _ _ _ found).elim

namespace Meeting

theorem of_frame (meeting : s.Meeting) (frame : TableFrame s t) : t.Meeting where
  own := fun _ _ _ found => meeting.own _ _ _ (frame.streams _ _ _ found)
  exclusive := by
    intro tunnelId streamId op container stream stored found
    rcases frame.accept tunnelId with kept | lost
    · exact meeting.exclusive _ _ op _ _ (kept ▸ stored) (frame.streams _ _ _ found)
    · rw [lost] at stored
      contradiction
  bounded := by
    intro tunnelId limited
    rw [frame.config] at limited ⊢
    exact Nat.le_trans (frame.count tunnelId) (meeting.bounded tunnelId limited)
  admittedOnce := by
    rw [frame.sameTally.admissions]
    exact meeting.admittedOnce
  handedOnce := by
    rw [frame.sameTally.admissions, frame.handovers]
    exact meeting.handedOnce
  genuine := by
    intro op errorCode value connection mem succeeded
    have about : (Output.completed (.acceptTunnel op) errorCode value connection).isStream = true :=
      by simp [Output.isStream, succeeded]
    obtain ⟨endpoint, peer, streamId, owner, accepted, named, reported⟩ :=
      meeting.genuine op errorCode value connection ((frame.mem_log about).mp mem) succeeded
    exact ⟨endpoint, peer, streamId, owner, accepted, named, (frame.mem_log rfl).mpr reported⟩
  session := by
    intro connected
    rcases frame.live connected with ⟨before, generation, connection⟩ | unused
    · exact (meeting.session before).of_frame frame.toTableKept generation connection
    · exact .of_unused unused

end Meeting

/-! ## A stream is handed over -/

theorem handovers_settle (s : Client) (op : Nat) (endpoint : Endpoint) (peer : PeerId)
    (named : endpoint.idName = some streamId) (connection : Nat) (other : String) :
    (s.settle (.acceptTunnel op) .none (.accepted endpoint peer)).handovers connection other =
      s.handovers connection other + once s.connection streamId connection other := by
  rw [handovers, settle_log, List.countP_append, List.countP_singleton, handovers, once]
  congr 1
  refine if_congr ?_ rfl rfl
  simp only [Output.handsOver, named, ErrorCode.failed_none, Bool.not_false, Bool.true_and,
    Bool.and_eq_true, decide_eq_true_eq, Option.some_inj]
  exact and_congr eq_comm eq_comm

theorem sameTally_settle (s : Client) (op : OpId) (errorCode : ErrorCode) (value : Value) :
    SameTally s (s.settle op errorCode value) := by
  refine ⟨rfl, ?_, ?_, ?_⟩
  · funext connection streamId
    rw [requests, settle_log, List.countP_append]
    rfl
  · funext connection streamId
    rw [admissions, settle_log, List.countP_append]
    rfl
  · funext connection streamId
    rw [successes, settle_log, List.countP_append]
    rfl

theorem Meeting.accepted (meeting : s.Meeting) (op : Nat) (named : endpoint.idName = some streamId)
    (absent : ∀ tunnelId, s.streamAt tunnelId streamId = none)
    (admitted : 0 < s.admissions s.connection streamId)
    (unhanded : s.handovers s.connection streamId = 0)
    (reported : ∃ owner, Output.streamConnected s.connection streamId peer owner ∈ s.log) :
    (s.completeAcceptTunnel op .none (.accepted endpoint peer)).Meeting := by
  unfold completeAcceptTunnel
  cases pending : (s.ops (.acceptTunnel op)).completed with
  | true =>
    rw [complete_of_completed pending]
    exact meeting
  | false =>
    rw [complete_of_pending pending]
    have tally := sameTally_settle s (.acceptTunnel op) .none (.accepted endpoint peer)
    have handed := handovers_settle s op endpoint peer named
    have later {output : Output} (mem : output ∈ s.log) :
        output ∈ (s.settle (.acceptTunnel op) .none (.accepted endpoint peer)).log :=
      List.mem_append_left _ mem
    refine ⟨meeting.own, meeting.exclusive, meeting.bounded, ?_, ?_, ?_, fun connected => ?_⟩
    · rw [tally.admissions]
      exact meeting.admittedOnce
    · intro connection other
      rw [tally.admissions, handed, once]
      have bound := meeting.handedOnce connection other
      split
      · rename_i same
        obtain ⟨rfl, rfl⟩ := same
        omega
      · omega
    · intro index errorCode value connection mem succeeded
      rw [settle_log, List.mem_append, List.mem_singleton] at mem
      rcases mem with before | new
      · obtain ⟨endpoint, peer, streamId, owner, accepted, named, mem⟩ :=
          meeting.genuine index errorCode value connection before succeeded
        exact ⟨endpoint, peer, streamId, owner, accepted, named, later mem⟩
      · cases new
        obtain ⟨owner, mem⟩ := reported
        exact ⟨endpoint, peer, streamId, owner, rfl, named, later mem⟩
    · have session := meeting.session connected
      refine ⟨?_, ?_, ?_, session.unique, session.peers⟩
      · intro tunnelId other container stream found ptr waiting
        obtain ⟨owner, mem⟩ := session.waiting tunnelId other container stream found ptr waiting
        exact ⟨owner, later mem⟩
      · rw [tally.admissions]
        exact session.admitted
      · intro tunnelId other container found
        have apart : other ≠ streamId := by
          rintro rfl
          have present : s.streamAt tunnelId other = some container := found
          rw [absent tunnelId] at present
          contradiction
        rw [handed, once, if_neg fun both => apart both.2]
        exact session.unhanded tunnelId other container found

theorem Session.absent_of_erased (session : s.Session)
    (found : s.streamAt tunnelId streamId = some container)
    (erases : ∀ t, (change t).streams = t.streams.erase streamId) (other : String) :
    (s.modifyTunnel tunnelId change).streamAt other streamId = none := by
  rw [streamAt_modifyTunnel]
  by_cases same : tunnelId = other
  · rw [if_pos same]
    cases s.tunnels[other]? with
    | none => rfl
    | some tunnel =>
      rw [Option.bind_some, erases, getElem?_erase, if_pos rfl]
  · rw [if_neg same]
    cases elsewhere : s.streamAt other streamId with
    | none => rfl
    | some container' => exact absurd (session.unique _ _ _ _ _ found elsewhere) same

theorem Meeting.handedOver (meeting : s.Meeting) (connected : s.state = .connected)
    (found : s.streamAt tunnelId streamId = some container)
    (reported : ∃ owner, Output.streamConnected s.connection streamId peer owner ∈ s.log)
    (erases : ∀ t, (change t).streams = t.streams.erase streamId)
    (within : ∀ t, (change t).Within t) (op : Nat) (named : endpoint.idName = some streamId) :
    ((s.completeAcceptTunnel op .none (.accepted endpoint peer)).modifyTunnel tunnelId
      change).Meeting := by
  have session := meeting.session connected
  have erased : (s.modifyTunnel tunnelId change).Meeting :=
    meeting.of_frame (.of_live (.modifyTunnel s tunnelId within) rfl rfl rfl)
  rw [completeAcceptTunnel, ← complete_modifyTunnel]
  exact erased.accepted op named (session.absent_of_erased found erases)
    (session.admitted _ _ _ found) (session.unhanded _ _ _ found) reported

/-! ## A stream is connected and waits -/

/-- A stream of a tunnel is marked connected. -/
def connectIn (streamId : String) (tunnel : Tunnel) : Tunnel :=
  { tunnel with streams := tunnel.streams.modify streamId fun c =>
      { c with ptr := c.ptr.map fun stream => { stream with connected := true } } }

theorem streamAt_markConnected {other otherStream : String}
    (found : (s.modifyTunnel tunnelId (connectIn streamId)).streamAt
        other otherStream = some container) :
    s.streamAt other otherStream = some container ∨
      other = tunnelId ∧ otherStream = streamId ∧ ∃ before,
        s.streamAt tunnelId streamId = some before ∧ container =
          { before with ptr := before.ptr.map fun stream => { stream with connected := true } } := by
  rw [streamAt_modifyTunnel] at found
  split at found
  · rename_i same
    subst same
    obtain ⟨tunnel, present, stream⟩ := Option.bind_eq_some_iff.mp found
    rw [connectIn, getElem?_modify] at stream
    split at stream
    · rename_i sameStream
      subst sameStream
      obtain ⟨before, foundBefore, rfl⟩ := Option.map_eq_some_iff.mp stream
      exact .inr ⟨rfl, rfl, before, by rw [streamAt_of_found present, foundBefore], rfl⟩
    · exact .inl (by rw [streamAt_of_found present, stream])
  · exact .inl found

theorem Meeting.markConnected (meeting : s.Meeting) (free : s.acceptOn tunnelId = none)
    (reported : ∀ container stream, s.streamAt tunnelId streamId = some container →
      container.ptr = some stream →
      ∃ owner, Output.streamConnected s.connection streamId stream.peer owner ∈ s.log) :
    (s.modifyTunnel tunnelId (connectIn streamId)).Meeting := by
  have accept (other : String) : (s.modifyTunnel tunnelId (connectIn streamId)).acceptOn
        other = s.acceptOn other := by
    rw [acceptOn_modifyTunnel]
    split <;> rfl
  -- a stream keeps its socket, and only the reported one becomes connected
  have stream {other otherStream : String} {container : Container} {stream : Stream}
      (found : (s.modifyTunnel tunnelId (connectIn streamId)).streamAt
          other otherStream = some container) (ptr : container.ptr = some stream) :
      ∃ before earlier, s.streamAt other otherStream = some before ∧
        before.ptr = some earlier ∧ stream.peer = earlier.peer ∧
        (stream = earlier ∨ other = tunnelId ∧ otherStream = streamId) := by
    rcases streamAt_markConnected found with same | ⟨rfl, rfl, before, present, rfl⟩
    · exact ⟨container, stream, same, ptr, rfl, .inl rfl⟩
    · obtain ⟨earlier, foundEarlier, rfl⟩ := Option.map_eq_some_iff.mp ptr
      exact ⟨before, earlier, present, foundEarlier, rfl, .inr ⟨rfl, rfl⟩⟩
  have present {other otherStream : String} {container : Container}
      (found : (s.modifyTunnel tunnelId (connectIn streamId)).streamAt
          other otherStream = some container) :
      ∃ before, s.streamAt other otherStream = some before := by
    rcases streamAt_markConnected found with same | ⟨rfl, rfl, before, present, -⟩
    · exact ⟨container, same⟩
    · exact ⟨before, present⟩
  refine ⟨?_, ?_, ?_, meeting.admittedOnce, meeting.handedOnce, meeting.genuine, ?_⟩
  · intro other otherStream container found
    rcases streamAt_markConnected found with same | ⟨rfl, rfl, before, foundBefore, rfl⟩
    · exact meeting.own _ _ _ same
    · obtain ⟨earlier, ptr⟩ := meeting.own _ _ _ foundBefore
      exact ⟨_, by rw [ptr]; rfl⟩
  · intro other otherStream op container found stored present ptr
    rw [accept] at stored
    obtain ⟨before, earlier, foundBefore, ptrBefore, -, rfl | ⟨rfl, -⟩⟩ := stream present ptr
    · exact meeting.exclusive _ _ op _ _ stored foundBefore ptrBefore
    · rw [free] at stored
      contradiction
  · intro other limited
    refine Nat.le_trans (Nat.le_of_eq ?_) (meeting.bounded other limited)
    rw [streamCount, streamCount, modifyTunnel_tunnels, getElem?_modify]
    split
    · cases s.tunnels[other]? with
      | none => rfl
      | some tunnel => exact TreeMap.size_modify
    · rfl
  · intro connected
    have session := meeting.session connected
    refine ⟨?_, ?_, ?_, ?_, ?_⟩
    · intro other otherStream container stream' found ptr waits
      obtain ⟨before, earlier, foundBefore, ptrBefore, peer, same⟩ := stream found ptr
      rcases same with rfl | ⟨rfl, rfl⟩
      · exact session.waiting _ _ _ _ foundBefore ptrBefore waits
      · rw [peer]
        exact reported _ _ foundBefore ptrBefore
    · intro other otherStream container found
      obtain ⟨before, foundBefore⟩ := present found
      exact session.admitted _ _ _ foundBefore
    · intro other otherStream container found
      obtain ⟨before, foundBefore⟩ := present found
      exact session.unhanded _ _ _ foundBefore
    · intro other another otherStream container container' found foundAnother
      obtain ⟨before, foundBefore⟩ := present found
      obtain ⟨before', foundBefore'⟩ := present foundAnother
      exact session.unique _ _ _ _ _ foundBefore foundBefore'
    · intro task mem other otherStream peer owner container stream' current work found ptr
      obtain ⟨before, earlier, foundBefore, ptrBefore, samePeer, -⟩ := stream found ptr
      rw [samePeer]
      exact session.peers task mem _ _ _ _ _ _ current work foundBefore ptrBefore

/-! ## A stream is admitted and its attempt starts -/

theorem streamCount_admitStream_le (s : Client) (tunnelId streamId : String)
    (context : StreamContext) (other : String) :
    (s.admitStream tunnelId streamId context).streamCount other ≤
      s.streamCount other + if tunnelId = other then 1 else 0 := by
  have tunnels : (s.admitStream tunnelId streamId context).tunnels =
      s.tunnels.modify tunnelId fun t =>
        { t with streams := t.streams.insertIfNew streamId (s.newContainer context) } := rfl
  rw [streamCount, tunnels, getElem?_modify, streamCount]
  split
  · cases s.tunnels[other]? with
    | none => exact zero_le _
    | some tunnel => exact TreeMap.size_insertIfNew_le
  · exact Nat.le_refl _

theorem requests_admitStream (s : Client) (tunnelId streamId : String) (context : StreamContext)
    (connection : Nat) (other : String) :
    (s.admitStream tunnelId streamId context).requests connection other =
        s.requests connection other + once s.connection streamId connection other ∧
      (s.admitStream tunnelId streamId context).admissions connection other =
        s.admissions connection other + once s.connection streamId connection other := by
  have log : (s.admitStream tunnelId streamId context).log =
      s.log ++ [Output.proxyRequest s.connection streamId true] := rfl
  refine ⟨?_, ?_⟩
  · rw [requests, log, List.countP_append, List.countP_singleton, requests, once]
    congr 1
    refine if_congr ?_ rfl rfl
    simp only [Output.isRequest, decide_eq_true_eq]
    exact and_congr eq_comm eq_comm
  · rw [admissions, log, List.countP_append, List.countP_singleton, admissions, once]
    congr 1
    refine if_congr ?_ rfl rfl
    simp only [Output.isAdmission, decide_eq_true_eq, and_true]
    exact and_congr eq_comm eq_comm

theorem counts_request (s : Client) (streamId : String) (admitted : Bool)
    (log : t.log = s.log ++ [.proxyRequest s.connection streamId admitted]) :
    t.successes = s.successes ∧ t.handovers = s.handovers ∧ t.responses = s.responses := by
  refine ⟨?_, ?_, ?_⟩
  · funext connection other
    rw [successes, log, List.countP_append]
    rfl
  · funext connection other
    rw [handovers, log, List.countP_append]
    rfl
  · exact responses_of_other log fun _ _ => rfl

theorem Meeting.fresh (meeting : s.Meeting) (budget : s.Budget nothing)
    (first : s.requests connection streamId = 0) :
    s.admissions connection streamId = 0 ∧ s.handovers connection streamId = 0 ∧
      s.attemptsFor connection streamId = 0 := by
  have admitted : s.admissions connection streamId ≤ s.requests connection streamId := by
    refine List.countP_mono_left fun output _ counted => ?_
    cases output with
    | proxyRequest other stream admitted =>
      simp only [Output.isAdmission, Output.isRequest, decide_eq_true_eq] at counted ⊢
      exact ⟨counted.1, counted.2.1⟩
    | _ => contradiction
  have attempted := budget connection streamId
  have handed := meeting.handedOnce connection streamId
  refine ⟨?_, ?_, ?_⟩
  · omega
  · omega
  · omega

theorem WellFormed.attemptsFor_pos (wellFormed : s.WellFormed) {task : Task}
    (mem : task ∈ s.attempts) (current : task.generation = s.generation)
    (work : task.work = .connectStream tunnelId streamId peer owner) :
    0 < s.attemptsFor s.connection streamId := by
  have connection := wellFormed.connection_eq (List.mem_of_mem_filter mem) current
  refine List.countP_pos_iff.mpr ⟨task, mem, ?_⟩
  rw [Task.attempts, work]
  exact decide_eq_true ⟨connection, rfl⟩

theorem Meeting.admitStream (meeting : s.Meeting) (wellFormed : s.WellFormed)
    (budget : s.Budget nothing) (mode : s.config.asyncStreamOperation = true)
    (tunnelFound : s.tunnels[tunnelId]? = some tunnel) (room : ¬(s.config.maxOngoingStreams > 0 ∧
      tunnel.streams.size ≥ s.config.maxOngoingStreams))
    (first : s.requests s.connection streamId = 0) (context : StreamContext) :
    (s.admitStream tunnelId streamId context).Meeting := by
  obtain ⟨unadmitted, unhanded, unattempted⟩ := meeting.fresh budget first
  have counts := requests_admitStream s tunnelId streamId context
  have handed := (counts_request (t := s.admitStream tunnelId streamId context) s streamId true
    rfl).2.1
  have accept := acceptOn_admitStream s tunnelId streamId context
  have new : (s.newContainer context).ptr = some { peer := s.nextPeer } := by
    rw [newContainer, if_pos mode]
  refine ⟨?_, ?_, ?_, ?_, ?_, ?_, fun connected => ?_⟩
  · intro other otherStream container found
    rcases streamAt_admitStream found with before | ⟨rfl, rfl, rfl⟩
    · exact meeting.own _ _ _ before
    · exact ⟨_, new⟩
  · intro other otherStream op container stream stored found ptr
    rw [accept] at stored
    rcases streamAt_admitStream found with before | ⟨rfl, rfl, rfl⟩
    · exact meeting.exclusive _ _ op _ _ stored before ptr
    · rw [new, Option.some_inj] at ptr
      rw [← ptr]
  · intro other limited
    have limited : 0 < s.config.maxOngoingStreams := limited
    have bound := meeting.bounded other limited
    have grown := streamCount_admitStream_le s tunnelId streamId context other
    have config : (s.admitStream tunnelId streamId context).config = s.config := rfl
    rw [config]
    by_cases same : tunnelId = other
    · rw [if_pos same, ← same, streamCount_of_found tunnelFound] at grown
      rw [← same]
      omega
    · rw [if_neg same] at grown
      omega
  · intro connection other
    rw [(counts connection other).2, once]
    have bound := meeting.admittedOnce connection other
    split
    · rename_i same
      obtain ⟨rfl, rfl⟩ := same
      omega
    · omega
  · intro connection other
    rw [(counts connection other).2, handed]
    have bound := meeting.handedOnce connection other
    omega
  · intro op errorCode value connection mem succeeded
    have before : Output.completed (.acceptTunnel op) errorCode value connection ∈ s.log := by
      rcases List.mem_append.mp mem with before | new
      · exact before
      · simp at new
    obtain ⟨endpoint, peer, stream, owner, accepted, named, mem⟩ :=
      meeting.genuine op errorCode value connection before succeeded
    exact ⟨endpoint, peer, stream, owner, accepted, named, List.mem_append_left _ mem⟩
  · have session := meeting.session connected
    have connectionKept : (s.admitStream tunnelId streamId context).connection = s.connection := rfl
    have elsewhere {other : String} {container : Container}
        (found : s.streamAt other streamId = some container) : False := by
      have positive := session.admitted _ _ _ found
      omega
    refine ⟨?_, ?_, ?_, ?_, ?_⟩
    · intro other otherStream container stream found ptr waits
      rcases streamAt_admitStream found with before | ⟨rfl, rfl, rfl⟩
      · obtain ⟨owner, mem⟩ := session.waiting _ _ _ _ before ptr waits
        exact ⟨owner, List.mem_append_left _ mem⟩
      · rw [new, Option.some_inj] at ptr
        rw [← ptr] at waits
        contradiction
    · intro other otherStream container found
      rw [connectionKept, (counts s.connection otherStream).2]
      rcases streamAt_admitStream found with before | ⟨rfl, rfl, rfl⟩
      · exact Nat.lt_of_lt_of_le (session.admitted _ _ _ before) (Nat.le_add_right _ _)
      · rw [once, if_pos ⟨rfl, rfl⟩]
        exact succ_pos _
    · intro other otherStream container found
      rw [connectionKept, handed]
      rcases streamAt_admitStream found with before | ⟨rfl, rfl, rfl⟩
      · exact session.unhanded _ _ _ before
      · exact unhanded
    · intro other another otherStream container container' found foundAnother
      rcases streamAt_admitStream found with before | ⟨rfl, rfl, -⟩
      · rcases streamAt_admitStream foundAnother with beforeAnother | ⟨rfl, rfl, -⟩
        · exact session.unique _ _ _ _ _ before beforeAnother
        · exact (elsewhere before).elim
      · rcases streamAt_admitStream foundAnother with beforeAnother | ⟨rfl, -, -⟩
        · exact (elsewhere beforeAnother).elim
        · rfl
    · intro task mem other otherStream peer owner container stream current work found ptr
      rcases streamAt_admitStream found with before | ⟨rfl, rfl, rfl⟩
      · exact session.peers task mem _ _ _ _ _ _ current work before ptr
      · have positive := wellFormed.attemptsFor_pos mem current work
        omega

theorem Meeting.emit (meeting : s.Meeting)
    (admits : ∀ connection streamId, output.isAdmission connection streamId = false)
    (completes : ∀ op, output.completes (.acceptTunnel op) = false) : (s.emit output).Meeting := by
  have hands (connection : Nat) (streamId : String) :
      output.handsOver connection streamId = false := by
    cases output with
    | completed op errorCode value other =>
      cases op with
      | acceptTunnel index => simp [Output.completes] at completes
      | _ => rfl
    | _ => rfl
  have admissions : (s.emit output).admissions = s.admissions := by
    funext connection streamId
    rw [Client.admissions, emit_log, List.countP_append, List.countP_singleton, admits]
    rfl
  have handovers : (s.emit output).handovers = s.handovers := by
    funext connection streamId
    rw [Client.handovers, emit_log, List.countP_append, List.countP_singleton, hands]
    rfl
  refine ⟨meeting.own, meeting.exclusive, meeting.bounded, ?_, ?_, ?_, fun connected => ?_⟩
  · rw [admissions]
    exact meeting.admittedOnce
  · rw [admissions, handovers]
    exact meeting.handedOnce
  · intro op errorCode value connection mem succeeded
    have before : Output.completed (.acceptTunnel op) errorCode value connection ∈ s.log := by
      rcases List.mem_append.mp mem with before | new
      · exact before
      · rw [List.mem_singleton] at new
        have none := completes op
        rw [← new] at none
        simp [Output.completes] at none
    obtain ⟨endpoint, peer, stream, owner, accepted, named, mem⟩ :=
      meeting.genuine op errorCode value connection before succeeded
    exact ⟨endpoint, peer, stream, owner, accepted, named, List.mem_append_left _ mem⟩
  · have session := meeting.session connected
    refine ⟨?_, ?_, ?_, session.unique, session.peers⟩
    · intro tunnelId streamId container stream found ptr waits
      obtain ⟨owner, mem⟩ := session.waiting _ _ _ _ found ptr waits
      exact ⟨owner, List.mem_append_left _ mem⟩
    · rw [admissions]
      exact session.admitted
    · rw [handovers]
      exact session.unhanded

theorem Meeting.attempt (meeting : s.Meeting) (holds : ∀ container stream,
      s.streamAt tunnelId streamId = some container → container.ptr = some stream →
      stream.peer = peer) : (s.start (.connectStream tunnelId streamId peer owner)).Meeting := by
  refine ⟨meeting.own, meeting.exclusive, meeting.bounded, meeting.admittedOnce,
    meeting.handedOnce, meeting.genuine, fun connected => ?_⟩
  have session := meeting.session connected
  refine ⟨session.waiting, session.admitted, session.unhanded, session.unique, ?_⟩
  intro task mem other otherStream otherPeer otherOwner container stream current work found ptr
  rw [attempts_start, List.mem_append, List.mem_singleton] at mem
  rcases mem with before | rfl
  · exact session.peers task before _ _ _ _ _ _ current work found ptr
  · cases work
    exact holds container stream found ptr

theorem Meeting.storeAccept (meeting : s.Meeting) (tunnelFound : s.tunnels[tunnelId]? = some tunnel)
    (none : connectedStream tunnel = none) (op : Nat) : (s.storeAccept tunnelId op).Meeting := by
  have streams := streamAt_storeAccept s tunnelId op
  have count (other : String) :
      (s.storeAccept tunnelId op).streamCount other = s.streamCount other := by
    rw [streamCount, streamCount, Client.storeAccept, modifyTunnel_tunnels,
      getElem?_modify]
    split
    · cases s.tunnels[other]? with
      | none | some tunnel => rfl
    · rfl
  refine ⟨?_, ?_, ?_, meeting.admittedOnce, meeting.handedOnce, meeting.genuine,
    fun connected => ?_⟩
  · intro other streamId container found
    rw [streams] at found
    exact meeting.own _ _ _ found
  · intro other streamId index container stream stored found ptr
    rw [streams] at found
    by_cases same : tunnelId = other
    · subst same
      rw [streamAt_of_found tunnelFound] at found
      have mem : (streamId, container) ∈ tunnel.streams.toList :=
        TreeMap.mem_toList_iff_getElem?_eq_some.mpr found
      have unconnected := List.find?_eq_none.mp none _ mem
      simpa [ptr] using unconnected
    · rw [Client.storeAccept, acceptOn_modifyTunnel, if_neg same] at stored
      exact meeting.exclusive _ _ index _ _ stored found ptr
  · intro other limited
    rw [count]
    exact meeting.bounded other limited
  · have session := meeting.session connected
    refine ⟨?_, ?_, ?_, ?_, ?_⟩
    · intro other streamId container stream found
      rw [streams] at found
      exact session.waiting _ _ _ _ found
    · intro other streamId container found
      rw [streams] at found
      exact session.admitted _ _ _ found
    · intro other streamId container found
      rw [streams] at found
      exact session.unhanded _ _ _ found
    · intro other another streamId container container' found foundAnother
      rw [streams] at found foundAnother
      exact session.unique _ _ _ _ _ found foundAnother
    · intro task mem other streamId peer owner container stream current work found
      rw [streams] at found
      exact session.peers task mem _ _ _ _ _ _ current work found

/-! ## Handlers -/

/-- The report for a stream was preceded by the success of the socket it holds. -/
def Genuine (s : Client) (generation : Nat) (tunnelId streamId : String) (errorCode : ErrorCode) :
    Prop :=
  errorCode.failed = false → generation = s.generation → s.state = .connected →
    ∀ container stream, s.streamAt tunnelId streamId = some container →
      container.ptr = some stream →
      ∃ owner, Output.streamConnected s.connection streamId stream.peer owner ∈ s.log

theorem Meeting.settleStream (meeting : s.Meeting) (connected : s.state = .connected)
    (tunnelFound : s.tunnels[tunnelId]? = some tunnel)
    (found : tunnel.streams[streamId]? = some container) (errorCode : ErrorCode)
    (genuine : errorCode.failed = false → ∀ container stream,
      s.streamAt tunnelId streamId = some container → container.ptr = some stream →
      ∃ owner, Output.streamConnected s.connection streamId stream.peer owner ∈ s.log) :
    (s.settleStream tunnelId streamId tunnel container errorCode).Meeting := by
  have present : s.streamAt tunnelId streamId = some container := by
    rw [streamAt_of_found tunnelFound, found]
  obtain ⟨stream, ptr⟩ := meeting.own _ _ _ present
  unfold Client.settleStream
  by_cases failed : errorCode.failed = true
  · rw [if_pos failed]
    exact meeting.of_frame (.of_live (.modifyTunnel s tunnelId fun t =>
      within_erase t streamId (.inl rfl)) rfl rfl rfl)
  · rw [if_neg failed]
    have reported := genuine (by simpa using failed)
    rw [ptr]
    cases stored : tunnel.acceptOp with
    | some op =>
      exact meeting.handedOver connected present (reported container stream present ptr)
        (fun _ => rfl) (fun t => within_erase t streamId (.inr rfl)) op rfl
    | none =>
      have free : s.acceptOn tunnelId = none := by rw [acceptOn_of_found tunnelFound, stored]
      exact meeting.markConnected free reported

theorem Meeting.onConnectStream (meeting : s.Meeting) (host : Host) {errorCode : ErrorCode}
    (genuine : s.Genuine generation tunnelId streamId errorCode) :
    (s.onConnectStream host generation tunnelId streamId errorCode).Meeting := by
  rcases onConnectStream_cases host s generation tunnelId streamId errorCode with
    ⟨-, answered⟩ | ⟨tunnel, container, current, connected, tunnelFound, found, answered⟩
  · exact meeting.of_frame answered.table
  · obtain ⟨ops, released⟩ := releaseBusy_frame s tunnel
    have before := meeting.of_frame (tableFrame_releaseBusy s tunnel)
    rw [released] at before answered
    refine Meeting.of_frame ?_ answered.table
    exact before.settleStream connected tunnelFound found errorCode
      fun succeeded => genuine succeeded current connected

theorem sameTally_completeAcceptTunnel (s : Client) (op : Nat) (value : Value) :
    SameTally s (s.completeAcceptTunnel op .none value) ∧
      (s.completeAcceptTunnel op .none value).responses = s.responses := by
  unfold completeAcceptTunnel
  cases pending : (s.ops (.acceptTunnel op)).completed with
  | true =>
    rw [complete_of_completed pending]
    exact ⟨⟨rfl, rfl, rfl, rfl⟩, rfl⟩
  | false =>
    rw [complete_of_pending pending]
    exact ⟨sameTally_settle s _ _ _, responses_of_other rfl fun _ _ => rfl⟩

theorem sameTally_settleStream (s : Client) (tunnelId streamId : String) (tunnel : Tunnel)
    (container : Container) (errorCode : ErrorCode) :
    SameTally s (s.settleStream tunnelId streamId tunnel container errorCode) ∧
      (s.settleStream tunnelId streamId tunnel container errorCode).responses = s.responses := by
  unfold settleStream
  split
  · exact ⟨⟨rfl, rfl, rfl, rfl⟩, rfl⟩
  · split
    · rename_i ptr op _
      dsimp only
      generalize Value.accepted _ _ = value
      obtain ⟨tally, responses⟩ := sameTally_completeAcceptTunnel s op value
      exact ⟨⟨tally.attempts, tally.requests, tally.admissions, tally.successes⟩, responses⟩
    · exact ⟨⟨rfl, rfl, rfl, rfl⟩, rfl⟩
    · exact ⟨⟨rfl, rfl, rfl, rfl⟩, rfl⟩

/-- The report of an attempt changes the tally by at most one response. -/
theorem sameTally_onConnectStream (host : Host) (s : Client) (generation : Nat)
    (tunnelId streamId : String) (errorCode : ErrorCode) :
    SameTally s (s.onConnectStream host generation tunnelId streamId errorCode) ∧
      ∀ connection other,
        (s.onConnectStream host generation tunnelId streamId errorCode).responses connection other ≤
          s.responses connection other + once s.connection streamId connection other := by
  rcases onConnectStream_cases host s generation tunnelId streamId errorCode with
    ⟨-, answered⟩ | ⟨tunnel, container, -, -, -, -, answered⟩
  · exact ⟨answered.table.sameTally, answered.responses⟩
  · obtain ⟨ops, released⟩ := releaseBusy_frame s tunnel
    rw [released] at answered
    obtain ⟨tally, responses⟩ := sameTally_settleStream { s with ops := ops } tunnelId streamId
      tunnel container errorCode
    refine ⟨?_, fun connection other => ?_⟩
    · exact SameTally.trans ⟨tally.attempts, tally.requests, tally.admissions, tally.successes⟩
        answered.table.sameTally
    · have bound := answered.responses connection other
      rw [responses] at bound
      refine Nat.le_trans bound (Nat.le_of_eq ?_)
      obtain ⟨_, _, _, framed⟩ := settleStream_frame { s with ops := ops } tunnelId streamId tunnel
        container errorCode
      rw [framed]
      rfl

/-- The invariant of the asynchronous mode. -/
structure AsyncStreams (s : Client) : Prop where
  mode : s.config.asyncStreamOperation = true
  meeting : s.Meeting
  reported : s.Reported nothing
  budget : s.Budget nothing

theorem AsyncStreams.of_quiet (streams : s.AsyncStreams) (quiet : Quiet s t) : t.AsyncStreams where
  mode := by
    rw [quiet.table.config]
    exact streams.mode
  meeting := streams.meeting.of_frame quiet.table
  reported := quiet.table.sameTally.reported streams.reported
  budget := quiet.table.sameTally.budget quiet.responses streams.budget

/-! ## The three steps -/

theorem attemptsFor_eq (s : Client) (connection : Nat) (streamId : String) :
    s.attemptsFor connection streamId = s.tasks.countP (Task.attempts connection streamId) := by
  rw [attemptsFor, attempts, List.countP_filter]
  refine List.countP_congr fun task _ => ?_
  obtain ⟨generation, connection, work⟩ := task
  cases work with
  | connectStream _ _ _ _ => simp [Work.isConnectStream]
  | _ => simp [Task.attempts]

/-- The attempts in flight before and after one of them reports. -/
theorem attemptsFor_takeTask (found : s.tasks[index]? =
      some ⟨generation, connection, .connectStream tunnelId streamId peer owner⟩) (other : Nat)
    (stream : String) :
    s.attemptsFor other stream =
      (s.takeTask index).attemptsFor other stream + once connection streamId other stream := by
  rw [attemptsFor_eq, attemptsFor_eq, countP_of_taken found, once]
  congr 1
  refine if_congr ?_ rfl rfl
  simp only [Task.attempts, decide_eq_true_eq]
  exact and_congr eq_comm eq_comm

theorem attemptsFor_start (s : Client) (tunnelId streamId : String) (peer : PeerId)
    (owner : Option Nat) (connection : Nat) (other : String) :
    (s.start (.connectStream tunnelId streamId peer owner)).attemptsFor connection other =
      s.attemptsFor connection other + once s.connection streamId connection other := by
  rw [attemptsFor, attempts_start, List.countP_append, List.countP_singleton, attemptsFor, once]
  congr 1
  refine if_congr ?_ rfl rfl
  simp only [Task.attempts, decide_eq_true_eq]
  exact and_congr eq_comm eq_comm

/-- Taking an attempt keeps the meeting; the others are still in flight. -/
theorem Meeting.takeTask (meeting : s.Meeting) (index : Nat) : (s.takeTask index).Meeting := by
  refine ⟨meeting.own, meeting.exclusive, meeting.bounded, meeting.admittedOnce,
    meeting.handedOnce, meeting.genuine, fun connected => ?_⟩
  have session := meeting.session connected
  refine ⟨session.waiting, session.admitted, session.unhanded, session.unique, ?_⟩
  intro task mem
  obtain ⟨left, kind⟩ := List.mem_filter.mp mem
  exact session.peers task (List.mem_filter.mpr ⟨List.mem_of_mem_eraseIdx left, kind⟩)

theorem AsyncStreams.reports (streams : s.AsyncStreams) (wellFormed : s.WellFormed)
    (found : s.tasks[index]? =
      some ⟨generation, connection, .connectStream tunnelId streamId peer owner⟩) (input : Input) :
    ((s.takeTask index).perform host
      ⟨generation, connection, .connectStream tunnelId streamId peer owner⟩ input).AsyncStreams := by
  have mem := mem_of_taken found
  have attempt : ⟨generation, connection, .connectStream tunnelId streamId peer owner⟩ ∈
      s.attempts := List.mem_filter.mpr ⟨mem, rfl⟩
  have taken := attemptsFor_takeTask found
  have meeting := streams.meeting.takeTask index
  have reported : (s.takeTask index).Reported (once connection streamId) := by
    intro other stream
    have bound := streams.reported other stream
    rw [taken, nothing] at bound
    rw [← Nat.add_zero (_ + _ + _), Nat.add_assoc (Client.successes _ _ _)]
    exact bound
  have budget : (s.takeTask index).Budget (once connection streamId) := by
    intro other stream
    have bound := streams.budget other stream
    rw [taken, nothing] at bound
    rw [← Nat.add_zero (_ + _ + _), Nat.add_assoc (Client.responses _ _ _)]
    exact bound
  -- the state in which `on_connect_stream` runs
  have settled (v : Client) (config : v.config = s.config) (meets : v.Meeting)
      (tallied : v.Reported nothing) (affords : v.Budget (once connection streamId))
      (generationKept : v.generation = s.generation) (connectionKept : v.connection = s.connection)
      (genuine : v.Genuine generation tunnelId streamId input.errorCode) :
      (v.onConnectStream host generation tunnelId streamId input.errorCode).AsyncStreams := by
    by_cases current : generation = s.generation
    · have own : connection = v.connection :=
        (wellFormed.connection_eq mem current).trans connectionKept.symm
      subst own
      obtain ⟨tally, answered⟩ := sameTally_onConnectStream host v generation tunnelId streamId
        input.errorCode
      refine ⟨?_, meets.onConnectStream host genuine, tally.reported tallied,
        tally.budget_of_answered answered affords⟩
      have effects : Effects host [.control, .stream] v _ :=
        onConnectStream_effects v generation tunnelId streamId input.errorCode
      rw [effects.config, config]
      exact streams.mode
    · rw [onConnectStream_of_stale host fun same => current (same.trans generationKept)]
      exact ⟨config ▸ streams.mode, meets, tallied, affords.weaken⟩
  simp only [perform]
  by_cases failed : input.errorCode.failed = true
  · rw [if_pos failed]
    refine settled _ rfl meeting reported.weaken budget rfl rfl fun succeeded => ?_
    rw [failed] at succeeded
    contradiction
  · rw [if_neg failed]
    refine settled _ rfl (meeting.emit (fun _ _ => rfl) fun _ => rfl) ?_ ?_ rfl rfl ?_
    · intro other stream
      have bound := reported other stream
      have counted : ((s.takeTask index).emit
          (.streamConnected connection streamId peer owner)).successes other stream =
          (s.takeTask index).successes other stream + once connection streamId other stream := by
        rw [successes, emit_log, List.countP_append, List.countP_singleton, successes, once]
        congr 1
        refine if_congr ?_ rfl rfl
        simp only [Output.isSuccess, decide_eq_true_eq]
        exact and_congr eq_comm eq_comm
      have attempts : ((s.takeTask index).emit
          (.streamConnected connection streamId peer owner)).attemptsFor other stream =
          (s.takeTask index).attemptsFor other stream := rfl
      have admissions : ((s.takeTask index).emit
          (.streamConnected connection streamId peer owner)).admissions other stream =
          (s.takeTask index).admissions other stream := by
        rw [Client.admissions, emit_log, List.countP_append]
        rfl
      rw [counted, attempts, admissions, nothing]
      omega
    · have requests : ((s.takeTask index).emit
          (.streamConnected connection streamId peer owner)).requests =
          (s.takeTask index).requests := by
        funext other stream
        rw [Client.requests, emit_log, List.countP_append]
        rfl
      have responses : ((s.takeTask index).emit
          (.streamConnected connection streamId peer owner)).responses =
          (s.takeTask index).responses := responses_of_other rfl fun _ _ => rfl
      intro other stream
      rw [requests, responses]
      exact budget other stream
    · intro _ current connected container stream present ptr
      have session := streams.meeting.session connected
      have same : stream.peer = peer :=
        session.peers _ attempt tunnelId streamId peer owner container stream current rfl present
          ptr
      have own : connection = s.connection := wellFormed.connection_eq mem current
      refine ⟨owner, List.mem_append_right _ (List.mem_singleton.mpr ?_)⟩
      rw [same, own]
      rfl

theorem Reported.attempt (reported : s.Reported (once s.connection streamId)) (peer : PeerId)
    (owner : Option Nat) :
    (s.start (.connectStream tunnelId streamId peer owner)).Reported nothing := by
  intro connection other
  have bound := reported connection other
  have successes : (s.start (.connectStream tunnelId streamId peer owner)).successes = s.successes :=
    rfl
  have admissions : (s.start (.connectStream tunnelId streamId peer owner)).admissions =
      s.admissions := rfl
  rw [successes, admissions, attemptsFor_start, nothing]
  omega

theorem Budget.attempt (budget : s.Budget (once s.connection streamId)) (peer : PeerId)
    (owner : Option Nat) :
    (s.start (.connectStream tunnelId streamId peer owner)).Budget nothing := by
  intro connection other
  have bound := budget connection other
  have responses : (s.start (.connectStream tunnelId streamId peer owner)).responses = s.responses :=
    rfl
  have requests : (s.start (.connectStream tunnelId streamId peer owner)).requests = s.requests :=
    rfl
  rw [responses, requests, attemptsFor_start, nothing]
  omega

/-- The socket of an admitted stream starts to connect, or its settings fail. -/
theorem AsyncStreams.connectPeer (mode : s.config.asyncStreamOperation = true) (meeting : s.Meeting)
    (reported : s.Reported (once s.connection streamId))
    (budget : s.Budget (once s.connection streamId))
    (holds : ∀ container stream, s.streamAt tunnelId streamId = some container →
      container.ptr = some stream → stream.peer = peer) (context : StreamContext)
    (owner : Option Nat) (oracle : Oracle) :
    (s.connectPeer host tunnelId streamId context peer owner oracle).AsyncStreams := by
  unfold Client.connectPeer
  split
  · rename_i failed
    have effects : Effects host [.control, .stream] s
        (s.onConnectStream host s.generation tunnelId streamId oracle.settings) :=
      onConnectStream_effects s _ _ _ _
    obtain ⟨tally, answered⟩ := sameTally_onConnectStream host s s.generation tunnelId streamId
      oracle.settings
    refine ⟨?_, meeting.onConnectStream host fun succeeded => ?_, tally.reported reported.weaken,
      tally.budget_of_answered answered budget⟩
    · rw [effects.config]
      exact mode
    · rw [failed] at succeeded
      contradiction
  · extract_lets endpoint
    have quiet : Quiet s (s.emit (.connectStream s.connection peer s.config.toConfig endpoint
        context.proxyEndpoint.isSome)) := quiet_emit s rfl fun _ _ => rfl
    have tally := quiet.table.sameTally
    refine ⟨mode, Meeting.attempt (meeting.of_frame quiet.table) holds, ?_, ?_⟩
    · exact Reported.attempt (tally.reported reported) peer owner
    · exact Budget.attempt (tally.budget quiet.responses budget) peer owner

/-- A proxy request is refused. -/
theorem AsyncStreams.rejectStream (streams : s.AsyncStreams) (streamId : String)
    (errorCode : ErrorCode) : (s.rejectStream host streamId errorCode).AsyncStreams := by
  have answered := doSendProxyResponse_answered host
    (s.emit (.proxyRequest s.connection streamId false)) streamId errorCode
  obtain ⟨successes, -, responses⟩ := counts_request
    (t := s.emit (.proxyRequest s.connection streamId false)) s streamId false rfl
  have requests (connection : Nat) (other : String) :
      (s.emit (.proxyRequest s.connection streamId false)).requests connection other =
        s.requests connection other + once s.connection streamId connection other := by
    rw [Client.requests, emit_log, List.countP_append, List.countP_singleton, Client.requests, once]
    congr 1
    refine if_congr ?_ rfl rfl
    simp only [Output.isRequest, decide_eq_true_eq]
    exact and_congr eq_comm eq_comm
  have admits (connection : Nat) (other : String) :
      (Output.proxyRequest s.connection streamId false).isAdmission connection other = false := by
    simp [Output.isAdmission]
  have admissions : (s.emit (.proxyRequest s.connection streamId false)).admissions =
      s.admissions := by
    funext connection other
    rw [Client.admissions, emit_log, List.countP_append, List.countP_singleton, admits]
    rfl
  have tally := answered.table.sameTally
  refine ⟨?_, (streams.meeting.emit admits fun _ => rfl).of_frame answered.table,
    tally.reported ?_, tally.budget_of_answered answered.responses ?_⟩
  · rw [Client.rejectStream, answered.table.config]
    exact streams.mode
  · intro connection other
    rw [successes, admissions]
    exact streams.reported connection other
  · intro connection other
    have bound := streams.budget connection other
    rw [responses, requests]
    exact Nat.add_le_add_right bound _

theorem AsyncStreams.requested (streams : s.AsyncStreams) (wellFormed : s.WellFormed)
    (request : ProxyConnReq) (oracle : Oracle)
    (unused : s.requests s.connection request.streamId = 0 ∨
      (s.streamAt request.tunnelId request.streamId).isSome = true) :
    (s.onProxyConnReq host request oracle).1.AsyncStreams := by
  unfold onProxyConnReq
  split
  · exact streams
  · rename_i tunnel tunnelFound
    split
    · exact streams.rejectStream _ _
    · rename_i context _
      dsimp only
      unfold onProxyRequest
      split
      · exact streams
      · split
        · exact streams.rejectStream _ _
        · rename_i room
          split
          · exact streams.rejectStream _ _
          · rename_i absent
            have first : s.requests s.connection request.streamId = 0 := by
              rcases unused with first | present
              · exact first
              · rw [streamAt_of_found tunnelFound, ← TreeMap.contains_eq_isSome_getElem?] at present
                exact absurd present absent
            have admitted := streams.meeting.admitStream wellFormed streams.budget streams.mode
              tunnelFound room first context
            have counts := requests_admitStream s request.tunnelId request.streamId context
            obtain ⟨successes, -, responses⟩ := counts_request
              (t := s.admitStream request.tunnelId request.streamId context) s request.streamId true
              rfl
            have attempts : (s.admitStream request.tunnelId request.streamId context).attempts =
                s.attempts := rfl
            have new : (s.newContainer context).ptr = some { peer := s.nextPeer } := by
              rw [newContainer, if_pos streams.mode]
            have mode : (s.admitStream request.tunnelId request.streamId
                context).config.asyncStreamOperation = true := streams.mode
            unfold doConnectStream
            rw [new]
            refine AsyncStreams.connectPeer mode admitted ?_ ?_ ?_ context none oracle
            · intro connection other
              have bound := streams.reported connection other
              rw [attemptsFor, attempts, successes, (counts connection other).2]
              exact Nat.add_le_add_right bound _
            · intro connection other
              have bound := streams.budget connection other
              rw [attemptsFor, attempts, responses, (counts connection other).1]
              exact Nat.add_le_add_right bound _
            · intro container stream found ptr
              rcases streamAt_admitStream found with before | ⟨-, -, rfl⟩
              · rw [streamAt_of_found tunnelFound] at before
                rw [TreeMap.contains_eq_isSome_getElem?, before] at absent
                exact absurd rfl absent
              · rw [new, Option.some_inj] at ptr
                rw [← ptr]

theorem AsyncStreams.accepts (streams : s.AsyncStreams) (connected : s.state = .connected)
    (tunnelFound : s.tunnels[tunnelId]? = some tunnel) (op : Nat) (oracle : Oracle) :
    (s.acceptOnTunnel host tunnelId tunnel op oracle).AsyncStreams := by
  unfold acceptOnTunnel
  rw [if_pos streams.mode]
  split
  · rename_i streamId container first
    have mem := List.mem_of_find?_eq_some first
    have found : s.streamAt tunnelId streamId = some container := by
      rw [streamAt_of_found tunnelFound]
      exact TreeMap.mem_toList_iff_getElem?_eq_some.mp mem
    obtain ⟨stream, ptr⟩ := streams.meeting.own _ _ _ found
    have waits : stream.connected = true := by
      have chosen := List.find?_some first
      simpa [ptr] using chosen
    have reported := (streams.meeting.session connected).waiting _ _ _ _ found ptr waits
    obtain ⟨ops, log, framed⟩ := complete_frame s (.acceptTunnel op) .none
      (.accepted (s.acceptedEndpoint streamId container.context) stream.peer)
    obtain ⟨tally, responses⟩ := sameTally_completeAcceptTunnel s op
      (.accepted (s.acceptedEndpoint streamId container.context) stream.peer)
    unfold handOver
    rw [ptr]
    refine ⟨?_, streams.meeting.handedOver connected found reported (fun _ => rfl)
      (fun t => within_erase t streamId (.inl rfl)) op rfl, ?_, ?_⟩
    · simp only [Option.elim_some, completeAcceptTunnel, framed]
      exact streams.mode
    · exact tally.reported streams.reported
    · exact tally.budget responses streams.budget
  · rename_i none
    exact ⟨streams.mode, streams.meeting.storeAccept tunnelFound none op,
      streams.reported, streams.budget⟩

/-! ## Runs -/

/-- The engine sends a proxy request for a new stream of its connection, or repeats
the request of a stream that the tunnel still has. -/
def NoReuse (s : Client) : Event → Prop
  | .call _ => True
  | .run index input =>
    match s.tasks[index]?, input.proxyRequest with
    | some task, some request => task.work = .read →
        s.requests task.connection request.streamId = 0 ∨
          (s.streamAt request.tunnelId request.streamId).isSome = true
    | _, _ => True

instance (s : Client) : (event : Event) → Decidable (NoReuse s event)
  | .call _ => isTrue trivial
  | .run index input =>
    match found : s.tasks[index]?, received : input.proxyRequest with
    | some task, some request =>
      decidable_of_iff (task.work = .read →
        s.requests task.connection request.streamId = 0 ∨
          (s.streamAt request.tunnelId request.streamId).isSome = true)
        (by simp only [NoReuse, found, received])
    | none, _ => isTrue (by simp only [NoReuse, found])
    | some _, none => isTrue (by simp only [NoReuse, found, received])

/-- Every step of a run against such an engine keeps the invariant. -/
theorem AsyncStreams.step (streams : s.AsyncStreams) (invariant : s.Invariant) {event : Event}
    (unused : NoReuse s event) (taken : Client.step host s event = some t) : t.AsyncStreams := by
  cases streamStep_of_step invariant taken with
  | quiet quiet => exact streams.of_quiet quiet
  | reported found => exact streams.reports invariant.wellFormed found _
  | requested found message quiet =>
    have before := streams.of_quiet (quiet_takeTask found rfl)
    have wellFormed := (invariant.wellFormed.takeTask found).1
    have own := invariant.wellFormed.connection_eq (mem_of_taken found) rfl
    dsimp only at own
    simp only [NoReuse, Input.proxyRequest, found, message, true_implies, own] at unused
    exact (before.requested wellFormed _ _ unused).of_quiet quiet
  | accepting found connected tunnelFound free handler _ quiet accepted storable =>
    exact (streams.of_quiet quiet).accepts connected tunnelFound _ _

theorem asyncStreams_make {config : ConfigClient} (mode : config.asyncStreamOperation = true)
    (defaultServerAddress : Except ErrorCode Address)
    (token mtlsToken : Except ErrorCode (Option String)) :
    (make config defaultServerAddress token mtlsToken).AsyncStreams := by
  have unused : (make config defaultServerAddress token mtlsToken).Unused :=
    NoTunnels.unused fun _ => rfl
  have absent (tunnelId streamId : String) (container : Container)
      (found : (make config defaultServerAddress token mtlsToken).streamAt tunnelId streamId =
        some container) : False := by
    rw [(unused tunnelId).2 streamId] at found
    contradiction
  refine ⟨mode, ⟨?_, ?_, ?_, ?_, ?_, ?_, fun _ => .of_unused unused⟩, fun _ _ => zero_le _,
    fun _ _ => zero_le _⟩
  · exact fun _ _ _ found => (absent _ _ _ found).elim
  · exact fun _ _ _ _ _ _ found => (absent _ _ _ found).elim
  · exact fun _ _ => zero_le _
  · exact fun _ _ => zero_le _
  · exact fun _ _ => zero_le _
  · intro op errorCode value connection mem
    contradiction

theorem ReachableBy.asyncStreams (reachable : ReachableBy host NoReuse s)
    (mode : s.config.asyncStreamOperation = true) : s.AsyncStreams := by
  obtain ⟨config, defaultServerAddress, token, mtlsToken, run⟩ := reachable
  have all : s.Invariant ∧ s.config = config ∧
      (config.asyncStreamOperation = true → s.AsyncStreams) := by
    refine run.invariant (p := fun u => u.Invariant ∧ u.config = config ∧
      (config.asyncStreamOperation = true → u.AsyncStreams))
      ⟨invariant_make _ _ _ _, rfl, fun mode => asyncStreams_make mode _ _ _⟩ ?_
    rintro u event v ⟨invariant, same, streams⟩ unused taken
    exact ⟨invariant.step taken, (config_of_step invariant taken).trans same,
      fun mode => (streams mode).step invariant unused taken⟩
  obtain ⟨-, same, streams⟩ := all
  exact streams (same ▸ mode)

/-- **Streams in the asynchronous mode.** In every run against an engine that does not
reuse the ids of streams: no tunnel has both a pending accept operation and a
connected stream; an accept operation that completes with a stream receives the one
socket whose connect attempt for that stream succeeded, and no stream is handed
over twice; the streams of a tunnel stay within the configured limit; and for a
stream there are at most as many responses as rejected requests, and one more when
a request was admitted, which happens at most once. -/
theorem async_streams_meet (s : Client) (mode : s.config.asyncStreamOperation = true)
    (reachable : ReachableBy host NoReuse s) :
    (∀ tunnelId streamId op container stream, s.acceptOn tunnelId = some op →
      s.streamAt tunnelId streamId = some container → container.ptr = some stream →
      stream.connected = false) ∧
    (∀ op errorCode value connection,
      Output.completed (.acceptTunnel op) errorCode value connection ∈ s.log →
      errorCode.failed = false → ∃ endpoint peer streamId owner,
        value = .accepted endpoint peer ∧ endpoint.idName = some streamId ∧
        Output.streamConnected connection streamId peer owner ∈ s.log ∧
        ∀ other otherOwner, Output.streamConnected connection streamId other otherOwner ∈ s.log →
          other = peer) ∧
    (∀ connection streamId, s.handovers connection streamId ≤ 1) ∧
    (∀ tunnelId, 0 < s.config.maxOngoingStreams →
      s.streamCount tunnelId ≤ s.config.maxOngoingStreams) ∧
    ∀ connection streamId, s.admissions connection streamId ≤ 1 ∧
      s.responses connection streamId ≤
        s.admissions connection streamId + s.rejections connection streamId := by
  have streams := reachable.asyncStreams mode
  have meeting := streams.meeting
  refine ⟨meeting.exclusive, ?_, ?_, meeting.bounded, ?_⟩
  · intro op errorCode value connection mem succeeded
    obtain ⟨endpoint, peer, streamId, owner, accepted, named, reported⟩ :=
      meeting.genuine op errorCode value connection mem succeeded
    refine ⟨endpoint, peer, streamId, owner, accepted, named, reported, ?_⟩
    intro other otherOwner also
    have bound := streams.reported connection streamId
    have admitted := meeting.admittedOnce connection streamId
    have once : s.log.countP (Output.isSuccess connection streamId) ≤ 1 := by
      rw [successes] at bound
      omega
    have same := eq_of_countP_le_one once also (decide_eq_true ⟨rfl, rfl⟩) reported
      (decide_eq_true ⟨rfl, rfl⟩)
    cases same
    rfl
  · intro connection streamId
    exact Nat.le_trans (meeting.handedOnce connection streamId)
      (meeting.admittedOnce connection streamId)
  · intro connection streamId
    refine ⟨meeting.admittedOnce connection streamId, ?_⟩
    have bound := streams.budget connection streamId
    rw [requests_eq] at bound
    omega

/-- A stream is requested, connected and then accepted. -/
def acceptedStream : List Event :=
  openTunnel ++ [.run 3 { message := some (.proxyConnReq ⟨"tunnel", "stream", none, none, none⟩) },
    .run 3 {}, .call (.asyncAcceptTunnel "tunnel" 7), .run 5 {}]

theorem acceptedStream_isSome :
    (exec (Client.step .plain) (plain { hearbeat := false }) acceptedStream).isSome =
      true := by
  decide

/-- The client after the accept. -/
def acceptingClient : Client :=
  (exec (Client.step .plain) (plain { hearbeat := false }) acceptedStream).get
    acceptedStream_isSome

theorem acceptingClient_handed_once :
    acceptingClient.handovers 1 "stream" = 1 ∧ acceptingClient.responses 1 "stream" = 1 ∧
      acceptingClient.admissions 1 "stream" ≤ 1 := by
  have reachable : ReachableBy .plain NoReuse acceptingClient :=
    ⟨_, _, _, _, .of_exec (by decide) (Option.some_get acceptedStream_isSome).symm⟩
  have streams := async_streams_meet acceptingClient (by decide) reachable
  exact ⟨by decide, by decide, (streams.2.2.2.2 1 "stream").1⟩

end Client

end Rstream.IoRstrm
