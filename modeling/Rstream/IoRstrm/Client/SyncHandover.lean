import Rstream.IoRstrm.Client.SyncStreams

/-!
# Handing over streams in the synchronous mode

A connect attempt is identified by its tunnel and stream only, so the report of an
attempt that was started for a cancelled accept operation is taken as the report of
the operation that is pending by then.

`OwnReport` is the condition that a report reaches the operation it was made for,
or that it is a failure that reaches an operation which is not connecting. The runs
that keep to it also keep the invariant `Matched`: an accept operation has at most
one attempt in flight, it is busy while it has one, and when it completes with a
stream it receives its own peer, connected for that stream by its own attempt.
-/

namespace Rstream.IoRstrm

open Library List
open Std (TreeMap)

/-- The work is a connect attempt that was started for an accept operation. -/
def Work.isOwnedBy (op : Nat) : Work → Bool
  | .connectStream _ _ _ owner => owner = some op
  | _ => false

/-- The output reports that a peer has connected. -/
def Output.reports (peer : PeerId) : Output → Bool
  | .streamConnected _ _ other _ => other = peer
  | _ => false

namespace Client

variable {host : Host} {s t : Client}

/-- The attempts in flight that were started for an accept operation. -/
def attemptsBy (s : Client) (op : Nat) : Nat :=
  s.attempts.countP fun task => task.work.isOwnedBy op

theorem attemptsBy_eq (s : Client) (op : Nat) :
    s.attemptsBy op = s.tasks.countP fun task => task.work.isOwnedBy op := by
  rw [attemptsBy, attempts, countP_filter]
  refine countP_congr fun task _ => ?_
  obtain ⟨generation, connection, work⟩ := task
  cases work with
  | connectStream _ _ _ _ => simp [Work.isConnectStream]
  | _ => simp [Work.isOwnedBy]

/-- An accept operation completed with a stream: it is no longer pending, has no
attempt in flight, and received its own peer, which its own attempt connected for
that stream. -/
structure OwnStream (s : Client) (op : Nat) (value : Value) (connection : Nat) : Prop where
  allocated : op < s.nextOp
  absent : ∀ tunnelId, s.acceptOn tunnelId ≠ some op
  idle : s.attemptsBy op = 0
  own : ∃ endpoint streamId, value = .accepted endpoint (s.ops (.acceptTunnel op)).peer ∧
    endpoint.idName = some streamId ∧
    Output.streamConnected connection streamId (s.ops (.acceptTunnel op)).peer (some op) ∈
      s.streamLog

/-- The attempts in flight belong to their accept operations. -/
structure Matched (s : Client) : Prop extends s.Socketless where
  owned : ∀ task ∈ s.attempts, ∃ tunnelId streamId op, op < s.nextOp ∧
    task.work = .connectStream tunnelId streamId (s.ops (.acceptTunnel op)).peer (some op)
  once : ∀ op, s.attemptsBy op ≤ 1
  busy : ∀ tunnelId op, s.acceptOn tunnelId = some op → 0 < s.attemptsBy op →
    (s.ops (.acceptTunnel op)).busy = true
  settled : ∀ op errorCode value connection,
    Output.completed (.acceptTunnel op) errorCode value connection ∈ s.streamLog →
    s.OwnStream op value connection

/-! ## Changes that start no attempt and complete no operation -/

/-- A change after which every attempt, accept operation and completion was there
before, and no operation has stopped being busy. -/
structure Lessened (s t : Client) : Prop where
  attempts : t.attempts.Sublist s.attempts
  accept : ∀ tunnelId, t.acceptOn tunnelId = s.acceptOn tunnelId ∨ t.acceptOn tunnelId = none
  busy : ∀ op < s.nextOp, (s.ops (.acceptTunnel op)).busy = true →
    (t.ops (.acceptTunnel op)).busy = true
  peer : ∀ op < s.nextOp, (t.ops (.acceptTunnel op)).peer = (s.ops (.acceptTunnel op)).peer
  nextOp : s.nextOp ≤ t.nextOp
  logged : ∀ output ∈ s.streamLog, output ∈ t.streamLog
  completed : ∀ op errorCode value connection,
    Output.completed (.acceptTunnel op) errorCode value connection ∈ t.streamLog →
    Output.completed (.acceptTunnel op) errorCode value connection ∈ s.streamLog

theorem Lessened.of_kept (kept : TableKept s t) (ops : OpsKept s t) : Lessened s t where
  attempts := by
    rw [kept.attempts]
  accept := kept.accept
  busy := by
    intro op allocated busy
    rw [ops.busy op allocated]
    exact busy
  peer := ops.peer
  nextOp := ops.nextOp
  logged := by
    intro output mem
    rw [kept.streamLog]
    exact mem
  completed := by
    intro op errorCode value connection mem
    rw [← kept.streamLog]
    exact mem

theorem Lessened.of_logged {output : Output} (attempts : t.attempts.Sublist s.attempts)
    (tunnels : t.tunnels = s.tunnels) (ops : t.ops = s.ops) (nextOp : t.nextOp = s.nextOp)
    (log : t.log = s.log ++ [output])
    (other : ∀ op errorCode value connection, output ≠ .completed op errorCode value connection) :
    Lessened s t where
  attempts := attempts
  accept := by
    intro tunnelId
    rw [acceptOn, tunnels, acceptOn]
    exact .inl rfl
  busy := by
    intro op _ busy
    rw [ops]
    exact busy
  peer := by
    intro op _
    rw [ops]
  nextOp := Nat.le_of_eq nextOp.symm
  logged := by
    intro before mem
    rw [streamLog_append log]
    exact mem_append_left _ mem
  completed := by
    intro op errorCode value connection mem
    rw [streamLog_append log] at mem
    rcases mem_append.mp mem with before | new
    · exact before
    · split at new
      · exact absurd (mem_singleton.mp new).symm (other _ _ _ _)
      · contradiction

theorem Lessened.attemptsBy_le (lessened : Lessened s t) (op : Nat) :
    t.attemptsBy op ≤ s.attemptsBy op :=
  lessened.attempts.countP_le

variable {op connection : Nat} {tunnelId streamId : String} {errorCode : ErrorCode}

variable {value : Value} {generation index : Nat} {tunnel : Tunnel} {container : Container}

theorem OwnStream.of_lessened (own : s.OwnStream op value connection) (lessened : Lessened s t) :
    t.OwnStream op value connection := by
  have peer := lessened.peer op own.allocated
  refine ⟨Nat.lt_of_lt_of_le own.allocated lessened.nextOp, ?_, ?_, ?_⟩
  · intro tunnelId stored
    rcases lessened.accept tunnelId with same | lost
    · exact own.absent tunnelId (same ▸ stored)
    · rw [lost] at stored
      contradiction
  · have bound := lessened.attemptsBy_le op
    rw [own.idle] at bound
    exact Nat.le_zero.mp bound
  · obtain ⟨endpoint, streamId, received, named, connected⟩ := own.own
    rw [peer]
    exact ⟨endpoint, streamId, received, named, lessened.logged _ connected⟩

theorem Matched.of_lessened (matched : s.Matched) (wellFormed : s.WellFormed)
    (socketless : t.Socketless) (lessened : Lessened s t) : t.Matched where
  toSocketless := socketless
  owned := by
    intro task mem
    obtain ⟨tunnelId, streamId, op, allocated, work⟩ :=
      matched.owned task (lessened.attempts.subset mem)
    refine ⟨tunnelId, streamId, op, Nat.lt_of_lt_of_le allocated lessened.nextOp, ?_⟩
    rw [lessened.peer op allocated]
    exact work
  once := by
    intro op
    exact Nat.le_trans (lessened.attemptsBy_le op) (matched.once op)
  busy := by
    intro tunnelId op stored attempted
    rcases lessened.accept tunnelId with same | lost
    · rw [same] at stored
      refine lessened.busy op (wellFormed.accept_allocated stored) ?_
      exact matched.busy tunnelId op stored
        (Nat.lt_of_lt_of_le attempted (lessened.attemptsBy_le op))
    · rw [lost] at stored
      contradiction
  settled := by
    intro op errorCode value connection mem
    exact (matched.settled _ _ _ _ (lessened.completed _ _ _ _ mem)).of_lessened lessened

theorem Matched.of_kept (matched : s.Matched) (wellFormed : s.WellFormed) (kept : TableKept s t)
    (ops : OpsKept s t) : t.Matched :=
  matched.of_lessened wellFormed (matched.toSocketless.of_kept kept) (.of_kept kept ops)

/-! ## Reports -/

section

variable (settled : StreamSettled tunnelId streamId errorCode s t)

include settled

theorem StreamSettled.attempts_eq :
    t.attempts = s.attempts := by
  obtain ⟨tunnels, ops, log, framed⟩ := settled.frame
  rw [framed]
  rfl

theorem StreamSettled.nextOp_eq :
    t.nextOp = s.nextOp := by
  obtain ⟨tunnels, ops, log, framed⟩ := settled.frame
  rw [framed]

theorem StreamSettled.stored_before
    {other : String} (stored : t.acceptOn other = some op) : s.acceptOn other = some op := by
  by_cases same : other = tunnelId
  · subst same
    rcases settled.accept with kept | lost
    · exact kept ▸ stored
    · rw [lost] at stored
      contradiction
  · rwa [settled.acceptOn_of_ne same] at stored

end

theorem OwnStream.of_settled (own : s.OwnStream op value connection)
    (settled : StreamSettled tunnelId streamId errorCode s t) :
    t.OwnStream op value connection := by
  refine ⟨?_, fun other stored => own.absent other (settled.stored_before stored), ?_, ?_⟩
  · rw [settled.nextOp_eq]
    exact own.allocated
  · rw [attemptsBy, settled.attempts_eq]
    exact own.idle
  · obtain ⟨endpoint, streamId, received, named, connected⟩ := own.own
    rw [settled.peer op]
    exact ⟨endpoint, streamId, received, named, settled.logged _ connected⟩

theorem Matched.reported (matched : s.Matched) (wellFormed : s.WellFormed)
    (settled : StreamSettled tunnelId streamId errorCode s t)
    (idle : ∀ op, s.acceptOn tunnelId = some op → s.attemptsBy op = 0)
    (reported : errorCode.failed = false → ∀ op, s.acceptOn tunnelId = some op →
      Output.streamConnected s.connection streamId (s.ops (.acceptTunnel op)).peer (some op) ∈
        s.streamLog) : t.Matched := by
  have attemptsBy (op : Nat) : t.attemptsBy op = s.attemptsBy op := by
    rw [Client.attemptsBy, settled.attempts_eq, Client.attemptsBy]
  refine ⟨matched.toSocketless.settled settled, ?_, ?_, ?_, ?_⟩
  · intro task mem
    rw [settled.attempts_eq] at mem
    obtain ⟨tunnel, stream, op, allocated, work⟩ := matched.owned task mem
    refine ⟨tunnel, stream, op, ?_, ?_⟩
    · rw [settled.nextOp_eq]
      exact allocated
    · rw [settled.peer op]
      exact work
  · intro op
    rw [attemptsBy]
    exact matched.once op
  · intro other op stored attempted
    have before := settled.stored_before stored
    rw [attemptsBy] at attempted
    -- the operation of the report has no attempt in flight, so it is another one
    have apart : s.acceptOn tunnelId ≠ some op := by
      intro here
      rw [idle op here] at attempted
      contradiction
    rw [settled.busy op apart]
    exact matched.busy other op before attempted
  · intro op error value connection mem
    rcases settled.handed _ mem with before | ⟨succeeded, index, endpoint, stored, named, same⟩
    · exact (matched.settled _ _ _ _ before).of_settled settled
    · cases same
      refine ⟨?_, ?_, ?_, ?_⟩
      · rw [settled.nextOp_eq]
        exact wellFormed.accept_allocated stored
      · intro other still
        have before := settled.stored_before still
        have here := wellFormed.accept_injective stored before
        subst here
        rw [settled.released succeeded] at still
        contradiction
      · rw [attemptsBy]
        exact idle op stored
      · rw [settled.peer op]
        exact ⟨endpoint, streamId, rfl, named, settled.logged _ (reported succeeded op stored)⟩

theorem Matched.onConnectStream (host : Host) (matched : s.Matched) (wellFormed : s.WellFormed)
    (idle : generation = s.generation → s.state = .connected →
      (s.streamAt tunnelId streamId).isSome = true →
      ∀ op, s.acceptOn tunnelId = some op → s.attemptsBy op = 0)
    (reported : generation = s.generation → s.state = .connected →
      (s.streamAt tunnelId streamId).isSome = true → errorCode.failed = false →
      ∀ op, s.acceptOn tunnelId = some op →
      Output.streamConnected s.connection streamId (s.ops (.acceptTunnel op)).peer (some op) ∈
        s.streamLog) : (s.onConnectStream host generation tunnelId streamId errorCode).Matched := by
  rcases onConnectStream_cases host s generation tunnelId streamId errorCode with
    ⟨-, answered⟩ | ⟨tunnel, container, current, connected, tunnelFound, found, answered⟩
  · exact matched.of_kept wellFormed answered.table.toTableKept answered.ops
  · have present : s.streamAt tunnelId streamId = some container := by
      rw [streamAt_of_found tunnelFound, found]
    have some : (s.streamAt tunnelId streamId).isSome = true := by
      rw [present]
      rfl
    have settled : StreamSettled tunnelId streamId errorCode s _ :=
      streamSettled tunnelFound (matched.plain _ _ _ present) errorCode
    have after := matched.reported wellFormed settled (idle current connected some)
      (reported current connected some)
    exact after.of_kept (wellFormed.settleStream host tunnelFound streamId container errorCode)
      answered.table.toTableKept answered.ops

/-- The condition on a report: it reaches the operation its attempt was started for,
or it is a failure and the operation it reaches is not connecting. -/
def OwnReport (s : Client) (input : Input) (generation : Nat) : Work → Prop
  | .connectStream tunnelId streamId _ owner =>
    generation = s.generation → s.state = .connected →
    (s.streamAt tunnelId streamId).isSome = true →
    (s.acceptOn tunnelId).all (fun op => owner = some op ||
      input.errorCode.failed && !(s.ops (.acceptTunnel op)).busy) = true
  | _ => True

/-- The condition on a step. -/
def OwnReports (s : Client) : Event → Prop
  | .call _ => True
  | .run index input =>
    match s.tasks[index]? with
    | none => True
    | some task => OwnReport s input task.generation task.work

instance (s : Client) (input : Input) (generation : Nat) :
    (work : Work) → Decidable (OwnReport s input generation work)
  | .connectStream _ _ _ _ => inferInstanceAs (Decidable (_ → _ → _ → _))
  | .asyncConnectInternal _ | .asyncCreateTunnelInternal _ | .asyncAcceptTunnelInternal _ _
  | .cancelConnect _ | .cancelCreateTunnel _ | .cancelAcceptTunnel _ _ | .closeTunnelInternal _
  | .closeInternal | .resolve | .rangeSpawn _ | .rangeAttempt _ | .onConnect _ | .read | .send _
  | .stateTimer _ | .heartbeatTimer _ | .queueCancel _ _ _ => isTrue trivial

instance (s : Client) : (event : Event) → Decidable (OwnReports s event)
  | .call _ => isTrue trivial
  | .run index input =>
    match h : s.tasks[index]? with
    | none => isTrue (by simp [OwnReports, h])
    | some task =>
      decidable_of_iff (OwnReport s input task.generation task.work)
        (by simp [OwnReports, h])

theorem attemptsBy_takeTask {task : Task} (found : s.tasks[index]? = some task) (op : Nat) :
    s.attemptsBy op =
      (s.takeTask index).attemptsBy op + if task.work.isOwnedBy op then 1 else 0 := by
  rw [attemptsBy_eq, attemptsBy_eq]
  exact countP_of_taken found _

theorem Matched.reports (matched : s.Matched) (wellFormed : s.WellFormed) {peer : PeerId}
    {owner : Option Nat} (found : s.tasks[index]? =
      some ⟨generation, connection, .connectStream tunnelId streamId peer owner⟩) (input : Input)
    (condition : OwnReport s input generation (.connectStream tunnelId streamId peer owner)) :
    ((s.takeTask index).perform host
      ⟨generation, connection, .connectStream tunnelId streamId peer owner⟩ input).Matched := by
  have taken := (wellFormed.takeTask found).1
  have attempts : (s.takeTask index).attempts.Sublist s.attempts :=
    (eraseIdx_sublist s.tasks index).filter _
  have before : (s.takeTask index).Matched := by
    refine matched.of_lessened wellFormed ⟨matched.mode, matched.plain⟩ ?_
    exact ⟨attempts, fun _ => .inl rfl, fun _ _ busy => busy, fun _ _ => rfl, Nat.le_refl _,
      fun _ mem => mem, fun _ _ _ _ mem => mem⟩
  -- the task that reports is the only one of its operation
  have idle (current : generation = s.generation) (connected : s.state = .connected)
      (present : (s.streamAt tunnelId streamId).isSome = true) (op : Nat)
      (stored : s.acceptOn tunnelId = some op) : (s.takeTask index).attemptsBy op = 0 := by
    have counted := attemptsBy_takeTask found op
    have bound := matched.once op
    have allowed := condition current connected present
    rw [stored, Option.all_some, Bool.or_eq_true] at allowed
    rcases allowed with own | failure
    · have owned : Work.isOwnedBy op (.connectStream tunnelId streamId peer owner) = true := own
      rw [if_pos owned] at counted
      omega
    · rw [Bool.and_eq_true, Bool.not_eq_true'] at failure
      by_contra attempted
      have busy := before.busy tunnelId op stored (Nat.pos_of_ne_zero attempted)
      rw [takeTask_ops, failure.2] at busy
      contradiction
  have ownPeer (op : Nat) (own : owner = some op) : peer = (s.ops (.acceptTunnel op)).peer := by
    have member : (⟨generation, connection, .connectStream tunnelId streamId peer owner⟩ : Task) ∈
        s.attempts := mem_filter.mpr ⟨mem_of_taken found, rfl⟩
    obtain ⟨_, _, index, _, same⟩ := matched.owned _ member
    cases same
    cases own
    rfl
  simp only [perform]
  by_cases failed : input.errorCode.failed = true
  · rw [if_pos failed]
    refine before.onConnectStream host taken idle ?_
    intro _ _ _ succeeded
    rw [failed] at succeeded
    contradiction
  · rw [if_neg failed]
    have reported : Effects host [.stream] (s.takeTask index) ((s.takeTask index).emit
        (.streamConnected connection streamId peer owner)) := .single .streamConnected
    have after : ((s.takeTask index).emit
        (.streamConnected connection streamId peer owner)).Matched := by
      refine before.of_lessened taken ⟨matched.mode, matched.plain⟩ ?_
      refine .of_logged 
        (List.Sublist.refl _) rfl rfl rfl rfl ?_
      intro _ _ _ _ same
      contradiction
    refine after.onConnectStream host (reported.wellFormed taken) idle ?_
    intro current connected present _ op stored
    have allowed := condition current connected present
    have accept : s.acceptOn tunnelId = some op := stored
    rw [accept, Option.all_some] at allowed
    have own : owner = some op := by
      simpa [failed] using allowed
    have same : connection = s.connection :=
      wellFormed.connection_eq (mem_of_taken found) current
    refine mem_filter.mpr ⟨mem_append_right _ ?_, rfl⟩
    rw [mem_singleton, ownPeer op own, own, same]
    rfl

/-! ## A peer starts to connect -/

theorem Matched.start (matched : s.Matched) (stored : s.acceptOn tunnelId = some op)
    (allocated : op < s.nextOp) (busy : (s.ops (.acceptTunnel op)).busy = true)
    (idle : s.attemptsBy op = 0) (streamId : String) :
    (s.start (.connectStream tunnelId streamId (s.ops (.acceptTunnel op)).peer
      (some op))).Matched := by
  have attempts := attempts_start s tunnelId streamId (s.ops (.acceptTunnel op)).peer (some op)
  have counted (other : Nat) : (s.start (.connectStream tunnelId streamId
      (s.ops (.acceptTunnel op)).peer (some op))).attemptsBy other =
        s.attemptsBy other + if op = other then 1 else 0 := by
    rw [attemptsBy, attempts, countP_append, countP_singleton, attemptsBy]
    simp [Work.isOwnedBy]
  refine ⟨⟨matched.mode, matched.plain⟩, ?_, ?_, ?_, ?_⟩
  · intro task mem
    rw [attempts] at mem
    rcases mem_append.mp mem with before | new
    · exact matched.owned task before
    · rw [mem_singleton.mp new]
      exact ⟨tunnelId, streamId, op, allocated, rfl⟩
  · intro other
    rw [counted]
    split
    · rename_i same
      subst same
      omega
    · exact matched.once other
  · intro other index held attempted
    rw [counted] at attempted
    split at attempted
    · rename_i same
      subst same
      exact busy
    · exact matched.busy other index held attempted
  · intro index errorCode value connection mem
    have own := matched.settled index errorCode value connection mem
    refine ⟨own.allocated, own.absent, ?_, own.own⟩
    have apart : op ≠ index := by
      rintro rfl
      exact own.absent tunnelId stored
    rw [counted, if_neg apart]
    exact own.idle

/-- `do_connect_stream`, for a stream that is there. -/
theorem Matched.doConnectStream (host : Host) (matched : s.Matched) (wellFormed : s.WellFormed)
    (stored : s.acceptOn tunnelId = tunnel.acceptOp) (plain : container.ptr = none)
    (oracle : Oracle) :
    (s.doConnectStream host tunnelId streamId tunnel container oracle).Matched := by
  unfold Client.doConnectStream
  rw [plain]
  cases accept : tunnel.acceptOp with
  | none => exact matched
  | some op =>
    have pending : s.acceptOn tunnelId = some op := stored.trans accept
    dsimp only
    by_cases busy : (s.ops (.acceptTunnel op)).busy = true
    · rw [if_pos busy]
      exact matched
    · rw [if_neg busy]
      have idle : s.attemptsBy op = 0 := by
        by_contra attempted
        exact busy (matched.busy tunnelId op pending (Nat.pos_of_ne_zero attempted))
      have effects : Effects host [.stream] s (s.modifyOp (.acceptTunnel op) fun o =>
          { o with busy := true }) := .single (.busy op true)
      have peer (other : Nat) : ((s.modifyOp (.acceptTunnel op) fun o =>
          { o with busy := true }).ops (.acceptTunnel other)).peer =
            (s.ops (.acceptTunnel other)).peer :=
        ops_modifyOp_of_kept Op.peer (fun o => { o with busy := true }) (fun _ => rfl) s
          (.acceptTunnel op) (.acceptTunnel other)
      have marked : (s.modifyOp (.acceptTunnel op) fun o => { o with busy := true }).Matched := by
        refine matched.of_lessened wellFormed ⟨matched.mode, matched.plain⟩ ?_
        refine ⟨List.Sublist.refl _, fun _ => .inl rfl, fun other _ held => ?_,
          fun other _ => peer other, Nat.le_refl _, fun _ mem => mem, fun _ _ _ _ mem => mem⟩
        by_cases same : OpId.acceptTunnel other = .acceptTunnel op
        · simp [same]
        · simpa [same] using held
      unfold connectPeer
      by_cases failed : oracle.settings.failed = true
      · rw [if_pos failed]
        refine marked.onConnectStream host (effects.wellFormed wellFormed) ?_ ?_
        · intro _ _ _ other also
          have same : s.acceptOn tunnelId = some other := also
          rw [pending, Option.some_inj] at same
          rw [← same]
          exact idle
        · intro _ _ _ succeeded
          rw [failed] at succeeded
          contradiction
      · rw [if_neg failed]
        dsimp only
        generalize emitted : Output.connectStream _ _ _ _ _ = output
        have after : ((s.modifyOp (.acceptTunnel op) fun o =>
            { o with busy := true }).emit output).Matched := by
          refine marked.of_lessened (effects.wellFormed wellFormed)
            ⟨matched.mode, matched.plain⟩ ?_
          refine .of_logged (List.Sublist.refl _) rfl rfl rfl rfl ?_
          intro _ _ _ _ same
          rw [← emitted] at same
          contradiction
        have begun := after.start pending (wellFormed.accept_allocated pending) (by simp) idle
          streamId
        rw [emit_ops, peer op] at begun
        exact begun

/-- A report starts no attempt. -/
theorem onConnectStream_attempts (host : Host) (s : Client) (generation : Nat)
    (tunnelId streamId : String) (errorCode : ErrorCode) :
    (s.onConnectStream host generation tunnelId streamId errorCode).attempts = s.attempts := by
  rcases onConnectStream_cases host s generation tunnelId streamId errorCode with
    ⟨-, answered⟩ | ⟨tunnel, container, _, _, _, _, answered⟩
  · exact answered.table.attempts
  · obtain ⟨ops, released⟩ := releaseBusy_frame s tunnel
    obtain ⟨tunnels, objects, log, settled⟩ := settleStream_frame (s.releaseBusy tunnel) tunnelId
      streamId tunnel container errorCode
    refine answered.table.attempts.trans ?_
    rw [settled, released]
    rfl

/-- The attempts that `do_connect_stream` leaves: those of before, and at most one
for the pending accept operation. -/
theorem doConnectStream_attemptsBy (host : Host) (s : Client) (tunnelId streamId : String)
    (tunnel : Tunnel) (plain : container.ptr = none) (oracle : Oracle) (op : Nat) :
    (s.doConnectStream host tunnelId streamId tunnel container oracle).attemptsBy op =
        s.attemptsBy op ∨
      tunnel.acceptOp = some op ∧ ∀ other,
        (s.doConnectStream host tunnelId streamId tunnel container oracle).acceptOn other =
          s.acceptOn other := by
  unfold doConnectStream
  rw [plain]
  cases tunnel.acceptOp with
  | none => exact .inl rfl
  | some pending =>
    dsimp only
    split
    · exact .inl rfl
    · unfold connectPeer
      split
      · exact .inl (congrArg _ (onConnectStream_attempts host _ _ _ _ _))
      · by_cases same : pending = op
        · exact .inr ⟨congrArg some same, fun _ => rfl⟩
        · refine .inl ?_
          rw [attemptsBy, attempts_start, countP_append, countP_singleton]
          simp [Work.isOwnedBy, same]
          rfl

/-! ## The steps -/

theorem Matched.rejectStream (matched : s.Matched) (wellFormed : s.WellFormed) (streamId : String)
    (errorCode : ErrorCode) : (s.rejectStream host streamId errorCode).Matched := by
  have answered := doSendProxyResponse_answered host
    (s.emit (.proxyRequest s.connection streamId false)) streamId errorCode
  have logged : Effects host [.stream] s (s.emit (.proxyRequest s.connection streamId false)) :=
    .single .request
  have before : (s.emit (.proxyRequest s.connection streamId false)).Matched := by
    refine matched.of_lessened wellFormed ⟨matched.mode, matched.plain⟩ ?_
    refine .of_logged (List.Sublist.refl _) rfl rfl rfl rfl ?_
    intro _ _ _ _ same
    contradiction
  exact before.of_kept (logged.wellFormed wellFormed) answered.table.toTableKept answered.ops

theorem Matched.admitStream (matched : s.Matched) (wellFormed : s.WellFormed)
    (tunnelId streamId : String) (context : StreamContext) :
    (s.admitStream tunnelId streamId context).Matched := by
  refine matched.of_lessened wellFormed (matched.toSocketless.admitStream _ _ _) ?_
  have appended : (s.admitStream tunnelId streamId context).streamLog =
      s.streamLog ++ [Output.proxyRequest s.connection streamId true] := by
    have log : (s.admitStream tunnelId streamId context).log =
        s.log ++ [Output.proxyRequest s.connection streamId true] := rfl
    exact streamLog_append log
  refine ⟨List.Sublist.refl _, fun other => .inl (acceptOn_admitStream s _ _ _ other),
    fun _ _ busy => busy, fun _ _ => rfl, Nat.le_refl _, fun output mem => ?_, ?_⟩
  · rw [appended]
    exact mem_append_left _ mem
  · intro op errorCode value connection mem
    rw [appended] at mem
    rcases mem_append.mp mem with before | new
    · exact before
    · cases mem_singleton.mp new

theorem Matched.requested (host : Host) (matched : s.Matched) (wellFormed : s.WellFormed)
    (request : ProxyConnReq) (oracle : Oracle) :
    (s.onProxyConnReq host request oracle).1.Matched ∧ ∀ op,
      (s.onProxyConnReq host request oracle).1.attemptsBy op = s.attemptsBy op ∨
        s.acceptOn request.tunnelId = some op := by
  have rejected (errorCode : ErrorCode) :
      (s.rejectStream host request.streamId errorCode).Matched ∧ ∀ op,
        (s.rejectStream host request.streamId errorCode).attemptsBy op = s.attemptsBy op ∨
          s.acceptOn request.tunnelId = some op := by
    refine ⟨matched.rejectStream wellFormed _ _, fun op => .inl ?_⟩
    have answered := doSendProxyResponse_answered host
      (s.emit (.proxyRequest s.connection request.streamId false)) request.streamId errorCode
    exact congrArg _ answered.table.attempts
  unfold onProxyConnReq
  split
  · exact ⟨matched, fun _ => .inl rfl⟩
  · rename_i tunnel tunnelFound
    split
    · exact rejected _
    · rename_i context _
      dsimp only
      unfold onProxyRequest
      split
      · exact ⟨matched, fun _ => .inl rfl⟩
      · split
        · exact rejected _
        · split
          · exact rejected _
          · have admitted : Effects host [.stream] s
                (s.admitStream request.tunnelId request.streamId context) :=
              admitStream_effects s _ _ _
            have plain : (s.newContainer context).ptr = none := by
              rw [newContainer, if_neg (by simp [matched.mode])]
            have accept := acceptOn_of_found tunnelFound
            refine ⟨.doConnectStream host (matched.admitStream wellFormed _ _ _)
              (admitted.wellFormed wellFormed) ?_ plain oracle, fun op => ?_⟩
            · rw [acceptOn_admitStream, accept]
            · rcases doConnectStream_attemptsBy host (s.admitStream request.tunnelId
                request.streamId context) request.tunnelId request.streamId tunnel plain oracle
                op with same | ⟨pending, -⟩
              · exact .inl same
              · exact .inr (accept.trans pending)

/-- An accept operation that has no attempt and did not complete becomes pending. -/
theorem Matched.storeAccept (matched : s.Matched) (idle : s.attemptsBy op = 0)
    (uncompleted : ∀ errorCode value connection,
      Output.completed (.acceptTunnel op) errorCode value connection ∉ s.streamLog) :
    (s.storeAccept tunnelId op).Matched := by
  have stored {other : String} {index : Nat}
      (held : (s.storeAccept tunnelId op).acceptOn other = some index) :
      index = op ∨ s.acceptOn other = some index := by
    rw [Client.storeAccept, acceptOn_modifyTunnel] at held
    split at held
    · obtain ⟨tunnel, -, same⟩ := Option.bind_eq_some_iff.mp held
      exact .inl (Option.some_inj.mp same).symm
    · exact .inr held
  have streams := streamAt_storeAccept s tunnelId op
  refine ⟨⟨matched.mode, fun other stream container found => ?_⟩, matched.owned, matched.once,
    ?_, ?_⟩
  · rw [streams] at found
    exact matched.plain _ _ _ found
  · intro other index held attempted
    rcases stored held with rfl | before
    · rw [show (s.storeAccept tunnelId index).attemptsBy index = 0 from idle] at attempted
      contradiction
    · exact matched.busy other index before attempted
  · intro index errorCode value connection mem
    have own := matched.settled index errorCode value connection mem
    refine ⟨own.allocated, fun other held => ?_, own.idle, own.own⟩
    rcases stored held with rfl | before
    · exact uncompleted _ _ _ mem
    · exact own.absent other before

theorem Matched.accepts (host : Host) (matched : s.Matched) (wellFormed : s.WellFormed)
    (connected : s.state = .connected) (tunnelFound : s.tunnels[tunnelId]? = some tunnel)
    (free : tunnel.acceptOp = none) (storable : s.Storable (.acceptTunnel op)) (oracle : Oracle)
    (idle : s.attemptsBy op = 0) (uncompleted : ∀ errorCode value connection,
      Output.completed (.acceptTunnel op) errorCode value connection ∉ s.streamLog) :
    (s.acceptOnTunnel host tunnelId tunnel op oracle).Matched ∧ ∀ index,
      (s.acceptOnTunnel host tunnelId tunnel op oracle).attemptsBy index = s.attemptsBy index ∨
        (s.acceptOnTunnel host tunnelId tunnel op oracle).acceptOn tunnelId = some index := by
  have effects : Effects host [.stream] s (s.storeAccept tunnelId op) := by
    refine .single (.storeAccept connected ?_ storable)
    intro other found
    rw [tunnelFound, Option.some_inj] at found
    rw [← found]
    exact free
  have here : (s.storeAccept tunnelId op).acceptOn tunnelId = some op := by
    rw [Client.storeAccept, acceptOn_modifyTunnel, if_pos rfl, tunnelFound]
    rfl
  have stored : (s.storeAccept tunnelId op).Matched := matched.storeAccept idle uncompleted
  unfold acceptOnTunnel
  rw [if_neg (by simp [matched.mode])]
  split
  · rename_i streamId container first
    have mem := mem_of_find?_eq_some first
    have found : s.streamAt tunnelId streamId = some container := by
      rw [streamAt_of_found tunnelFound]
      exact TreeMap.mem_toList_iff_getElem?_eq_some.mp mem
    have plain := matched.plain _ _ _ found
    refine ⟨stored.doConnectStream host (effects.wellFormed wellFormed) here plain oracle,
      fun index => ?_⟩
    rcases doConnectStream_attemptsBy host (s.storeAccept tunnelId op) tunnelId streamId
      { tunnel with acceptOp := some op } plain oracle index with same | ⟨pending, kept⟩
    · exact .inl same
    · exact .inr ((kept tunnelId).trans (here.trans pending))
  · exact ⟨stored, fun _ => .inl rfl⟩

theorem Accounted.uncompleted (accounted : s.Accounted) {op : OpId}
    (handler : (s.ops op).handler = true) (errorCode : ErrorCode) (value : Value)
    (connection : Nat) : Output.completed op errorCode value connection ∉ s.log := by
  intro mem
  have invoked := accounted.invoked op
  rw [accounted.handler op, Bool.not_eq_true'] at handler
  rw [handler, if_neg (by simp)] at invoked
  exact countP_eq_zero.mp invoked _ mem (decide_eq_true rfl)

/-- The attempts are matched, and an operation that has one is stored or completed. -/
structure Owned (s : Client) : Prop extends s.Matched where
  pending : ∀ op, 0 < s.attemptsBy op → s.Pending (.acceptTunnel op)

theorem Owned.step (owned : s.Owned) (invariant : s.Invariant) {event : Event}
    (condition : OwnReports s event) (taken : Client.step host s event = some t) : t.Owned := by
  have wellFormed := invariant.wellFormed
  -- operations with an attempt that was there before, or that were stored before
  have pending {op : Nat} (before : 0 < s.attemptsBy op ∨ ∃ tunnelId, s.acceptOn tunnelId = some op) :
      t.Pending (.acceptTunnel op) := by
    refine Pending.step invariant ?_ taken
    rcases before with attempted | ⟨tunnelId, stored⟩
    · exact owned.pending op attempted
    · refine .inl ⟨.accept tunnelId, ?_⟩
      rw [holds, stored]
      rfl
  cases streamStep_of_step invariant taken with
  | quiet quiet =>
    refine ⟨owned.toMatched.of_kept wellFormed quiet.table.toTableKept quiet.ops, fun op => ?_⟩
    rw [attemptsBy, quiet.table.attempts]
    exact fun attempted => pending (.inl attempted)
  | reported found =>
    rename_i index input generation connection tunnelId streamId peer owner
    simp only [OwnReports, found] at condition
    refine ⟨owned.toMatched.reports wellFormed found _ condition, fun op attempted => ?_⟩
    refine pending (.inl (Nat.lt_of_lt_of_le attempted ?_))
    have counted := attemptsBy_takeTask found op
    have same : ((s.takeTask index).perform host
        ⟨generation, connection, .connectStream tunnelId streamId peer owner⟩ input).attempts =
        (s.takeTask index).attempts := by
      simp only [perform]
      split
      · exact onConnectStream_attempts host _ _ _ _ _
      · exact onConnectStream_attempts host _ _ _ _ _
    rw [attemptsBy, same, ← attemptsBy]
    omega
  | requested found message quiet =>
    rename_i index input connection request
    have idle := quiet_takeTask found rfl
    have before := owned.toMatched.of_kept wellFormed idle.table.toTableKept idle.ops
    have present := (wellFormed.takeTask found).1
    have handled : Effects host [.control, .stream] (s.takeTask index)
        ((s.takeTask index).onProxyConnReq host request input.toOracle).1 :=
      onProxyConnReq_effects _ _ _
    obtain ⟨matched, attempts⟩ := before.requested host present request input.toOracle
    refine ⟨matched.of_kept (handled.wellFormed present) quiet.table.toTableKept quiet.ops,
      fun op => ?_⟩
    rw [attemptsBy, quiet.table.attempts, ← attemptsBy]
    intro attempted
    rcases attempts op with same | stored
    · rw [same, attemptsBy, idle.table.attempts] at attempted
      exact pending (.inl attempted)
    · exact pending (.inr ⟨_, stored⟩)
  | accepting found connected tunnelFound free handler uncancelled quiet accepted storable =>
    rename_i index input generation connection tunnelId op tunnel tasks log
    have before := owned.toMatched.of_kept wellFormed quiet.table.toTableKept quiet.ops
    have uncompleted (errorCode : ErrorCode) (value : Value) (connection : Nat) :
        Output.completed (.acceptTunnel op) errorCode value connection ∉ s.log :=
      invariant.accounted.uncompleted handler _ _ _
    -- the operation has just been dispatched, so it is not stored and not completed
    have unattempted : s.attemptsBy op = 0 := by
      by_contra attempted
      rcases owned.pending op (Nat.pos_of_ne_zero attempted) with stored | completed
      · refine wellFormed.absent (.acceptTunnel op) ?_ stored
        exact countP_pos_iff.mpr ⟨_, mem_of_taken found, decide_eq_true rfl⟩
      · rw [invariant.accounted.handler, completed] at handler
        contradiction
    have idle : ({ s with tasks := tasks, log := log } : Client).attemptsBy op = 0 := by
      rw [attemptsBy, quiet.table.attempts]
      exact unattempted
    obtain ⟨matched, attempts⟩ := before.accepts host accepted.wellFormed connected
      tunnelFound free storable input.toOracle idle (by
        intro errorCode value connection mem
        rw [quiet.table.streamLog] at mem
        exact uncompleted _ _ _ (mem_of_mem_filter mem))
    refine ⟨matched, fun index attempted => ?_⟩
    rcases attempts index with same | stored
    · rw [same, attemptsBy, quiet.table.attempts] at attempted
      exact pending (.inl attempted)
    · refine .inl ⟨.accept tunnelId, ?_⟩
      rw [holds, stored]
      rfl

theorem owned_make {config : ConfigClient} (mode : config.asyncStreamOperation = false)
    (defaultServerAddress : Except ErrorCode Address)
    (token mtlsToken : Except ErrorCode (Option String)) :
    (make config defaultServerAddress token mtlsToken).Owned := by
  refine ⟨⟨socketless_make mode _ _ _, fun task mem => ?_, fun op => Nat.zero_le 1,
    fun tunnelId op _ attempted => ?_, fun op _ _ _ mem => ?_⟩, fun op attempted => ?_⟩
  · contradiction
  · contradiction
  · contradiction
  · contradiction

/-- **Streams and their own peers.** In every run in which the reports of connect
attempts reach the accept operations they were made for, an accept operation that
completes with a stream receives its own peer, its own attempt connected that peer for
that stream on the same connection, and it has no attempt left in flight. -/
theorem sync_streams_own (s : Client) (mode : s.config.asyncStreamOperation = false)
    (reachable : ReachableBy host OwnReports s) (op : Nat) (errorCode : ErrorCode) (value : Value)
    (connection : Nat)
    (completed : Output.completed (.acceptTunnel op) errorCode value connection ∈ s.log)
    (succeeded : errorCode.failed = false) :
    ∃ endpoint streamId, value = .accepted endpoint (s.ops (.acceptTunnel op)).peer ∧
      endpoint.idName = some streamId ∧
      Output.streamConnected connection streamId (s.ops (.acceptTunnel op)).peer (some op) ∈
        s.log ∧
      ∀ task ∈ s.tasks, task.work.isOwnedBy op = false := by
  obtain ⟨config, defaultServerAddress, token, mtlsToken, run⟩ := reachable
  have all : s.Invariant ∧ s.config = config ∧
      (config.asyncStreamOperation = false → s.Owned) := by
    refine run.invariant (p := fun u => u.Invariant ∧ u.config = config ∧
      (config.asyncStreamOperation = false → u.Owned)) ⟨invariant_make _ _ _ _, rfl, ?_⟩ ?_
    · exact fun mode => owned_make mode _ _ _
    · rintro u event v ⟨invariant, same, owned⟩ condition taken
      exact ⟨invariant.step taken, (config_of_step invariant taken).trans same,
        fun mode => (owned mode).step invariant condition taken⟩
  obtain ⟨-, same, owned⟩ := all
  have matched := (owned (same ▸ mode)).toMatched
  have own := matched.settled op errorCode value connection
    (mem_filter.mpr ⟨completed, by simp [Output.isStream, succeeded]⟩)
  obtain ⟨endpoint, streamId, received, named, connected⟩ := own.own
  refine ⟨endpoint, streamId, received, named, mem_of_mem_filter connected, ?_⟩
  intro task mem
  have idle := own.idle
  rw [attemptsBy_eq] at idle
  simpa using countP_eq_zero.mp idle task mem

/-- A stream is requested while an accept operation is pending, and connects. -/
def connectedForAccept : List Event :=
  openTunnel ++ [.call (.asyncAcceptTunnel "tunnel" 7), .run 4 {},
    .run 3 { message := some (.proxyConnReq ⟨"tunnel", "stream", none, none, none⟩) }, .run 3 {}]

theorem connectedForAccept_isSome :
    (exec (Client.step .plain) syncPlain connectedForAccept).isSome = true := by
  decide

/-- The accept operation receives its own peer. -/
theorem connectedForAccept_own : ∃ s : Client, (s.ops (.acceptTunnel 2)).peer = 7 ∧
    ∃ endpoint streamId, Value.accepted { idName := some "stream" } 7 =
        .accepted endpoint (s.ops (.acceptTunnel 2)).peer ∧ endpoint.idName = some streamId ∧
      Output.streamConnected 1 streamId (s.ops (.acceptTunnel 2)).peer (some 2) ∈ s.log ∧
      ∀ task ∈ s.tasks, task.work.isOwnedBy 2 = false := by
  refine ⟨(exec (Client.step .plain) syncPlain connectedForAccept).get
    connectedForAccept_isSome, by decide, ?_⟩
  have reachable : ReachableBy .plain OwnReports _ :=
    ⟨_, _, _, _, .of_exec (by decide) (Option.some_get connectedForAccept_isSome).symm⟩
  exact sync_streams_own _ (by decide) reachable 2 .none _ 1 (by decide) (by decide)

/-- A stream connects for an accept operation that is cancelled, and then for the next
one. The first attempt succeeds. -/
def connectedForCancelled : List Event :=
  openTunnel ++ [.run 3 { message := some (.proxyConnReq ⟨"tunnel", "stream", none, none, none⟩) },
    .call (.asyncAcceptTunnel "tunnel" 7), .run 4 {}, .call (.cancel (.acceptTunnel 2)), .run 5 {},
    .call (.asyncAcceptTunnel "tunnel" 8), .run 5 {}, .run 4 {}]

theorem connectedForCancelled_isSome :
    (exec (Client.step .plain) syncPlain connectedForCancelled).isSome = true := by
  decide

/-- The second operation completes with the stream and its own peer, which has not
connected and whose attempt is still in flight. -/
theorem connectedForCancelled_mismatched : ∃ s : Client, Reachable .plain s ∧
    s.config.asyncStreamOperation = false ∧ (s.ops (.acceptTunnel 3)).peer = 8 ∧
    .completed (.acceptTunnel 3) .none (.accepted { idName := some "stream" } 8) 1 ∈ s.log ∧
    s.log.countP (Output.reports 8) = 0 ∧ s.attemptsBy 3 = 1 := by
  exact ⟨_, ⟨_, _, _, _, Reaches.of_exec connectedForCancelled_isSome⟩, by decide,
    by decide, by decide, by decide, by decide⟩

end Client

end Rstream.IoRstrm
