import Rstream.IoRstrm.Client.Completions

/-!
# Proxied streams: what every step may do to them

The results about proxied streams share one analysis of the client's steps. A step
is either one of the three that handle streams (the report of a connect attempt,
a proxy request, an accept operation on a tunnel), or it is quiet.

A quiet change keeps the attempts in flight and the outputs about streams; a tunnel
may lose streams and its accept operation but not gain any, a new tunnel has
neither, and a connection that is open afterwards is the same one as before or has
no streams yet (`TableFrame`). It also keeps what the accept operations are doing
(`OpsKept`) and sends no proxy response. Every effect outside the area of streams
is quiet, so an invariant about streams is proved for the three handlers and moved
along quiet changes otherwise.
-/

namespace Rstream.IoRstrm

open Library Option Nat
open Std (TreeMap)

/-- Outputs about the fate of proxied streams: proxy requests, reports of successful
connect attempts and successful completions of accept operations. -/
def Output.isStream : Output → Bool
  | .proxyRequest _ _ _ | .streamConnected _ _ _ _ => true
  | .completed (.acceptTunnel _) errorCode _ _ => !errorCode.failed
  | _ => false

/-- The output is a proxy response for a stream. -/
def Output.isResponse (connection : Nat) (streamId : String) : Output → Bool
  | .sent other _ (.proxyConnRsp stream _) => other = connection ∧ stream = streamId
  | _ => false

/-- The tunnel has no streams but those of an earlier one, and its accept operation
or none. -/
structure Tunnel.Within (tunnel before : Tunnel) : Prop where
  streams : ∀ (streamId : String) (container : Container),
    tunnel.streams[streamId]? = some container → before.streams[streamId]? = some container
  size : tunnel.streams.size ≤ before.streams.size
  acceptOp : tunnel.acceptOp = before.acceptOp ∨ tunnel.acceptOp = none

theorem Tunnel.Within.refl (tunnel : Tunnel) : tunnel.Within tunnel :=
  ⟨fun _ _ found => found, Nat.le_refl _, .inl rfl⟩

namespace Client

variable {host : Host} {area : Area} {s t u : Client}

/-! ## Vocabulary -/

/-- The connect attempts in flight. -/
def attempts (s : Client) : List Task := s.tasks.filter fun task => task.work.isConnectStream

/-- The outputs about streams. -/
def streamLog (s : Client) : List Output := s.log.filter Output.isStream

/-- The proxy responses sent for a stream of a connection. -/
def responses (s : Client) (connection : Nat) (streamId : String) : Nat :=
  s.log.countP (Output.isResponse connection streamId)

/-- An entry of the `m_streams` of a tunnel. -/
def streamAt (s : Client) (tunnelId streamId : String) : Option Container :=
  s.tunnels[tunnelId]?.bind fun tunnel => tunnel.streams[streamId]?

/-- The size of the `m_streams` of a tunnel. -/
def streamCount (s : Client) (tunnelId : String) : Nat :=
  s.tunnels[tunnelId]?.elim 0 fun tunnel => tunnel.streams.size

variable {tunnelId : String} {tunnel : Tunnel} {output : Output} {task : Task}
  {connection index generation : Nat} {work : Work} {areas : List Area}

section

variable (found : s.tunnels[tunnelId]? = some tunnel)

include found

theorem streamAt_of_found (streamId : String) :
    s.streamAt tunnelId streamId = tunnel.streams[streamId]? := by
  rw [streamAt, found, bind_some]

theorem acceptOn_of_found :
    s.acceptOn tunnelId = tunnel.acceptOp := by
  rw [acceptOn, found, bind_some]

theorem streamCount_of_found :
    s.streamCount tunnelId = tunnel.streams.size := by
  rw [streamCount, found, elim_some]

end

theorem streamLog_append (log : t.log = s.log ++ [output]) :
    t.streamLog = s.streamLog ++ if output.isStream then [output] else [] := by
  rw [streamLog, log, List.filter_append, List.filter_singleton, cond_eq_ite, streamLog]

theorem streamLog_of_other (log : t.log = s.log ++ [output]) (other : output.isStream = false) :
    t.streamLog = s.streamLog := by
  rw [streamLog_append log, other]
  exact List.append_nil _

theorem attempts_append (tasks : t.tasks = s.tasks ++ [task]) :
    t.attempts = s.attempts ++ if task.work.isConnectStream then [task] else [] := by
  rw [attempts, tasks, List.filter_append, List.filter_singleton, cond_eq_ite, attempts]

theorem attempts_of_other (tasks : t.tasks = s.tasks ++ [task])
    (other : task.work.isConnectStream = false) : t.attempts = s.attempts := by
  rw [attempts_append tasks, other]
  exact List.append_nil _

theorem attempts_start (s : Client) (tunnelId streamId : String) (peer : PeerId)
    (owner : Option Nat) :
    (s.start (.connectStream tunnelId streamId peer owner)).attempts = s.attempts ++
      [⟨s.generation, s.connection, .connectStream tunnelId streamId peer owner⟩] := by
  rw [attempts_append (start_tasks s _)]
  rfl

theorem responses_of_other (log : t.log = s.log ++ [output])
    (other : ∀ connection streamId, output.isResponse connection streamId = false) :
    t.responses = s.responses := by
  funext connection streamId
  rw [responses, log, List.countP_append, List.countP_singleton, other]
  rfl

/-! ## Kept streams -/

/-- What is kept of the streams, whatever the connection does. -/
structure TableKept (s t : Client) : Prop where
  config : t.config = s.config
  attempts : t.attempts = s.attempts
  streamLog : t.streamLog = s.streamLog
  streams : ∀ tunnelId streamId container, t.streamAt tunnelId streamId = some container →
    s.streamAt tunnelId streamId = some container
  count : ∀ tunnelId, t.streamCount tunnelId ≤ s.streamCount tunnelId
  accept : ∀ tunnelId, t.acceptOn tunnelId = s.acceptOn tunnelId ∨ t.acceptOn tunnelId = none

namespace TableKept

theorem refl : TableKept s s :=
  ⟨rfl, rfl, rfl, fun _ _ _ found => found, fun _ => Nat.le_refl _, fun _ => .inl rfl⟩

theorem trans (first : TableKept s t) (second : TableKept t u) : TableKept s u := by
  refine ⟨second.config.trans first.config, second.attempts.trans first.attempts,
    second.streamLog.trans first.streamLog, ?_, ?_, ?_⟩
  · intro tunnelId streamId container found
    exact first.streams _ _ _ (second.streams _ _ _ found)
  · intro tunnelId
    exact Nat.le_trans (second.count tunnelId) (first.count tunnelId)
  · intro tunnelId
    rcases second.accept tunnelId with kept | lost
    · rw [kept]
      exact first.accept tunnelId
    · exact .inr lost

theorem of_same (config : t.config = s.config) (tunnels : t.tunnels = s.tunnels)
    (attempts : t.attempts = s.attempts) (streamLog : t.streamLog = s.streamLog) :
    TableKept s t := by
  refine ⟨config, attempts, streamLog, ?_, ?_, ?_⟩
  · intro tunnelId streamId container found
    rwa [streamAt, tunnels] at found
  · intro tunnelId
    rw [streamCount, tunnels]
    exact Nat.le_refl _
  · intro tunnelId
    rw [acceptOn, tunnels]
    exact .inl rfl

/-- Only the tunnels change, each within what it was. -/
theorem of_within (config : t.config = s.config) (attempts : t.attempts = s.attempts)
    (streamLog : t.streamLog = s.streamLog)
    (within : ∀ (tunnelId : String) (tunnel : Tunnel), t.tunnels[tunnelId]? = some tunnel →
      tunnel.Within (s.tunnels[tunnelId]?.getD {})) : TableKept s t := by
  refine ⟨config, attempts, streamLog, ?_, ?_, ?_⟩
  · intro tunnelId streamId container found
    obtain ⟨tunnel, present, stream⟩ := bind_eq_some_iff.mp found
    have before := (within tunnelId tunnel present).streams streamId container stream
    cases earlier : s.tunnels[tunnelId]? with
    | none =>
      rw [earlier] at before
      contradiction
    | some tunnel =>
      rw [earlier] at before
      rw [streamAt_of_found earlier]
      exact before
  · intro tunnelId
    cases present : t.tunnels[tunnelId]? with
    | none =>
      rw [streamCount, present]
      exact zero_le _
    | some tunnel =>
      have size := (within tunnelId tunnel present).size
      rw [streamCount_of_found present]
      cases earlier : s.tunnels[tunnelId]? with
      | none =>
        rw [earlier] at size
        exact Nat.le_trans size (Nat.zero_le _)
      | some before =>
        rw [earlier] at size
        rw [streamCount_of_found earlier]
        exact size
  · intro tunnelId
    cases present : t.tunnels[tunnelId]? with
    | none =>
      rw [acceptOn, present]
      exact .inr rfl
    | some tunnel =>
      have accept := (within tunnelId tunnel present).acceptOp
      rw [acceptOn_of_found present]
      cases earlier : s.tunnels[tunnelId]? with
      | none =>
        rw [earlier] at accept
        rcases accept with none | none
        · exact .inr none
        · exact .inr none
      | some before =>
        rw [earlier] at accept
        rw [acceptOn_of_found earlier]
        exact accept

theorem modifyTunnel (s : Client) (tunnelId : String) {change : Tunnel → Tunnel}
    (within : ∀ tunnel, (change tunnel).Within tunnel) :
    TableKept s (s.modifyTunnel tunnelId change) := by
  refine of_within rfl rfl rfl fun other tunnel found => ?_
  rw [modifyTunnel_tunnels, getElem?_modify] at found
  split at found
  · obtain ⟨before, foundBefore, rfl⟩ := map_eq_some_iff.mp found
    rw [foundBefore]
    exact within before
  · rw [found]
    exact .refl tunnel

end TableKept

/-- What the accept operations that exist are doing is kept. -/
structure OpsKept (s t : Client) : Prop where
  busy : ∀ op < s.nextOp, (t.ops (.acceptTunnel op)).busy = (s.ops (.acceptTunnel op)).busy
  peer : ∀ op < s.nextOp, (t.ops (.acceptTunnel op)).peer = (s.ops (.acceptTunnel op)).peer
  nextOp : s.nextOp ≤ t.nextOp

namespace OpsKept

theorem of_same (ops : t.ops = s.ops) (nextOp : t.nextOp = s.nextOp) : OpsKept s t := by
  refine ⟨fun _ _ => ?_, fun _ _ => ?_, Nat.le_of_eq nextOp.symm⟩
  · rw [ops]
  · rw [ops]

theorem trans (first : OpsKept s t) (second : OpsKept t u) : OpsKept s u := by
  refine ⟨fun op allocated => ?_, fun op allocated => ?_,
    Nat.le_trans first.nextOp second.nextOp⟩
  · exact (second.busy op (Nat.lt_of_lt_of_le allocated first.nextOp)).trans
      (first.busy op allocated)
  · exact (second.peer op (Nat.lt_of_lt_of_le allocated first.nextOp)).trans
      (first.peer op allocated)

theorem modifyOp (s : Client) (op : OpId) (change : Op → Op)
    (busy : ∀ o, (change o).busy = o.busy) (peer : ∀ o, (change o).peer = o.peer) :
    OpsKept s (s.modifyOp op change) :=
  ⟨fun _ _ => ops_modifyOp_of_kept Op.busy change busy s op _,
    fun _ _ => ops_modifyOp_of_kept Op.peer change peer s op _, Nat.le_refl _⟩

theorem settle (s : Client) (op : OpId) (errorCode : ErrorCode) (value : Value) :
    OpsKept s (s.settle op errorCode value) := by
  have marked : OpsKept s (s.modifyOp op fun o => { o with completed := true, handler := false }) :=
    modifyOp s op _ (fun _ => rfl) fun _ => rfl
  exact marked.trans (of_same rfl rfl)

end OpsKept

/-! ## Effects outside the area of streams -/

theorem isStream_of_isNotice (notice : output.isNotice = true) : output.isStream = false := by
  cases output with
  | closePeer _ | status _ => rfl
  | _ => contradiction

theorem isStream_of_isSocket (socket : output.isSocket = true) : output.isStream = false := by
  cases output with
  | socketOpen _ | socketConnect _ | socketClose _ => rfl
  | _ => contradiction

theorem isResponse_of_isNotice (notice : output.isNotice = true) (connection : Nat)
    (streamId : String) : output.isResponse connection streamId = false := by
  cases output with
  | closePeer _ | status _ => rfl
  | _ => contradiction

theorem isResponse_of_isSocket (socket : output.isSocket = true) (connection : Nat)
    (streamId : String) : output.isResponse connection streamId = false := by
  cases output with
  | socketOpen _ | socketConnect _ | socketClose _ => rfl
  | _ => contradiction

theorem isResponse_of_control {secure : Bool} {message : Message}
    (control : ∀ streamId error, message ≠ .proxyConnRsp streamId error) (other : Nat)
    (streamId : String) :
    (Output.sent connection secure message).isResponse other streamId = false := by
  cases message with
  | proxyConnRsp streamId error => exact absurd rfl (control streamId error)
  | _ => rfl

theorem isConnectStream_of_isPlain (plain : work.isPlain = true) :
    work.isConnectStream = false := by
  cases work with
  | connectStream _ _ _ _ => contradiction
  | _ => rfl

theorem isConnectStream_of_dispatches {op : OpId} (dispatches : work.dispatches op = true) :
    work.isConnectStream = false := by
  cases work with
  | connectStream _ _ _ _ => contradiction
  | _ => rfl

theorem isConnectStream_of_isRange (range : work.isRange = true) :
    work.isConnectStream = false := by
  cases work with
  | connectStream _ _ _ _ => contradiction
  | _ => rfl

theorem isStream_completed_of_failed {op : OpId} {errorCode : ErrorCode} {value : Value}
    (failed : errorCode.failed = true) :
    (Output.completed op errorCode value connection).isStream = false := by
  cases op with
  | acceptTunnel index => simp [Output.isStream, failed]
  | _ => rfl

theorem TableKept.settle (s : Client) (op : OpId) {errorCode : ErrorCode} (value : Value)
    (other : (Output.completed op errorCode value s.connection).isStream = false) :
    TableKept s (s.settle op errorCode value) :=
  .of_same rfl rfl rfl (streamLog_of_other rfl other)

theorem Effect.tableKept (effect : Effect host area s t) (other : area ≠ .stream) :
    TableKept s t := by
  cases effect with
  | notice plain =>
    exact .of_same rfl rfl rfl (streamLog_of_other rfl (isStream_of_isNotice plain))
  | socketOutput socket =>
    exact .of_same rfl rfl rfl (streamLog_of_other rfl (isStream_of_isSocket socket))
  | fault | disconnection => exact .of_same rfl rfl rfl (streamLog_of_other rfl rfl)
  | send running confined control =>
    exact .of_same rfl rfl (attempts_of_other rfl rfl) (streamLog_of_other rfl rfl)
  | start plain =>
    exact .of_same rfl rfl (attempts_of_other rfl (isConnectStream_of_isPlain plain)) rfl
  | dispatch dispatches storable =>
    exact .of_same rfl rfl (attempts_of_other rfl (isConnectStream_of_dispatches dispatches)) rfl
  | close cause stateChanges running first =>
    exact .of_same rfl rfl (attempts_of_other rfl rfl) rfl
  | resume stamped range =>
    exact .of_same rfl rfl (attempts_of_other rfl (isConnectStream_of_isRange range)) rfl
  | fail pending failed other => exact .settle s _ _ (isStream_completed_of_failed failed)
  | failConnect pending failed =>
    exact (TableKept.settle s _ _ (isStream_completed_of_failed failed)).trans
      (.of_same rfl rfl rfl rfl)
  | opened connecting stored pending =>
    have shifted : TableKept s (s.setState .connected) := .of_same rfl rfl rfl rfl
    exact (shifted.trans (.settle _ _ _ rfl)).trans (.of_same rfl rfl rfl rfl)
  | created pending => exact .settle s _ _ rfl
  | markClosing tunnelId =>
    exact .modifyTunnel s tunnelId fun _ => ⟨fun _ _ found => found, Nat.le_refl _, .inl rfl⟩
  | clearAccept settled =>
    exact .modifyTunnel s _ fun _ => ⟨fun _ _ found => found, Nat.le_refl _, .inr rfl⟩
  | eraseTunnel settled =>
    refine .of_within rfl rfl rfl fun other tunnel found => ?_
    rw [getElem?_erase] at found
    split at found
    · contradiction
    · rw [found]
      exact .refl tunnel
  | addTunnel running opened =>
    refine .of_within rfl rfl rfl fun other tunnel found => ?_
    rw [getElem?_insertIfNew] at found
    split at found
    · cases found
      exact .refl _
    · rw [found]
      exact .refl tunnel
  | request | streams _ | peer | busy _ _ | connectStream | respond _
  | storeAccept _ _ _ | handed _ _ | accepted _ | streamConnected => contradiction
  | _ => exact .of_same rfl rfl rfl rfl

theorem Effect.opsKept (effect : Effect host area s t) (other : area ≠ .stream) :
    OpsKept s t := by
  cases effect with
  | fail _ _ _ | created _ => exact .settle s _ _ _
  | failConnect pending failed =>
    rename_i op errorCode
    have settled : OpsKept s (s.settle (.connect op) errorCode .unit) := .settle s _ _ _
    exact settled.trans (.of_same rfl rfl)
  | opened connecting stored pending =>
    rename_i op
    have shifted : OpsKept s (s.setState .connected) := .of_same rfl rfl
    have settled : OpsKept s ((s.setState .connected).settle (.connect op) .none .unit) :=
      shifted.trans (.settle _ _ _ _)
    exact settled.trans (.of_same rfl rfl)
  | allocate fresh cancelled completed handler reserved =>
    rename_i op arguments
    have apart (index : Nat) (allocated : index < s.nextOp) : OpId.acceptTunnel index ≠ op := by
      rintro rfl
      exact absurd fresh (Nat.ne_of_lt allocated)
    refine ⟨fun index allocated => ?_, fun index allocated => ?_, le_succ _⟩
    · simp [apart index allocated]
    · simp [apart index allocated]
  | reserve free =>
    have filled : OpsKept s (s.modifyOp (.connect s.nextOp) fun o =>
        { o with reserved := true, live := true }) :=
      .modifyOp s _ _ (fun _ => rfl) fun _ => rfl
    exact ⟨filled.busy, filled.peer, le_succ _⟩
  | cancelled live => exact .modifyOp s _ _ (fun _ => rfl) fun _ => rfl
  | release idle reserved pending absent =>
    rename_i op
    have released : OpsKept s (s.modifyOp (.connect op) fun o => { o with reserved := false }) :=
      .modifyOp s _ _ (fun _ => rfl) fun _ => rfl
    exact released.trans (.of_same rfl rfl)
  | busy _ _ | accepted _ => contradiction
  | _ => exact .of_same rfl rfl

theorem Effect.responses (effect : Effect host area s t) (other : area ≠ .stream) :
    t.responses = s.responses := by
  cases effect with
  | notice plain => exact responses_of_other rfl (isResponse_of_isNotice plain)
  | socketOutput socket => exact responses_of_other rfl (isResponse_of_isSocket socket)
  | send _ _ control => exact responses_of_other rfl (isResponse_of_control control)
  | fault | disconnection => exact responses_of_other rfl fun _ _ => rfl
  | fail _ _ _ | failConnect _ _ | opened _ _ _ | created _ =>
    exact responses_of_other rfl fun _ _ => rfl
  | request | connectStream | respond _ | accepted _ | streamConnected => contradiction
  | _ => rfl

theorem Effects.tableKept (effects : Effects host areas s t) (outside : .stream ∉ areas) :
    TableKept s t := by
  refine effects.invariant (p := fun u => TableKept s u) ?_ .refl
  intro area u v mem effect kept
  exact kept.trans (effect.tableKept fun same => outside (same ▸ mem))

/-- The configuration never changes. -/
theorem Effects.config (effects : Effects host areas s t) : t.config = s.config := by
  refine effects.invariant (p := fun u => u.config = s.config) ?_ rfl
  intro area u v mem effect same
  rw [← same]
  cases effect with
  | _ => rfl

/-! ## Quiet changes -/

/-- No tunnel has a stream or an accept operation. -/
def Unused (s : Client) : Prop :=
  ∀ tunnelId, s.acceptOn tunnelId = none ∧ ∀ streamId, s.streamAt tunnelId streamId = none

theorem NoTunnels.unused (absent : s.NoTunnels) : s.Unused := by
  intro tunnelId
  refine ⟨?_, fun streamId => ?_⟩
  · rw [acceptOn, absent tunnelId]
    rfl
  · rw [streamAt, absent tunnelId]
    rfl

theorem Unused.of_kept (unused : s.Unused) (kept : TableKept s t) : t.Unused := by
  intro tunnelId
  obtain ⟨free, empty⟩ := unused tunnelId
  refine ⟨?_, fun streamId => ?_⟩
  · rcases kept.accept tunnelId with same | lost
    · exact same.trans free
    · exact lost
  · cases found : t.streamAt tunnelId streamId with
    | none => rfl
    | some container =>
      have before := kept.streams _ _ _ found
      rw [empty streamId] at before
      contradiction

/-- The streams are kept, and an open connection is the one that was open before or
has no streams yet. -/
structure TableFrame (s t : Client) : Prop extends TableKept s t where
  live : t.state = .connected →
    (s.state = .connected ∧ t.generation = s.generation ∧ t.connection = s.connection) ∨ t.Unused

namespace TableFrame

theorem of_live (kept : TableKept s t) (state : t.state = s.state)
    (generation : t.generation = s.generation) (connection : t.connection = s.connection) :
    TableFrame s t :=
  ⟨kept, fun connected => .inl ⟨state ▸ connected, generation, connection⟩⟩

theorem refl : TableFrame s s := of_live .refl rfl rfl rfl

theorem trans (first : TableFrame s t) (second : TableFrame t u) : TableFrame s u := by
  refine ⟨first.toTableKept.trans second.toTableKept, fun connected => ?_⟩
  rcases second.live connected with ⟨still, generation, connection⟩ | unused
  · rcases first.live still with ⟨before, generationBefore, connectionBefore⟩ | unused
    · exact .inl ⟨before, generation.trans generationBefore, connection.trans connectionBefore⟩
    · exact .inr (unused.of_kept second.toTableKept)
  · exact .inr unused

end TableFrame

/-- A change that has nothing to do with streams. -/
structure Quiet (s t : Client) : Prop where
  table : TableFrame s t
  ops : OpsKept s t
  responses : t.responses = s.responses

theorem Quiet.refl : Quiet s s := ⟨.refl, .of_same rfl rfl, rfl⟩

theorem Quiet.trans (first : Quiet s t) (second : Quiet t u) : Quiet s u :=
  ⟨first.table.trans second.table, first.ops.trans second.ops,
    second.responses.trans first.responses⟩

theorem quiet_emit (s : Client) (other : output.isStream = false)
    (control : ∀ connection streamId, output.isResponse connection streamId = false) :
    Quiet s (s.emit output) :=
  ⟨.of_live (.of_same rfl rfl rfl (streamLog_of_other rfl other)) rfl rfl rfl, .of_same rfl rfl,
    responses_of_other rfl control⟩

theorem Effect.quiet (effect : Effect host area s t) (phase : s.Phase) (other : area ≠ .stream) :
    Quiet s t := by
  refine ⟨⟨effect.tableKept other, fun connected => ?_⟩, effect.opsKept other,
    effect.responses other⟩
  have opened (connecting : s.state = .connecting) (tunnels : t.tunnels = s.tunnels) :
      t.Unused := by
    refine NoTunnels.unused fun tunnelId => ?_
    rw [tunnels]
    exact phase.tunnels (.inr connecting) tunnelId
  cases effect with
  | close _ _ _ _ | leave _ | begin _ _ _ _ | reset _ => simp at connected
  | opened connecting _ _ | openedUnobserved connecting _ => exact .inr (opened connecting rfl)
  | _ => exact .inl ⟨connected, rfl, rfl⟩

theorem Invariant.quiet (invariant : s.Invariant) (effects : Effects host areas s t)
    (running : .ending ∉ areas) (outside : .stream ∉ areas) : Quiet s t := by
  have all : t.Accounted ∧ t.Phase ∧ Quiet s t := by
    refine effects.invariant (p := fun u => u.Accounted ∧ u.Phase ∧ Quiet s u) ?_
      ⟨invariant.accounted, invariant.phase, .refl⟩
    rintro area u v mem effect ⟨accounted, phase, quiet⟩
    have notEnding : area ≠ .ending := fun same => running (same ▸ mem)
    exact ⟨effect.accounted accounted, phase.of_effect accounted effect notEnding,
      quiet.trans (effect.quiet phase fun same => outside (same ▸ mem))⟩
  exact all.2.2

/-- The end of a connection leaves `state::connected`, so it is quiet as well. -/
theorem quiet_of_idle (effects : Effects host areas s t) (outside : .stream ∉ areas)
    (idle : t.state = .null) : Quiet s t := by
  have kept : TableKept s t ∧ OpsKept s t ∧ t.responses = s.responses := by
    refine effects.invariant
      (p := fun u => TableKept s u ∧ OpsKept s u ∧ u.responses = s.responses) ?_
      ⟨.refl, .of_same rfl rfl, rfl⟩
    rintro area u v mem effect ⟨table, ops, responses⟩
    have other : area ≠ .stream := fun same => outside (same ▸ mem)
    exact ⟨table.trans (effect.tableKept other), ops.trans (effect.opsKept other),
      (effect.responses other).trans responses⟩
  refine ⟨⟨kept.1, fun connected => ?_⟩, kept.2.1, kept.2.2⟩
  rw [idle] at connected
  contradiction

/-! ## The steps that handle streams -/

/-- Taking work that is not a connect attempt. -/
theorem quiet_takeTask (found : s.tasks[index]? = some task)
    (other : task.work.isConnectStream = false) : Quiet s (s.takeTask index) :=
  ⟨.of_live (.of_same rfl rfl (filter_of_taken found other) rfl) rfl rfl rfl,
    .of_same rfl rfl, rfl⟩

/-- A step, seen from the streams. -/
inductive StreamStep (host : Host) (s : Client) : Event → Client → Prop where
  | quiet {event : Event} {t : Client} (quiet : Quiet s t) : StreamStep host s event t
  | reported {index : Nat} {input : Input} {generation connection : Nat}
      {tunnelId streamId : String} {peer : PeerId} {owner : Option Nat}
      (found : s.tasks[index]? =
        some ⟨generation, connection, .connectStream tunnelId streamId peer owner⟩) :
      StreamStep host s (.run index input) ((s.takeTask index).perform host
        ⟨generation, connection, .connectStream tunnelId streamId peer owner⟩ input)
  | requested {index : Nat} {input : Input} {connection : Nat} {request : ProxyConnReq}
      {t : Client} (found : s.tasks[index]? = some ⟨s.generation, connection, .read⟩)
      (message : input.message = some (.proxyConnReq request))
      (quiet : Quiet ((s.takeTask index).onProxyConnReq host request input.toOracle).1 t) :
      StreamStep host s (.run index input) t
  | accepting {index : Nat} {input : Input} {generation connection : Nat} {tunnelId : String}
      {op : Nat} {tunnel : Tunnel} {tasks : List Task} {log : List Output}
      (found : s.tasks[index]? = some ⟨generation, connection, .asyncAcceptTunnelInternal tunnelId op⟩)
      (connected : s.state = .connected) (tunnelFound : s.tunnels[tunnelId]? = some tunnel)
      (free : tunnel.acceptOp = none) (handler : (s.ops (.acceptTunnel op)).handler = true)
      (uncancelled : (s.ops (.acceptTunnel op)).cancelled = false)
      (quiet : Quiet s { s with tasks := tasks, log := log })
      (invariant : ({ s with tasks := tasks, log := log } : Client).Invariant)
      (storable : ({ s with tasks := tasks, log := log } : Client).Storable (.acceptTunnel op)) :
      StreamStep host s (.run index input)
        (({ s with tasks := tasks, log := log } : Client).acceptOnTunnel host tunnelId tunnel op
          input.toOracle)

/-- Reading a message, seen from the streams. -/
theorem streamStep_read (invariant : s.Invariant)
    (found : s.tasks[index]? = some ⟨generation, connection, .read⟩) (input : Input) :
    StreamStep host s (.run index input)
      ((s.takeTask index).onReadIncomingData host generation input) := by
  have wellFormed := (invariant.wellFormed.takeTask found).1
  have before : (s.takeTask index).Invariant :=
    ⟨wellFormed, invariant.accounted.takeTask index, invariant.phase.takeTask found rfl⟩
  have taken : Quiet s (s.takeTask index) := quiet_takeTask found rfl
  have quiet {v : Client} (effects : Effects host [.control] (s.takeTask index) v) :
      StreamStep host s (.run index input) v :=
    .quiet (taken.trans (before.quiet effects (by simp) (by simp)))
  have absent : (s.takeTask index).state = .connecting → (s.takeTask index).NoTunnels :=
    fun connecting => invariant.phase.tunnels (.inr connecting)
  unfold onReadIncomingData
  by_cases stale : generation ≠ (s.takeTask index).generation ∨ (s.takeTask index).state = .null
  · rw [if_pos stale]
    exact quiet .refl
  · rw [if_neg stale]
    split
    · exact quiet (onError_effects _ _)
    · split
      · rename_i message received
        have tail := onReadIncomingMessage_tail host (s.takeTask index) stale message input
        by_cases proxy : ∃ request, message = .proxyConnReq request
        · obtain ⟨request, rfl⟩ := proxy
          rcases dispatchMessage_proxyConnReq host (s.takeTask index) request input with
            refused | handled
          · rw [refused] at tail
            exact quiet tail
          · rw [handled] at tail
            have current : generation = s.generation := by
              by_contra other
              exact stale (.inl other)
            subst current
            refine .requested found received ?_
            have effects : Effects host [.control, .stream] (s.takeTask index)
                ((s.takeTask index).onProxyConnReq host request input.toOracle).1 :=
              onProxyConnReq_effects _ request _
            exact (before.of_effects effects (by simp)).quiet tail (by simp) (by simp)
        · have dispatched : Effects host (.opening :: callAreas input.calls) (s.takeTask index)
              ((s.takeTask index).dispatchMessage host message input).1 :=
            dispatchMessage_effects_of_other wellFormed absent
              (fun request same => proxy ⟨request, same⟩) input
          exact .quiet (taken.trans (before.quiet
            (dispatched.trans (tail.mono (by simp))) (by simp) (by simp)))
      · exact quiet (onError_effects _ _)

/-- The start of an accept operation, seen from the streams. -/
theorem streamStep_accept (invariant : s.Invariant) {op : Nat}
    (found : s.tasks[index]? = some ⟨generation, connection, .asyncAcceptTunnelInternal tunnelId op⟩)
    (input : Input) :
    StreamStep host s (.run index input)
      ((s.takeTask index).asyncAcceptTunnelInternal host tunnelId op input.toOracle) := by
  obtain ⟨wellFormed, -, storable⟩ := invariant.wellFormed.takeTask found
  have before : (s.takeTask index).Invariant :=
    ⟨wellFormed, invariant.accounted.takeTask index, invariant.phase.takeTask found rfl⟩
  have taken : Quiet s (s.takeTask index) := quiet_takeTask found rfl
  have storable : (s.takeTask index).Storable (.acceptTunnel op) :=
    storable _ (decide_eq_true rfl)
  rcases asyncAcceptTunnelInternal_cases host (s.takeTask index) tunnelId op input.toOracle with
    refused | ⟨connected, handler, uncancelled, tunnel, tunnelFound, free, reached⟩
  · exact .quiet (taken.trans (before.quiet refused (by simp) (by simp)))
  · rw [reached]
    split
    · have closed : Effects host [.control] (s.takeTask index) ((s.takeTask index).emit
          (.closePeer ((s.takeTask index).ops (.acceptTunnel op)).peer)) := .single (.notice rfl)
      exact .accepting found connected tunnelFound free handler uncancelled
        (taken.trans (before.quiet closed (by simp) (by simp)))
        (before.of_effects closed (by simp))
        ⟨storable.allocated, storable.consumed, storable.absent⟩
    · exact .accepting found connected tunnelFound free handler uncancelled taken before storable

/-- **The steps of the client, seen from the streams.** -/
theorem streamStep_of_step (invariant : s.Invariant) {event : Event}
    (taken : step host s event = some t) : StreamStep host s event t := by
  rcases step_cases taken with ⟨call, rfl, rfl⟩ | ⟨index, input, task, rfl, found, rfl⟩
  · have effects : Effects host [.control, .calling] s (s.call call) :=
      call_effects invariant.wellFormed call
    exact .quiet (invariant.quiet effects (by simp) (by simp))
  · have effects := run_effects host invariant found input
    obtain ⟨generation, connection, work⟩ := task
    have quiet (other : work.isConnectStream = false) (running : work.isQueueCancel = false)
        (outside : .stream ∉ areasOf input.calls work) :
        StreamStep host s (.run index input) ((s.takeTask index).perform host
          ⟨generation, connection, work⟩ input) := by
      have before : (s.takeTask index).Invariant :=
        ⟨(invariant.wellFormed.takeTask found).1, invariant.accounted.takeTask index,
          invariant.phase.takeTask found running⟩
      exact .quiet ((quiet_takeTask found other).trans
        (before.quiet effects (ending_notMem_areasOf input.calls running) outside))
    cases work with
    | connectStream tunnelId streamId peer owner => exact .reported found
    | read => exact streamStep_read invariant found input
    | asyncAcceptTunnelInternal tunnelId op => exact streamStep_accept invariant found input
    | queueCancel cause previousState callback =>
      obtain ⟨pending, -⟩ := invariant.phase.pending_of_queueCancel found rfl
      obtain ⟨_, _, _, _, ended, -, -⟩ := onQueueCancelled_spec host (s.takeTask index)
        input.errorCode cause previousState callback pending
      refine .quiet ((quiet_takeTask found rfl).trans
        (quiet_of_idle effects (by simp [areasOf]) ?_))
      simp only [perform, ended, reset_state]
    | _ => exact quiet rfl rfl (by simp [areasOf])

/-- No step changes the configuration. -/
theorem config_of_step (invariant : s.Invariant) {event : Event}
    (taken : step host s event = some t) : t.config = s.config := by
  rcases step_cases taken with ⟨call, rfl, rfl⟩ | ⟨index, input, task, rfl, found, rfl⟩
  · have effects : Effects host [.control, .calling] s (s.call call) :=
      call_effects invariant.wellFormed call
    exact effects.config
  · exact (run_effects host invariant found input).config

/-! ## The handlers of streams -/

/-- A quiet change, but for at most one proxy response for a stream. -/
structure Answered (streamId : String) (s t : Client) : Prop where
  table : TableFrame s t
  ops : OpsKept s t
  responses : ∀ connection other, t.responses connection other ≤
    s.responses connection other + if connection = s.connection ∧ other = streamId then 1 else 0

theorem Answered.refl (streamId : String) : Answered streamId s s :=
  ⟨.refl, .of_same rfl rfl, fun _ _ => le_add_right _ _⟩

theorem quiet_onError (s : Client) (errorCode : ErrorCode) : Quiet s (s.onError errorCode) := by
  have effects : Effects Host.plain [.control] s (s.onError errorCode) := onError_effects s errorCode
  have kept : TableKept s (s.onError errorCode) := effects.tableKept (by simp)
  obtain ⟨closePending, generation, state, stateChanges, tasks, framed⟩ :
      ∃ closePending generation state stateChanges tasks, s.onError errorCode = { s with
        closePending := closePending, generation := generation, state := state
        stateChanges := stateChanges, tasks := tasks } := by
    unfold onError
    split
    · exact onClose_frame s errorCode
    · exact ⟨_, _, _, _, _, rfl⟩
  refine ⟨⟨kept, fun connected => ?_⟩, ?_, ?_⟩
  · by_cases same : s.onError errorCode = s
    · rw [same] at connected ⊢
      exact .inl ⟨connected, rfl, rfl⟩
    · unfold onError onClose at same connected
      split at same
      · split at same
        · contradiction
        · rename_i failed open'
          rw [if_pos failed, if_neg open'] at connected
          by_cases closing : s.state = .closing
          · simp [closing] at connected
          · simp [closing] at connected
      · contradiction
  · rw [framed]
    exact .of_same rfl rfl
  · rw [framed]
    rfl

theorem doSendProxyResponse_answered (host : Host) (s : Client) (streamId : String)
    (errorCode : ErrorCode) :
    Answered streamId s (s.doSendProxyResponse host streamId errorCode) := by
  unfold doSendProxyResponse doSendMessage
  split
  · exact .refl streamId
  · extract_lets error
    split
    · exact .refl streamId
    · split
      · refine ⟨.of_live (.of_same rfl rfl (attempts_of_other rfl rfl) (streamLog_of_other rfl rfl))
          rfl rfl rfl, .of_same rfl rfl, fun connection other => ?_⟩
        simp only [responses, start_log, emit_log, List.countP_append, List.countP_singleton,
          Output.isResponse, decide_eq_true_eq]
        refine Nat.add_le_add_left (Nat.le_of_eq (if_congr ?_ rfl rfl)) _
        exact and_congr eq_comm eq_comm
      · have quiet := quiet_onError s Error.Code.protocolError
        refine ⟨quiet.table, quiet.ops, fun connection other => ?_⟩
        rw [quiet.responses]
        exact le_add_right _ _

/-- The report of a connect attempt is answered at most, or it settles its stream. -/
theorem onConnectStream_cases (host : Host) (s : Client) (generation : Nat)
    (tunnelId streamId : String) (errorCode : ErrorCode) :
    ((generation = s.generation → s.state = .connected → s.streamAt tunnelId streamId = none) ∧
      Answered streamId s (s.onConnectStream host generation tunnelId streamId errorCode)) ∨
    ∃ tunnel container, generation = s.generation ∧ s.state = .connected ∧
      s.tunnels[tunnelId]? = some tunnel ∧ tunnel.streams[streamId]? = some container ∧
      Answered streamId
        ((s.releaseBusy tunnel).settleStream tunnelId streamId tunnel container errorCode)
        (s.onConnectStream host generation tunnelId streamId errorCode) := by
  unfold onConnectStream
  by_cases stale : generation ≠ s.generation ∨ s.state ≠ .connected
  · rw [if_pos stale]
    refine .inl ⟨fun current connected => ?_, .refl streamId⟩
    rcases stale with other | closed
    · exact absurd current other
    · exact absurd connected closed
  · rw [if_neg stale]
    have current : generation = s.generation := by
      by_contra other
      exact stale (.inl other)
    have connected : s.state = .connected := by
      by_contra other
      exact stale (.inr other)
    split
    · rename_i absent
      refine .inl ⟨fun _ _ => ?_, doSendProxyResponse_answered host s streamId _⟩
      rw [streamAt, absent]
      rfl
    · rename_i tunnel found
      split
      · rename_i absent
        refine .inl ⟨fun _ _ => ?_, doSendProxyResponse_answered host s streamId _⟩
        rw [streamAt_of_found found, absent]
      · rename_i container stream
        exact .inr ⟨tunnel, container, current, connected, found, stream,
          doSendProxyResponse_answered host _ streamId _⟩

/-- Streams after one tunnel has been changed in place. -/
theorem streamAt_modifyTunnel (s : Client) (tunnelId other streamId : String)
    (change : Tunnel → Tunnel) :
    (s.modifyTunnel tunnelId change).streamAt other streamId =
      if tunnelId = other then s.tunnels[other]?.bind fun t => (change t).streams[streamId]?
      else s.streamAt other streamId := by
  rw [streamAt, modifyTunnel_tunnels, getElem?_modify]
  split
  · exact bind_map
  · rfl

theorem streamAt_storeAccept (s : Client) (tunnelId : String) (op : Nat)
    (other streamId : String) :
    (s.storeAccept tunnelId op).streamAt other streamId = s.streamAt other streamId := by
  rw [storeAccept, streamAt_modifyTunnel]
  split <;> rfl

/-- Erasing a stream, with or without its accept operation. -/
theorem within_erase (tunnel : Tunnel) (streamId : String) {acceptOp : Option Nat}
    (accept : acceptOp = tunnel.acceptOp ∨ acceptOp = none) :
    Tunnel.Within { tunnel with streams := tunnel.streams.erase streamId, acceptOp := acceptOp }
      tunnel := by
  refine ⟨fun other container found => ?_, TreeMap.size_erase_le, accept⟩
  rw [getElem?_erase] at found
  split at found
  · contradiction
  · exact found

theorem tableFrame_releaseBusy (s : Client) (tunnel : Tunnel) :
    TableFrame s (s.releaseBusy tunnel) := by
  obtain ⟨ops, framed⟩ := releaseBusy_frame s tunnel
  rw [framed]
  exact .of_live (.of_same rfl rfl rfl rfl) rfl rfl rfl

theorem onConnectStream_of_stale (host : Host) (stale : generation ≠ s.generation)
    (tunnelId streamId : String) (errorCode : ErrorCode) :
    s.onConnectStream host generation tunnelId streamId errorCode = s :=
  if_pos (.inl stale)

theorem streamAt_admitStream {streamId other otherStream : String} {context : StreamContext}
    {container : Container}
    (found : (s.admitStream tunnelId streamId context).streamAt other otherStream =
      some container) :
    s.streamAt other otherStream = some container ∨
      other = tunnelId ∧ otherStream = streamId ∧ container = s.newContainer context := by
  have changed : (s.modifyTunnel tunnelId fun t =>
      { t with streams := t.streams.insertIfNew streamId (s.newContainer context) }).streamAt
        other otherStream = some container := found
  rw [streamAt_modifyTunnel] at changed
  split at changed
  · rename_i same
    subst same
    obtain ⟨tunnel, present, stream⟩ := bind_eq_some_iff.mp changed
    rw [getElem?_insertIfNew] at stream
    split at stream
    · rename_i sameStream
      subst sameStream
      cases before : tunnel.streams[streamId]? with
      | none =>
        rw [before, getD_none, some_inj] at stream
        exact .inr ⟨rfl, rfl, stream.symm⟩
      | some earlier =>
        rw [before, getD_some] at stream
        exact .inl (by rw [streamAt_of_found present, before, stream])
    · exact .inl (by rw [streamAt_of_found present, stream])
  · exact .inl changed

theorem streamAt_admitStream_self {streamId : String}
    (tunnelFound : s.tunnels[tunnelId]? = some tunnel)
    (absent : ¬tunnel.streams.contains streamId = true) (context : StreamContext) :
    (s.admitStream tunnelId streamId context).streamAt tunnelId streamId =
      some (s.newContainer context) := by
  have tunnels : (s.admitStream tunnelId streamId context).tunnels =
      s.tunnels.modify tunnelId fun t =>
        { t with streams := t.streams.insertIfNew streamId (s.newContainer context) } := rfl
  rw [TreeMap.contains_iff_mem] at absent
  rw [streamAt, tunnels, getElem?_modify, if_pos rfl, tunnelFound]
  simp only [map_some, bind_some]
  rw [getElem?_insertIfNew, if_pos rfl, TreeMap.getElem?_eq_none absent]
  rfl

theorem acceptOn_admitStream (s : Client) (tunnelId streamId : String) (context : StreamContext)
    (other : String) :
    (s.admitStream tunnelId streamId context).acceptOn other = s.acceptOn other := by
  have tunnels : (s.admitStream tunnelId streamId context).tunnels =
      s.tunnels.modify tunnelId fun t =>
        { t with streams := t.streams.insertIfNew streamId (s.newContainer context) } := rfl
  rw [acceptOn, tunnels, getElem?_modify, acceptOn]
  split
  · cases s.tunnels[other]? with
    | none | some tunnel => rfl
  · rfl

theorem WellFormed.connection_eq (wellFormed : s.WellFormed) (mem : task ∈ s.tasks)
    (current : task.generation = s.generation) : task.connection = s.connection := by
  have stamped := wellFormed.stamped task mem
  rcases Nat.lt_or_ge task.connection s.connection with earlier | same
  · have stale := stamped.stale earlier
    omega
  · exact Nat.le_antisymm stamped.connection same

/-- The events that lead from a new client to an open tunnel, for concrete runs. -/
def openTunnel : List Event :=
  [.call (.asyncConnect {}), .run 0 {}, .run 1 { results := [{}] }, .run 1 {}, .run 1 {},
    .run 1 {}, .run 2 { message := some (.openControlChannelRsp (.ok "client" none)) },
    .call (.asyncCreateTunnel {}), .run 3 { requestId := fun _ => "request" },
    .run 2 { message := some (.openTunnelRsp "request" (.tunnelProperties { id := "tunnel" })) }]

end Client

end Rstream.IoRstrm
