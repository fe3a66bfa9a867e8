import Rstream.IoRstrm.Client.Streams

/-!
# Streams in the synchronous mode

Without `m_async_stream_operation` a stream has no socket of its own. It waits until
an accept operation is pending on its tunnel and not busy, and then connects the
peer of that operation.

A failed attempt frees the accept operation without looking for another stream of
the tunnel. This is the only way in which a stream is left waiting next to an accept
operation that is free: the runs in which no failed attempt leaves a stream behind
keep the invariant `Served`.
-/

namespace Rstream.IoRstrm

open Library Option
open Std (TreeMap)

/-- The work is a connect attempt for a stream of a tunnel. -/
def Work.connects (tunnelId streamId : String) : Work → Bool
  | .connectStream tunnel stream _ _ => tunnel = tunnelId ∧ stream = streamId
  | _ => false

namespace Client

variable {host : Host} {s t u : Client}

/-! ## The table in the synchronous mode -/

/-- No stream has a socket of its own. -/
structure Socketless (s : Client) : Prop where
  mode : s.config.asyncStreamOperation = false
  plain : ∀ tunnelId streamId container, s.streamAt tunnelId streamId = some container →
    container.ptr = none

theorem Socketless.of_kept (socketless : s.Socketless) (kept : TableKept s t) : t.Socketless where
  mode := by
    rw [kept.config]
    exact socketless.mode
  plain := by
    intro tunnelId streamId container found
    exact socketless.plain _ _ _ (kept.streams _ _ _ found)

/-- What the report of an attempt does to the tunnel of its stream. -/
structure StreamSettled (tunnelId streamId : String) (errorCode : ErrorCode) (s t : Client) :
    Prop where
  frame : ∃ tunnels ops log, t = { s with tunnels := tunnels, ops := ops, log := log }
  others : ∀ other, other ≠ tunnelId → t.tunnels[other]? = s.tunnels[other]?
  busy : ∀ op, s.acceptOn tunnelId ≠ some op →
    (t.ops (.acceptTunnel op)).busy = (s.ops (.acceptTunnel op)).busy
  peer : ∀ op, (t.ops (.acceptTunnel op)).peer = (s.ops (.acceptTunnel op)).peer
  streams : ∀ stream container, t.streamAt tunnelId stream = some container →
    s.streamAt tunnelId stream = some container
  accept : t.acceptOn tunnelId = s.acceptOn tunnelId ∨ t.acceptOn tunnelId = none
  erased : errorCode.failed = true → t.streamAt tunnelId streamId = none
  released : errorCode.failed = false → t.acceptOn tunnelId = none
  logged : ∀ output ∈ s.streamLog, output ∈ t.streamLog
  handed : ∀ output ∈ t.streamLog, output ∈ s.streamLog ∨ errorCode.failed = false ∧
    ∃ op endpoint, s.acceptOn tunnelId = some op ∧ endpoint.idName = some streamId ∧
      output = .completed (.acceptTunnel op) .none
        (.accepted endpoint (s.ops (.acceptTunnel op)).peer) s.connection

variable {tunnel : Tunnel} {op generation : Nat} {tunnelId other streamId : String}
  {container : Container} {errorCode : ErrorCode}

theorem busy_releaseBusy (s : Client) (other : tunnel.acceptOp ≠ some op) :
    ((s.releaseBusy tunnel).ops (.acceptTunnel op)).busy = (s.ops (.acceptTunnel op)).busy := by
  unfold releaseBusy
  cases stored : tunnel.acceptOp with
  | none => rfl
  | some pending =>
    have apart : OpId.acceptTunnel op ≠ .acceptTunnel pending := by
      rintro ⟨⟩
      exact other stored
    simp [apart]

theorem peer_releaseBusy (s : Client) (tunnel : Tunnel) (op : Nat) :
    ((s.releaseBusy tunnel).ops (.acceptTunnel op)).peer = (s.ops (.acceptTunnel op)).peer := by
  unfold releaseBusy
  cases tunnel.acceptOp with
  | none => rfl
  | some pending =>
    exact ops_modifyOp_of_kept Op.peer (fun o => { o with busy := false }) (fun _ => rfl) s
      (.acceptTunnel pending) (.acceptTunnel op)

theorem busy_complete (s : Client) (op : OpId) (errorCode : ErrorCode) (value : Value)
    (other : OpId) :
    ((s.complete op errorCode value).ops other).busy = (s.ops other).busy ∧
      ((s.complete op errorCode value).ops other).peer = (s.ops other).peer := by
  unfold complete
  split
  · exact ⟨rfl, rfl⟩
  · have kept {β : Type} (flag : Op → β)
        (same : ∀ o, flag { o with completed := true, handler := false } = flag o) :=
      ops_modifyOp_of_kept flag (fun o => { o with completed := true, handler := false }) same s op
        other
    exact ⟨kept Op.busy fun _ => rfl, kept Op.peer fun _ => rfl⟩

/-- A completion is the only output it adds. -/
theorem streamLog_complete (s : Client) (op : OpId) (errorCode : ErrorCode) (value : Value) :
    (∀ output ∈ s.streamLog, output ∈ (s.complete op errorCode value).streamLog) ∧
      ∀ output ∈ (s.complete op errorCode value).streamLog, output ∈ s.streamLog ∨
        output = .completed op errorCode value s.connection := by
  unfold complete
  split
  · exact ⟨fun _ mem => mem, fun _ mem => .inl mem⟩
  · have appended := streamLog_append (s := s) (emit_log (s.modifyOp op fun o =>
      { o with completed := true, handler := false }) (.completed op errorCode value s.connection))
    rw [appended]
    refine ⟨fun output mem => List.mem_append_left _ mem, fun output mem => ?_⟩
    rcases List.mem_append.mp mem with before | new
    · exact .inl before
    · split at new
      · exact .inr (List.mem_singleton.mp new)
      · contradiction

/-- Lookups in other tunnels after one tunnel has been changed in place. -/
theorem tunnels_modifyTunnel_of_ne (s : Client) (apart : other ≠ tunnelId)
    (change : Tunnel → Tunnel) :
    (s.modifyTunnel tunnelId change).tunnels[other]? = s.tunnels[other]? := by
  rw [modifyTunnel_tunnels, getElem?_modify, if_neg fun same => apart same.symm]

theorem streamSettled (tunnelFound : s.tunnels[tunnelId]? = some tunnel)
    (plain : container.ptr = none) (errorCode : ErrorCode) :
    StreamSettled tunnelId streamId errorCode s
      ((s.releaseBusy tunnel).settleStream tunnelId streamId tunnel container errorCode) := by
  obtain ⟨ops, released⟩ := releaseBusy_frame s tunnel
  have stored : s.acceptOn tunnelId = tunnel.acceptOp := acceptOn_of_found tunnelFound
  have busy (op : Nat) (other : s.acceptOn tunnelId ≠ some op) :
      (ops (.acceptTunnel op)).busy = (s.ops (.acceptTunnel op)).busy := by
    have same := busy_releaseBusy s (stored ▸ other)
    rw [released] at same
    exact same
  have peer (op : Nat) : (ops (.acceptTunnel op)).peer = (s.ops (.acceptTunnel op)).peer := by
    have same := peer_releaseBusy s tunnel op
    rw [released] at same
    exact same
  rw [released]
  unfold settleStream
  by_cases failed : errorCode.failed = true
  · rw [if_pos failed]
    refine ⟨⟨_, _, _, rfl⟩, fun other apart => tunnels_modifyTunnel_of_ne _ apart _, busy, peer,
      ?_, .inl ?_, fun _ => ?_, fun succeeded => ?_, fun _ mem => mem, fun _ mem => .inl mem⟩
    · intro stream found present
      exact (TableKept.modifyTunnel { s with ops := ops } tunnelId fun t =>
        within_erase t streamId (.inl rfl)).streams _ _ _ present
    · rw [acceptOn_modifyTunnel, if_pos rfl]
      rfl
    · rw [streamAt_modifyTunnel, if_pos rfl]
      cases s.tunnels[tunnelId]? with
      | none => rfl
      | some tunnel => rw [bind_some, getElem?_erase, if_pos rfl]
    · rw [failed] at succeeded
      contradiction
  · rw [if_neg failed, plain]
    cases pending : tunnel.acceptOp with
    | none =>
      refine ⟨⟨_, _, _, rfl⟩, fun _ _ => rfl, busy, peer, fun _ _ present => present, .inl rfl,
        fun erased => absurd erased failed, fun _ => ?_, fun _ mem => mem, fun _ mem => .inl mem⟩
      exact stored.trans pending
    | some op =>
      dsimp only [completeAcceptTunnel]
      generalize named : Client.acceptedEndpoint _ _ _ = endpoint
      have shape : endpoint.idName = some streamId := by
        rw [← named]
        rfl
      rw [elim_none, peer]
      generalize same : Value.accepted _ _ = value
      rw [← complete_modifyTunnel]
      obtain ⟨ops', log, framed⟩ := complete_frame (({ s with ops := ops } : Client).modifyTunnel
        tunnelId fun t => { t with streams := t.streams.erase streamId, acceptOp := none })
        (.acceptTunnel op) .none value
      have flags := busy_complete (({ s with ops := ops } : Client).modifyTunnel
        tunnelId fun t => { t with streams := t.streams.erase streamId, acceptOp := none })
        (.acceptTunnel op) .none value
      have free : (({ s with ops := ops } : Client).modifyTunnel tunnelId fun t =>
          { t with streams := t.streams.erase streamId, acceptOp := none }).acceptOn tunnelId =
            none := by
        rw [acceptOn_modifyTunnel, if_pos rfl]
        cases s.tunnels[tunnelId]? with
        | none | some tunnel => rfl
      have outputs := streamLog_complete (({ s with ops := ops } : Client).modifyTunnel
        tunnelId fun t => { t with streams := t.streams.erase streamId, acceptOp := none })
        (.acceptTunnel op) .none value
      rw [framed] at flags outputs ⊢
      refine ⟨⟨_, _, _, rfl⟩, ?_, ?_, ?_, ?_, .inr ?_, fun erased => absurd erased failed,
        fun _ => ?_, outputs.1, ?_⟩
      · exact fun other apart => tunnels_modifyTunnel_of_ne { s with ops := ops } apart _
      · intro other apart
        exact (flags (.acceptTunnel other)).1.trans (busy other apart)
      · intro other
        exact (flags (.acceptTunnel other)).2.trans (peer other)
      · intro stream found present
        exact (TableKept.modifyTunnel { s with ops := ops } tunnelId fun t =>
          within_erase t streamId (.inr rfl)).streams _ _ _ present
      · exact free
      · exact free
      · intro output mem
        rcases outputs.2 output mem with before | new
        · exact .inl before
        · refine .inr ⟨by simpa using failed, op, endpoint, stored.trans pending, shape, ?_⟩
          rw [new, ← same]
          rfl

/-! ## Waiting streams -/

/-- A connect attempt of the open connection is in flight for a stream of a tunnel. -/
def attempting (s : Client) (tunnelId streamId : String) : Bool :=
  s.attempts.any fun task =>
    task.generation = s.generation && task.work.connects tunnelId streamId

theorem attempting_iff :
    s.attempting tunnelId streamId = true ↔ ∃ task ∈ s.attempts,
      task.generation = s.generation ∧ task.work.connects tunnelId streamId = true := by
  rw [attempting, List.any_eq_true]
  simp only [Bool.and_eq_true, decide_eq_true_eq]

/-- If an accept operation is pending on the tunnel and not busy, every stream of the
tunnel has an attempt in flight. -/
def ServedAt (s : Client) (tunnelId : String) : Prop :=
  ∀ op streamId container, s.acceptOn tunnelId = some op →
    (s.ops (.acceptTunnel op)).busy = false → s.streamAt tunnelId streamId = some container →
    s.attempting tunnelId streamId = true

/-- No stream waits next to an accept operation that is free. -/
structure Served (s : Client) : Prop extends s.Socketless where
  served : s.state = .connected → ∀ tunnelId, s.ServedAt tunnelId

theorem attempting_congr (attempts : t.attempts = s.attempts)
    (generation : t.generation = s.generation) (tunnelId streamId : String) :
    t.attempting tunnelId streamId = s.attempting tunnelId streamId := by
  rw [attempting, attempting, attempts, generation]

theorem ServedAt.of_kept (served : s.ServedAt tunnelId) (kept : TableKept s t)
    (generation : t.generation = s.generation) (busy : ∀ op, s.acceptOn tunnelId = some op →
      (t.ops (.acceptTunnel op)).busy = (s.ops (.acceptTunnel op)).busy) : t.ServedAt tunnelId := by
  intro op streamId container stored free found
  rcases kept.accept tunnelId with same | lost
  · rw [same] at stored
    rw [busy op stored] at free
    rw [attempting_congr kept.attempts generation]
    exact served op streamId container stored free (kept.streams _ _ _ found)
  · rw [lost] at stored
    contradiction

theorem servedAt_of_unused (unused : s.Unused) (tunnelId : String) : s.ServedAt tunnelId := by
  intro op streamId container stored
  rw [(unused tunnelId).1] at stored
  contradiction

theorem WellFormed.accept_allocated (wellFormed : s.WellFormed)
    (stored : s.acceptOn tunnelId = some op) : op < s.nextOp := by
  refine wellFormed.storedAllocated (.acceptTunnel op) ⟨.accept tunnelId, ?_⟩
  rw [holds, stored]
  rfl

theorem WellFormed.accept_injective (wellFormed : s.WellFormed)
    (stored : s.acceptOn tunnelId = some op) (also : s.acceptOn other = some op) :
    tunnelId = other := by
  have same := wellFormed.injective (.accept tunnelId) (.accept other) (.acceptTunnel op)
    (by rw [holds, stored]; rfl) (by rw [holds, also]; rfl)
  cases same
  rfl

theorem Served.of_frame (served : s.Served) (wellFormed : s.WellFormed) (frame : TableFrame s t)
    (ops : OpsKept s t) : t.Served := by
  refine ⟨served.toSocketless.of_kept frame.toTableKept, fun connected tunnelId => ?_⟩
  rcases frame.live connected with ⟨before, generation, -⟩ | unused
  · refine (served.served before tunnelId).of_kept frame.toTableKept generation ?_
    intro op stored
    exact ops.busy op (wellFormed.accept_allocated stored)
  · exact servedAt_of_unused unused tunnelId

section

variable (settled : StreamSettled tunnelId streamId errorCode s t)

include settled

/-- Only the tunnels, the operation objects and the log differ. -/
theorem StreamSettled.attempting
    (other stream : String) : t.attempting other stream = s.attempting other stream := by
  obtain ⟨tunnels, ops, log, framed⟩ := settled.frame
  rw [framed]
  rfl

theorem StreamSettled.acceptOn_of_ne
    (apart : other ≠ tunnelId) : t.acceptOn other = s.acceptOn other := by
  rw [acceptOn, settled.others other apart, acceptOn]

theorem StreamSettled.streamAt_of_ne
    (apart : other ≠ tunnelId) (stream : String) :
    t.streamAt other stream = s.streamAt other stream := by
  rw [streamAt, settled.others other apart, streamAt]

end

theorem Socketless.settled (socketless : s.Socketless)
    (settled : StreamSettled tunnelId streamId errorCode s t) : t.Socketless := by
  refine ⟨?_, fun other stream container found => ?_⟩
  · obtain ⟨tunnels, ops, log, framed⟩ := settled.frame
    rw [framed]
    exact socketless.mode
  · by_cases same : other = tunnelId
    · subst same
      exact socketless.plain _ _ _ (settled.streams _ _ found)
    · rw [settled.streamAt_of_ne same] at found
      exact socketless.plain _ _ _ found

/-- After a report, streams wait at most on the tunnel of the report, and there only
if the attempt failed. -/
theorem Served.settled (socketless : s.Socketless) (wellFormed : s.WellFormed)
    (settled : StreamSettled tunnelId streamId errorCode s t)
    (elsewhere : ∀ other, other ≠ tunnelId → s.ServedAt other)
    (here : errorCode.failed = true → ∀ op, s.acceptOn tunnelId = some op → ∀ stream container,
      s.streamAt tunnelId stream = some container → stream ≠ streamId →
      s.attempting tunnelId stream = true) : t.Served := by
  refine ⟨socketless.settled settled, fun _ other => ?_⟩
  intro op stream container stored free found
  rw [settled.attempting]
  by_cases same : other = tunnelId
  · subst same
    cases failed : errorCode.failed with
    | false =>
      rw [settled.released failed] at stored
      contradiction
    | true =>
      have apart : stream ≠ streamId := by
        rintro rfl
        rw [settled.erased failed] at found
        contradiction
      rcases settled.accept with kept | lost
      · exact here failed op (kept ▸ stored) stream container (settled.streams _ _ found) apart
      · rw [lost] at stored
        contradiction
  · rw [settled.acceptOn_of_ne same] at stored
    have other' : s.acceptOn tunnelId ≠ some op :=
      fun also => same (wellFormed.accept_injective stored also)
    rw [settled.busy op other'] at free
    rw [settled.streamAt_of_ne same] at found
    exact elsewhere other same op stream container stored free found

theorem WellFormed.settleStream (host : Host) (wellFormed : s.WellFormed)
    (tunnelFound : s.tunnels[tunnelId]? = some tunnel) (streamId : String) (container : Container)
    (errorCode : ErrorCode) :
    ((s.releaseBusy tunnel).settleStream tunnelId streamId tunnel container
      errorCode).WellFormed := by
  have released : Effects host [.stream] s (s.releaseBusy tunnel) := releaseBusy_effects s tunnel
  have kept : (s.releaseBusy tunnel).tunnels[tunnelId]? = some tunnel := by
    obtain ⟨ops, framed⟩ := releaseBusy_frame s tunnel
    rw [framed]
    exact tunnelFound
  exact (released.trans (settleStream_effects kept streamId container errorCode)).wellFormed
    wellFormed

/-- `on_connect_stream`, for a report that finds its stream or not. -/
theorem Served.onConnectStream (host : Host) (socketless : s.Socketless) (wellFormed : s.WellFormed)
    (unsettled : (generation = s.generation → s.state = .connected →
      s.streamAt tunnelId streamId = none) → s.Served)
    (elsewhere : s.state = .connected → ∀ other, other ≠ tunnelId → s.ServedAt other)
    (here : generation = s.generation → s.state = .connected → errorCode.failed = true →
      (s.streamAt tunnelId streamId).isSome = true → ∀ op, s.acceptOn tunnelId = some op →
      ∀ stream container, s.streamAt tunnelId stream = some container → stream ≠ streamId →
      s.attempting tunnelId stream = true) :
    (s.onConnectStream host generation tunnelId streamId errorCode).Served := by
  rcases onConnectStream_cases host s generation tunnelId streamId errorCode with
    ⟨absent, answered⟩ | ⟨tunnel, container, current, connected, tunnelFound, found, answered⟩
  · exact (unsettled absent).of_frame wellFormed answered.table answered.ops
  · have present : s.streamAt tunnelId streamId = some container := by
      rw [streamAt_of_found tunnelFound, found]
    have settled : StreamSettled tunnelId streamId errorCode s _ :=
      streamSettled tunnelFound (socketless.plain _ _ _ present) errorCode
    have served := Served.settled socketless wellFormed settled (elsewhere connected)
      fun failed => here current connected failed (by rw [present]; rfl)
    exact served.of_frame (wellFormed.settleStream host tunnelFound streamId container errorCode)
      answered.table answered.ops

/-- An attempt that is still in flight after another one was taken. -/
theorem attempting_takeTask {index connection : Nat} {peer : PeerId} {owner : Option Nat}
    (found : s.tasks[index]? =
      some ⟨generation, connection, .connectStream tunnelId streamId peer owner⟩) {stream : String}
    (attempting : s.attempting other stream = true)
    (apart : ¬(generation = s.generation ∧ other = tunnelId ∧ stream = streamId)) :
    (s.takeTask index).attempting other stream = true := by
  obtain ⟨task, mem, current, connects⟩ := attempting_iff.mp attempting
  obtain ⟨member, kind⟩ := List.mem_filter.mp mem
  refine attempting_iff.mpr ⟨task, List.mem_filter.mpr ⟨?_, kind⟩, current, connects⟩
  rcases List.mem_cons.mp ((perm_of_taken found).mem_iff.mpr member) with same | rest
  · rw [same] at current connects
    simp only [Work.connects, decide_eq_true_eq] at connects
    exact absurd ⟨current, connects.1.symm, connects.2.symm⟩ apart
  · exact rest

/-- Every stream of a tunnel but one has an attempt in flight. -/
def othersAttempting (s : Client) (tunnelId streamId : String) : Bool :=
  s.tunnels[tunnelId]?.elim true fun tunnel =>
    tunnel.streams.toList.all fun entry => entry.1 = streamId || s.attempting tunnelId entry.1

theorem attempting_of_others (others : s.othersAttempting tunnelId streamId = true)
    {stream : String} (found : s.streamAt tunnelId stream = some container)
    (apart : stream ≠ streamId) : s.attempting tunnelId stream = true := by
  obtain ⟨tunnel, tunnelFound, entry⟩ := bind_eq_some_iff.mp found
  rw [othersAttempting, tunnelFound, elim_some, List.all_eq_true] at others
  have mem : (stream, container) ∈ tunnel.streams.toList :=
    TreeMap.mem_toList_iff_getElem?_eq_some.mpr entry
  simpa [apart] using others _ mem

theorem Served.reports (served : s.Served) (wellFormed : s.WellFormed) {index connection : Nat}
    {peer : PeerId} {owner : Option Nat} (found : s.tasks[index]? =
      some ⟨generation, connection, .connectStream tunnelId streamId peer owner⟩) (input : Input)
    (others : input.errorCode.failed = true → generation = s.generation → s.state = .connected →
      (s.streamAt tunnelId streamId).isSome = true → (s.acceptOn tunnelId).isSome = true →
      s.othersAttempting tunnelId streamId = true) :
    ((s.takeTask index).perform host
      ⟨generation, connection, .connectStream tunnelId streamId peer owner⟩ input).Served := by
  have taken := (wellFormed.takeTask found).1
  have reports (log : List Output) : (({ s.takeTask index with log := log } :
      Client).onConnectStream host generation tunnelId streamId input.errorCode).Served := by
    have socketless : ({ s.takeTask index with log := log } : Client).Socketless :=
      ⟨served.mode, served.plain⟩
    refine .onConnectStream host socketless ?_ ?_ ?_ ?_
    · exact ⟨fun task mem => (taken.stamped task mem).of_eq rfl rfl, taken.once, taken.absent,
        taken.dispatchedAllocated, taken.storedAllocated, taken.injective⟩
    · intro absent
      refine ⟨⟨served.mode, served.plain⟩, fun connected other => ?_⟩
      intro op stream container stored free present
      have before := served.served connected other op stream container stored free present
      refine attempting_takeTask found before ?_
      rintro ⟨current, rfl, rfl⟩
      have missing : s.streamAt other stream = none := absent current connected
      rw [show s.streamAt other stream = some container from present] at missing
      contradiction
    · intro connected other apart op stream container stored free present
      have before := served.served connected other op stream container stored free present
      exact attempting_takeTask found before fun same => apart same.2.1
    · intro current connected failed present op stored stream container there apart
      have attempted : s.attempting tunnelId stream = true :=
        attempting_of_others
          (others failed current connected present (isSome_iff_exists.mpr ⟨op, stored⟩))
          there apart
      exact attempting_takeTask found attempted fun same => apart same.2.2
  simp only [perform]
  split
  · exact reports _
  · exact reports _

/-! ## A peer starts to connect -/

/-- The peer of the pending accept operation starts to connect for a stream, unless
the operation is busy. -/
theorem Served.doConnectStream (host : Host) (socketless : s.Socketless) (wellFormed : s.WellFormed)
    (connected : s.state = .connected) (stored : s.acceptOn tunnelId = tunnel.acceptOp)
    (present : s.streamAt tunnelId streamId = some container) (plain : container.ptr = none)
    (elsewhere : ∀ other, other ≠ tunnelId → s.ServedAt other) (oracle : Oracle)
    (here : oracle.settings.failed = true → ∀ op, s.acceptOn tunnelId = some op →
      (s.ops (.acceptTunnel op)).busy = false → ∀ stream other,
      s.streamAt tunnelId stream = some other → stream ≠ streamId →
      s.attempting tunnelId stream = true) :
    (s.doConnectStream host tunnelId streamId tunnel container oracle).Served := by
  -- where the operation is busy, or there is none, nothing is asked of this tunnel
  have untouched (free : ∀ op, s.acceptOn tunnelId = some op →
      (s.ops (.acceptTunnel op)).busy = true) : s.Served := by
    refine ⟨socketless, fun _ other => ?_⟩
    by_cases same : other = tunnelId
    · subst same
      intro op stream container pending idle
      rw [free op pending] at idle
      contradiction
    · exact elsewhere other same
  unfold Client.doConnectStream
  rw [plain]
  cases accept : tunnel.acceptOp with
  | none =>
    refine untouched fun op pending => ?_
    rw [stored, accept] at pending
    contradiction
  | some op =>
    have pending : s.acceptOn tunnelId = some op := stored.trans accept
    dsimp only
    by_cases idle : (s.ops (.acceptTunnel op)).busy = true
    · rw [if_pos idle]
      refine untouched fun other also => ?_
      rw [pending, some_inj] at also
      rw [← also]
      exact idle
    · rw [if_neg idle]
      have marked : Effects host [.stream] s (s.modifyOp (.acceptTunnel op) fun o =>
          { o with busy := true }) := .single (.busy op true)
      have busy (other : Nat) (apart : other ≠ op) :
          ((s.modifyOp (.acceptTunnel op) fun o => { o with busy := true }).ops
            (.acceptTunnel other)).busy = (s.ops (.acceptTunnel other)).busy := by
        have different : OpId.acceptTunnel other ≠ .acceptTunnel op := by
          rintro ⟨⟩
          exact apart rfl
        simp [different]
      have others (other : String) (apart : other ≠ tunnelId) :
          (s.modifyOp (.acceptTunnel op) fun o => { o with busy := true }).ServedAt other := by
        intro index stream container' held free found
        have different : index ≠ op := by
          rintro rfl
          exact apart (wellFormed.accept_injective held pending)
        rw [busy index different] at free
        exact elsewhere other apart index stream container' held free found
      unfold connectPeer
      split
      · rename_i failed
        have still : (s.modifyOp (.acceptTunnel op) fun o =>
            { o with busy := true }).Socketless := ⟨socketless.mode, socketless.plain⟩
        refine .onConnectStream host still (marked.wellFormed wellFormed) ?_ (fun _ => others) ?_
        · intro absent
          have missing : s.streamAt tunnelId streamId = none := absent rfl connected
          rw [present] at missing
          contradiction
        · intro _ _ _ _ _ _ stream other found apart
          exact here failed op pending (by simpa using idle) stream other found apart
      · refine ⟨⟨socketless.mode, socketless.plain⟩, fun _ other => ?_⟩
        intro index stream container' held free found
        by_cases same : other = tunnelId
        · subst same
          have also : s.acceptOn other = some index := held
          rw [pending, some_inj] at also
          subst also
          simp at free
        · have attempted := others other same index stream container' held free found
          obtain ⟨task, mem, current, connects⟩ := attempting_iff.mp attempted
          refine attempting_iff.mpr ⟨task, ?_, current, connects⟩
          rw [attempts_start]
          exact List.mem_append_left _ mem

/-! ## The steps -/

theorem Served.rejectStream (served : s.Served) (wellFormed : s.WellFormed) (streamId : String)
    (errorCode : ErrorCode) : (s.rejectStream host streamId errorCode).Served := by
  have answered := doSendProxyResponse_answered host
    (s.emit (.proxyRequest s.connection streamId false)) streamId errorCode
  have logged : Effects host [.stream] s (s.emit (.proxyRequest s.connection streamId false)) :=
    .single .request
  have before : (s.emit (.proxyRequest s.connection streamId false)).Served :=
    ⟨⟨served.mode, served.plain⟩, served.served⟩
  exact before.of_frame (logged.wellFormed wellFormed) answered.table answered.ops

theorem Socketless.admitStream (socketless : s.Socketless) (tunnelId streamId : String)
    (context : StreamContext) : (s.admitStream tunnelId streamId context).Socketless := by
  refine ⟨socketless.mode, fun other stream container found => ?_⟩
  rcases streamAt_admitStream found with before | ⟨-, -, rfl⟩
  · exact socketless.plain _ _ _ before
  · rw [newContainer, if_neg (by simp [socketless.mode])]

theorem Served.requested (served : s.Served) (wellFormed : s.WellFormed) (request : ProxyConnReq)
    (oracle : Oracle) : (s.onProxyConnReq host request oracle).1.Served := by
  unfold onProxyConnReq
  split
  · exact served
  · rename_i tunnel tunnelFound
    split
    · exact served.rejectStream wellFormed _ _
    · rename_i context _
      dsimp only
      unfold onProxyRequest
      by_cases connected : s.state = .connected
      · rw [if_neg (by simp [connected])]
        split
        · exact served.rejectStream wellFormed _ _
        · split
          · exact served.rejectStream wellFormed _ _
          · rename_i absent
            have admitted : Effects host [.stream] s
                (s.admitStream request.tunnelId request.streamId context) :=
              admitStream_effects s _ _ _
            have accept := acceptOn_admitStream s request.tunnelId request.streamId context
            have plain : (s.newContainer context).ptr = none := by
              rw [newContainer, if_neg (by simp [served.mode])]
            refine .doConnectStream host (served.toSocketless.admitStream _ _ _)
              (admitted.wellFormed wellFormed) connected ?_
              (streamAt_admitStream_self tunnelFound absent context) plain ?_ oracle ?_
            · rw [accept, acceptOn_of_found tunnelFound]
            · intro other apart op stream container stored free found
              rw [accept] at stored
              rcases streamAt_admitStream found with before | ⟨same, -, -⟩
              · exact served.served connected other op stream container stored free before
              · exact absurd same apart
            · intro _ op stored free stream container found apart
              rw [accept] at stored
              rcases streamAt_admitStream found with before | ⟨-, same, -⟩
              · exact served.served connected _ op stream container stored free before
              · exact absurd same apart
      · rw [if_pos connected]
        exact served

theorem Served.accepts (served : s.Served) (wellFormed : s.WellFormed)
    (connected : s.state = .connected) (tunnelFound : s.tunnels[tunnelId]? = some tunnel)
    (free : tunnel.acceptOp = none) (storable : s.Storable (.acceptTunnel op)) (oracle : Oracle)
    (others : oracle.settings.failed = true → ∀ streamId container,
      waitingStream tunnel = some (streamId, container) →
      s.othersAttempting tunnelId streamId = true) :
    (s.acceptOnTunnel host tunnelId tunnel op oracle).Served := by
  have stored : Effects host [.stream] s (s.storeAccept tunnelId op) := by
    refine .single (.storeAccept connected ?_ storable)
    intro other found
    rw [tunnelFound, some_inj] at found
    rw [← found]
    exact free
  have streams := streamAt_storeAccept s tunnelId op
  have socketless : (s.storeAccept tunnelId op).Socketless := by
    refine ⟨served.mode, fun other stream container found => ?_⟩
    rw [streams] at found
    exact served.plain _ _ _ found
  have here : (s.storeAccept tunnelId op).acceptOn tunnelId = some op := by
    rw [storeAccept, acceptOn_modifyTunnel, if_pos rfl, tunnelFound]
    rfl
  have elsewhere (other : String) (apart : other ≠ tunnelId) :
      (s.storeAccept tunnelId op).ServedAt other := by
    intro index stream container held idle found
    rw [streams] at found
    rw [storeAccept, acceptOn_modifyTunnel, if_neg fun same => apart same.symm] at held
    exact served.served connected other index stream container held idle found
  unfold acceptOnTunnel
  rw [if_neg (by simp [served.mode])]
  split
  · rename_i streamId container first
    have mem := List.mem_of_find?_eq_some first
    have found : s.streamAt tunnelId streamId = some container := by
      rw [streamAt_of_found tunnelFound]
      exact TreeMap.mem_toList_iff_getElem?_eq_some.mp mem
    refine .doConnectStream host socketless (stored.wellFormed wellFormed) connected here
      (by rw [streams]; exact found) (served.plain _ _ _ found) elsewhere oracle ?_
    intro failed _ _ _ stream other present apart
    rw [streams] at present
    exact attempting_of_others (others failed streamId container first) present apart
  · rename_i none
    refine ⟨socketless, fun _ other => ?_⟩
    by_cases same : other = tunnelId
    · subst same
      intro index stream container _ _ found
      rw [streams] at found
      have plain := served.plain _ _ _ found
      rw [streamAt_of_found tunnelFound] at found
      have waits := List.find?_eq_none.mp none _
        (TreeMap.mem_toList_iff_getElem?_eq_some.mpr found)
      rw [plain] at waits
      exact absurd rfl waits
    · exact elsewhere other same

/-- The condition on running a piece of work: an attempt that fails while an accept
operation is pending on the tunnel finds every other stream of the tunnel with an
attempt in flight. The attempt fails in its report, or before it starts, when the
peer of an accept operation that picks a waiting stream does not take its settings. -/
def BacklogFree (s : Client) (input : Input) (generation : Nat) : Work → Prop
  | .connectStream tunnelId streamId _ _ =>
    input.errorCode.failed = true → generation = s.generation → s.state = .connected →
    (s.streamAt tunnelId streamId).isSome = true → (s.acceptOn tunnelId).isSome = true →
    s.othersAttempting tunnelId streamId = true
  | .asyncAcceptTunnelInternal tunnelId op =>
    input.settings.failed = true → (s.ops (.acceptTunnel op)).handler = true →
    (s.ops (.acceptTunnel op)).cancelled = false → s.state = .connected →
    s.acceptOn tunnelId = none →
    (s.tunnels[tunnelId]?.bind waitingStream).all
      (fun entry => s.othersAttempting tunnelId entry.1) = true
  | _ => True

/-- The condition on a step. -/
def NoBacklog (s : Client) : Event → Prop
  | .call _ => True
  | .run index input =>
    match s.tasks[index]? with
    | none => True
    | some task => BacklogFree s input task.generation task.work

instance (s : Client) (input : Input) (generation : Nat) :
    (work : Work) → Decidable (BacklogFree s input generation work)
  | .connectStream _ _ _ _ => inferInstanceAs (Decidable (_ → _ → _ → _ → _ → _))
  | .asyncAcceptTunnelInternal _ _ => inferInstanceAs (Decidable (_ → _ → _ → _ → _ → _))
  | .asyncConnectInternal _ | .asyncCreateTunnelInternal _ | .cancelConnect _
  | .cancelCreateTunnel _ | .cancelAcceptTunnel _ _ | .closeTunnelInternal _ | .closeInternal
  | .resolve | .rangeSpawn _ | .rangeAttempt _ | .onConnect _ | .read | .send _ | .stateTimer _
  | .heartbeatTimer _ | .queueCancel _ _ _ => isTrue trivial

instance (s : Client) : (event : Event) → Decidable (NoBacklog s event)
  | .call _ => isTrue trivial
  | .run index input =>
    match h : s.tasks[index]? with
    | none => isTrue (by simp [NoBacklog, h])
    | some task =>
      decidable_of_iff (BacklogFree s input task.generation task.work)
        (by simp [NoBacklog, h])

theorem Served.step (served : s.Served) (invariant : s.Invariant) {event : Event}
    (condition : NoBacklog s event) (taken : Client.step host s event = some t) : t.Served := by
  cases streamStep_of_step invariant taken with
  | quiet quiet => exact served.of_frame invariant.wellFormed quiet.table quiet.ops
  | reported found =>
    simp only [NoBacklog, found] at condition
    exact served.reports invariant.wellFormed found _ condition
  | requested found message quiet =>
    rename_i index input connection request
    have idle := quiet_takeTask found rfl
    have before := served.of_frame invariant.wellFormed idle.table idle.ops
    have wellFormed := (invariant.wellFormed.takeTask found).1
    have handled : Effects host [.control, .stream] (s.takeTask index)
        ((s.takeTask index).onProxyConnReq host request input.toOracle).1 :=
      onProxyConnReq_effects _ _ _
    exact (before.requested wellFormed request input.toOracle).of_frame
      (handled.wellFormed wellFormed) quiet.table quiet.ops
  | accepting found connected tunnelFound free handler uncancelled quiet accepted storable =>
    have before := served.of_frame invariant.wellFormed quiet.table quiet.ops
    simp only [NoBacklog, found] at condition
    refine before.accepts accepted.wellFormed connected tunnelFound free storable _ ?_
    intro failed streamId container first
    have all := condition failed handler uncancelled connected
      (by rw [acceptOn_of_found tunnelFound, free])
    rw [tunnelFound, bind_some, first, all_some] at all
    have kept := quiet.table.attempts
    refine Eq.trans ?_ all
    simp only [othersAttempting, attempting, kept]

theorem socketless_make {config : ConfigClient} (mode : config.asyncStreamOperation = false)
    (defaultServerAddress : Except ErrorCode Address)
    (token mtlsToken : Except ErrorCode (Option String)) :
    (make config defaultServerAddress token mtlsToken).Socketless := by
  have unused : (make config defaultServerAddress token mtlsToken).Unused :=
    NoTunnels.unused fun _ => rfl
  refine ⟨mode, fun tunnelId streamId container found => ?_⟩
  rw [(unused tunnelId).2 streamId] at found
  contradiction

/-- **No stalled stream.** In every run in which a failed attempt leaves no other stream
waiting: while the client is connected, an accept operation that is pending and not
busy has no stream next to it that waits without an attempt in flight. -/
theorem sync_streams_served (s : Client) (mode : s.config.asyncStreamOperation = false)
    (reachable : ReachableBy host NoBacklog s) (connected : s.state = .connected)
    (tunnelId streamId : String) (op : Nat) (container : Container)
    (pending : s.acceptOn tunnelId = some op) (free : (s.ops (.acceptTunnel op)).busy = false)
    (present : s.streamAt tunnelId streamId = some container) :
    s.attempting tunnelId streamId = true := by
  obtain ⟨config, defaultServerAddress, token, mtlsToken, run⟩ := reachable
  have all : s.Invariant ∧ s.config = config ∧
      (config.asyncStreamOperation = false → s.Served) := by
    refine run.invariant (p := fun u => u.Invariant ∧ u.config = config ∧
      (config.asyncStreamOperation = false → u.Served)) ⟨invariant_make _ _ _ _, rfl, ?_⟩ ?_
    · intro mode
      exact ⟨socketless_make mode _ _ _, fun connected => by contradiction⟩
    · rintro u event v ⟨invariant, same, served⟩ condition taken
      exact ⟨invariant.step taken, (config_of_step invariant taken).trans same,
        fun mode => (served mode).step invariant condition taken⟩
  obtain ⟨-, same, served⟩ := all
  exact (served (same ▸ mode)).served connected tunnelId op streamId container pending free present

/-- A client in the synchronous mode, for concrete runs. -/
def syncPlain : Client := plain { hearbeat := false, asyncStreamOperation := false }

/-- A stream connects for an accept operation that is cancelled; the next accept
operation connects another stream, and then the first attempt fails. -/
def failedForCancelled : List Event :=
  openTunnel ++ [.run 3 { message := some (.proxyConnReq ⟨"tunnel", "s1", none, none, none⟩) },
    .call (.asyncAcceptTunnel "tunnel" 7), .run 4 {}, .call (.cancel (.acceptTunnel 2)), .run 5 {},
    .run 3 { message := some (.proxyConnReq ⟨"tunnel", "s0", none, none, none⟩) },
    .call (.asyncAcceptTunnel "tunnel" 8), .run 5 {}, .run 3 { errorCode := ⟨111, .system⟩ }]

theorem failedForCancelled_isSome :
    (exec (Client.step .plain) syncPlain failedForCancelled).isSome = true := by
  decide

/-- The stream that is left has an attempt in flight. -/
theorem failedForCancelled_attempting : ∃ s : Client,
    s.state = .connected ∧ s.acceptOn "tunnel" = some 3 ∧ s.attempting "tunnel" "s0" = true := by
  refine ⟨(exec (Client.step .plain) syncPlain failedForCancelled).get
    failedForCancelled_isSome, by decide, by decide, ?_⟩
  have reachable : ReachableBy .plain NoBacklog _ :=
    ⟨_, _, _, _, .of_exec (by decide) (some_get failedForCancelled_isSome).symm⟩
  exact sync_streams_served _ (by decide) reachable (by decide) "tunnel" "s0" 3 ⟨none, {}⟩
    (by decide) (by decide) (by decide)

/-- Two streams are requested while an accept operation is pending. The first one
connects and fails. -/
def failedBeforeWaiting : List Event :=
  openTunnel ++ [.call (.asyncAcceptTunnel "tunnel" 7), .run 4 {},
    .run 3 { message := some (.proxyConnReq ⟨"tunnel", "s1", none, none, none⟩) },
    .run 4 { message := some (.proxyConnReq ⟨"tunnel", "s2", none, none, none⟩) },
    .run 3 { errorCode := ⟨111, .system⟩ }]

theorem failedBeforeWaiting_isSome :
    (exec (Client.step .plain) syncPlain failedBeforeWaiting).isSome = true := by
  decide

/-- The second stream then waits next to an accept operation that is free. -/
theorem failedBeforeWaiting_stalls : ∃ s : Client, Reachable .plain s ∧
    s.config.asyncStreamOperation = false ∧ s.state = .connected ∧
    s.acceptOn "tunnel" = some 2 ∧ (s.ops (.acceptTunnel 2)).busy = false ∧
    (s.streamAt "tunnel" "s2").isSome = true ∧ s.attempting "tunnel" "s2" = false := by
  exact ⟨_, ⟨_, _, _, _, Reaches.of_exec failedBeforeWaiting_isSome⟩, by decide, by decide,
    by decide, by decide, by decide, by decide⟩

end Client

end Rstream.IoRstrm
