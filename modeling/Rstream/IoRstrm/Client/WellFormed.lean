import Rstream.Library.Lookups
import Rstream.IoRstrm.Client.Decomposition

/-!
# Well-formed client states

`WellFormed` is what every reachable state satisfies and what the handlers need
in order to be sequences of effects: stamps of tasks are never ahead of the
client, the work that starts an operation is dispatched at most once and only
while no store holds the operation, and no operation is held by two slots.

Three facts about a single effect give its preservation: how the counters move
(`Effect.clock`), which task may be added (`Effect.tasks`), and how the slots
change (`Effect.slots`). The last of them is also the core of the results about
completions: a slot is emptied only when the operation it holds is completed.
-/

namespace Rstream.IoRstrm

open Library Option Nat
open Std (TreeMap)

namespace Client

variable {host : Host} {area : Area} {s t : Client}

/-! ## Slots -/

/-- Slots only depend on the three stores. -/
theorem holds_congr (connect : t.connectOp = s.connectOp)
    (create : t.createTunnelOps = s.createTunnelOps) (accept : t.tunnels = s.tunnels)
    (slot : Slot) : t.holds slot = s.holds slot := by
  cases slot with
  | connect => rw [holds, holds, connect]
  | create requestId => rw [holds, holds, create]
  | accept tunnelId => rw [holds, holds, acceptOn, acceptOn, accept]

/-- How the slots change in one effect: each is kept or emptied, and it is emptied
only of a completed operation; or one slot receives a storable operation. -/
inductive SlotChange (area : Area) (s t : Client) : Prop where
  | released (each : ∀ slot, t.holds slot = s.holds slot ∨
      (t.holds slot = none ∧ ∀ op, s.holds slot = some op → (t.ops op).completed = true))
  | stored (slot : Slot) (op : OpId) (storable : s.Storable op) (holds : t.holds slot = some op)
      (others : ∀ other, other ≠ slot → t.holds other = s.holds other)
      (free : s.holds slot = none ∨ s.state = .null) (storing : area = .storing ∨ area = .stream)

namespace SlotChange

theorem unchanged (connect : t.connectOp = s.connectOp)
    (create : t.createTunnelOps = s.createTunnelOps) (accept : t.tunnels = s.tunnels) :
    SlotChange area s t :=
  .released fun slot => .inl (holds_congr connect create accept slot)

/-- A change of `m_connect_op` alone that empties it of a completed operation. -/
theorem emptyConnect (create : t.createTunnelOps = s.createTunnelOps)
    (accept : t.tunnels = s.tunnels) (emptied : t.connectOp = none)
    (settled : ∀ op, s.connectOp = some op → (t.ops (.connect op)).completed = true) :
    SlotChange area s t := by
  refine .released fun slot => ?_
  cases slot with
  | connect =>
    refine .inr ⟨by rw [holds, emptied]; rfl, ?_⟩
    intro op stored
    obtain ⟨index, found, rfl⟩ := map_eq_some_iff.mp stored
    exact settled index found
  | create requestId => exact .inl (by rw [holds, holds, create])
  | accept tunnelId => exact .inl (by rw [holds, holds, acceptOn, acceptOn, accept])

/-- A change of the tunnels that keeps every accept operation or empties its slot
of a completed one. -/
theorem ofTunnels (connect : t.connectOp = s.connectOp)
    (create : t.createTunnelOps = s.createTunnelOps)
    (each : ∀ tunnelId, t.acceptOn tunnelId = s.acceptOn tunnelId ∨
      (t.acceptOn tunnelId = none ∧
        ∀ op, s.acceptOn tunnelId = some op → (t.ops (.acceptTunnel op)).completed = true)) :
    SlotChange area s t := by
  refine .released fun slot => ?_
  cases slot with
  | connect => exact .inl (by rw [holds, holds, connect])
  | create requestId => exact .inl (by rw [holds, holds, create])
  | accept tunnelId =>
    rcases each tunnelId with kept | ⟨emptied, settled⟩
    · exact .inl (by rw [holds, holds, kept])
    · refine .inr ⟨by rw [holds, emptied]; rfl, ?_⟩
      intro op stored
      obtain ⟨index, found, rfl⟩ := map_eq_some_iff.mp stored
      exact settled index found

end SlotChange

/-- The accept operations after a tunnel has been changed in place. -/
theorem acceptOn_modifyTunnel (s : Client) (tunnelId other : String) (change : Tunnel → Tunnel) :
    (s.modifyTunnel tunnelId change).acceptOn other =
      if tunnelId = other then s.tunnels[other]?.bind fun t => (change t).acceptOp
      else s.acceptOn other := by
  rw [acceptOn, modifyTunnel_tunnels, getElem?_modify]
  split
  · exact bind_map
  · rfl

theorem acceptOn_eq_some {tunnelId : String} {op : Nat} :
    s.acceptOn tunnelId = some op ↔
      ∃ tunnel, s.tunnels[tunnelId]? = some tunnel ∧ tunnel.acceptOp = some op :=
  bind_eq_some_iff

theorem Effect.slots (effect : Effect host area s t) : SlotChange area s t := by
  cases effect with
  | failConnect pending failed =>
    rename_i op errorCode
    by_cases stored : s.connectOp = some op
    · refine .emptyConnect rfl rfl (if_pos stored) ?_
      intro other found
      rw [stored, some_inj] at found
      rw [← found]
      simp
    · exact .unchanged (if_neg stored) rfl rfl
  | opened connecting stored pending =>
    refine .emptyConnect rfl rfl rfl ?_
    intro other found
    rw [stored, some_inj] at found
    rw [← found]
    simp
  | dropConnect settled => exact .emptyConnect rfl rfl rfl settled
  | begin idle handler reserved storable =>
    refine .stored .connect _ storable rfl ?_ (.inr idle) (.inl rfl)
    intro other different
    cases other with
    | connect => contradiction
    | create requestId | accept tunnelId => rfl
  | storeCreate connected free handler storable =>
    rename_i requestId op
    refine .stored (.create requestId) (.createTunnel op) storable ?_ ?_ (.inl ?_) (.inl rfl)
    · rw [holds, getElem?_insertIfNew, if_pos rfl, free]
      rfl
    · intro other different
      cases other with
      | connect | accept tunnelId => rfl
      | create key =>
        have apart : requestId ≠ key := fun same => different (by rw [same])
        rw [holds, holds, getElem?_insertIfNew, if_neg apart]
    · rw [holds, free]
      rfl
  | eraseCreate settled =>
    rename_i requestId
    refine .released fun slot => ?_
    cases slot with
    | connect | accept tunnelId => exact .inl rfl
    | create key =>
      by_cases same : requestId = key
      · refine .inr ⟨by rw [holds, getElem?_erase, if_pos same]; rfl, ?_⟩
        intro op stored
        obtain ⟨index, found, rfl⟩ := map_eq_some_iff.mp stored
        exact settled index (same ▸ found)
      · exact .inl (by rw [holds, holds, getElem?_erase, if_neg same])
  | markClosing tunnelId =>
    refine .ofTunnels rfl rfl fun other => .inl ?_
    rw [acceptOn_modifyTunnel]
    split <;> rfl
  | streams kept =>
    refine .ofTunnels rfl rfl fun other => .inl ?_
    rw [acceptOn_modifyTunnel]
    split
    · simp only [kept]
      rfl
    · rfl
  | clearAccept settled =>
    rename_i tunnelId
    refine .ofTunnels rfl rfl fun other => ?_
    by_cases same : tunnelId = other
    · refine .inr ⟨by simp [acceptOn_modifyTunnel, same], ?_⟩
      intro op stored
      obtain ⟨tunnel, found, pending⟩ := acceptOn_eq_some.mp stored
      exact settled tunnel op (same ▸ found) pending
    · exact .inl (by rw [acceptOn_modifyTunnel, if_neg same])
  | handed clears settled =>
    rename_i tunnelId change
    refine .ofTunnels rfl rfl fun other => ?_
    by_cases same : tunnelId = other
    · refine .inr ⟨by simp [acceptOn_modifyTunnel, same, clears], ?_⟩
      intro op stored
      obtain ⟨tunnel, found, pending⟩ := acceptOn_eq_some.mp stored
      exact settled tunnel op (same ▸ found) pending
    · exact .inl (by rw [acceptOn_modifyTunnel, if_neg same])
  | eraseTunnel settled =>
    rename_i tunnelId
    refine .ofTunnels rfl rfl fun other => ?_
    by_cases same : tunnelId = other
    · refine .inr ⟨by rw [acceptOn, getElem?_erase, if_pos same]; rfl, ?_⟩
      intro op stored
      obtain ⟨tunnel, found, pending⟩ := acceptOn_eq_some.mp stored
      exact settled tunnel op (same ▸ found) pending
    · exact .inl (by rw [acceptOn, acceptOn, getElem?_erase, if_neg same])
  | addTunnel running opened =>
    rename_i tunnelId
    refine .ofTunnels rfl rfl fun other => .inl ?_
    by_cases same : tunnelId = other
    · rw [acceptOn, acceptOn, getElem?_insertIfNew, if_pos same]
      cases s.tunnels[other]? with
      | none | some tunnel => rfl
    · rw [acceptOn, acceptOn, getElem?_insertIfNew, if_neg same]
  | storeAccept connected free storable =>
    rename_i tunnelId op
    cases found : s.tunnels[tunnelId]? with
    | none =>
      refine .ofTunnels rfl rfl fun other => .inl ?_
      rw [acceptOn_modifyTunnel]
      split
      · rename_i same
        rw [acceptOn, ← same, found]
        rfl
      · rfl
    | some tunnel =>
      refine .stored (.accept tunnelId) (.acceptTunnel op) storable ?_ ?_ (.inl ?_) (.inr rfl)
      · simp [holds, acceptOn_modifyTunnel, found]
      · intro other different
        cases other with
        | connect | create requestId => rfl
        | accept key =>
          have apart : tunnelId ≠ key := fun same => different (by rw [same])
          rw [holds, holds, acceptOn_modifyTunnel, if_neg apart]
      · rw [holds, acceptOn, found, bind_some, free tunnel found]
        rfl
  | _ => exact .unchanged rfl rfl rfl

/-! ## Counters and tasks -/

/-- How the counters move in one effect. A new connection always comes with a new
generation. -/
structure Clock (s t : Client) : Prop where
  generation : s.generation ≤ t.generation
  connection : s.connection ≤ t.connection
  renewed : s.connection < t.connection → s.generation < t.generation
  nextOp : s.nextOp ≤ t.nextOp

theorem Clock.same (generation : t.generation = s.generation)
    (connection : t.connection = s.connection) (nextOp : s.nextOp ≤ t.nextOp) : Clock s t :=
  ⟨Nat.le_of_eq generation.symm, Nat.le_of_eq connection.symm,
    fun later => absurd later (by omega), nextOp⟩

theorem Effect.clock (effect : Effect host area s t) : Clock s t := by
  cases effect with
  | close cause stateChanges running first =>
    exact ⟨Nat.le_succ _, Nat.le_refl _, fun _ => Nat.lt_succ_self _, Nat.le_refl _⟩
  | begin idle handler reserved storable =>
    exact ⟨Nat.le_succ _, Nat.le_succ _, fun _ => Nat.lt_succ_self _, Nat.le_refl _⟩
  | allocate fresh cancelled completed handler reserved | reserve free => exact .same rfl rfl (le_succ _)
  | _ => exact .same rfl rfl (Nat.le_refl _)

theorem Stamped.later {task : Task} (stamped : s.Stamped task) (clock : Clock s t) :
    t.Stamped task := by
  refine ⟨Nat.le_trans stamped.generation clock.generation,
    Nat.le_trans stamped.connection clock.connection, fun stale => ?_⟩
  rcases Nat.lt_or_ge task.connection s.connection with earlier | current
  · exact Nat.lt_of_lt_of_le (stamped.stale earlier) clock.generation
  · have renewed : s.generation < t.generation := clock.renewed (by omega)
    exact Nat.lt_of_le_of_lt stamped.generation renewed

theorem stamped_start (s : Client) (work : Work) :
    s.Stamped ⟨s.generation, s.connection, work⟩ :=
  ⟨Nat.le_refl _, Nat.le_refl _, fun later => absurd later (Nat.lt_irrefl _)⟩

theorem dispatched_append (s : Client) (task : Task) (op : OpId)
    (tasks : t.tasks = s.tasks ++ [task]) :
    t.dispatched op = s.dispatched op + if task.work.dispatches op then 1 else 0 := by
  rw [dispatched, tasks, List.countP_append, List.countP_singleton, dispatched]

/-- What an effect does to the tasks: either no operation is dispatched and the
new tasks carry proper stamps, or the one task that starts an operation is added. -/
inductive TaskChange (s t : Client) : Prop where
  | quiet (stamped : ∀ task ∈ t.tasks, task ∈ s.tasks ∨ t.Stamped task)
      (count : ∀ op, t.dispatched op = s.dispatched op)
  | dispatched (task : Task) (op : OpId) (tasks : t.tasks = s.tasks ++ [task])
      (stamped : t.Stamped task) (dispatches : task.work.dispatches op = true)
      (storable : s.Storable op) (holds : t.holds = s.holds)

theorem TaskChange.same (tasks : t.tasks = s.tasks) : TaskChange s t :=
  .quiet (fun _ mem => .inl (tasks ▸ mem)) fun op => by
    rw [Client.dispatched, Client.dispatched, tasks]

theorem TaskChange.added (task : Task) (tasks : t.tasks = s.tasks ++ [task])
    (stamped : t.Stamped task) (plain : ∀ op, task.work.dispatches op = false) :
    TaskChange s t := by
  refine .quiet (fun other mem => ?_) fun op => ?_
  · rw [tasks, List.mem_append, List.mem_singleton] at mem
    rcases mem with before | rfl
    · exact .inl before
    · exact .inr stamped
  · rw [dispatched_append s task op tasks, plain op]
    rfl

theorem dispatches_of_isPlain {work : Work} (plain : work.isPlain = true) (op : OpId) :
    work.dispatches op = false := by
  cases work with
  | asyncConnectInternal _ | asyncCreateTunnelInternal _ | asyncAcceptTunnelInternal _ _ =>
    contradiction
  | _ => rfl

theorem dispatches_of_isRange {work : Work} (range : work.isRange = true) (op : OpId) :
    work.dispatches op = false := by
  cases work with
  | asyncConnectInternal _ | asyncCreateTunnelInternal _ | asyncAcceptTunnelInternal _ _ =>
    contradiction
  | _ => rfl

/-- Work starts at most one operation. -/
theorem dispatches_unique {work : Work} {op other : OpId} (first : work.dispatches op = true)
    (second : work.dispatches other = true) : op = other := by
  cases work with
  | asyncConnectInternal _ | asyncCreateTunnelInternal _ | asyncAcceptTunnelInternal _ _ =>
    rw [of_decide_eq_true first, of_decide_eq_true second]
  | _ => contradiction

theorem Effect.tasks (effect : Effect host area s t) : TaskChange s t := by
  cases effect with
  | start plain => exact .added _ rfl (stamped_start _ _) (dispatches_of_isPlain plain)
  | send running confined control | connectStream | respond running => exact .added _ rfl (stamped_start _ _) fun _ => rfl
  | close cause stateChanges running first =>
    exact .added _ rfl (stamped_start _ _) fun _ => rfl
  | dispatch dispatches storable =>
    exact .dispatched _ _ rfl (stamped_start _ _) dispatches storable rfl
  | resume stamped range =>
    refine .added _ rfl ?_ (dispatches_of_isRange range)
    exact ⟨stamped.generation, stamped.connection, stamped.stale⟩
  | _ => exact .same rfl

/-! ## The invariant -/

/-- What every reachable state satisfies. -/
structure WellFormed (s : Client) : Prop where
  stamped : ∀ task ∈ s.tasks, s.Stamped task
  once : ∀ op, s.dispatched op ≤ 1
  absent : ∀ op, 0 < s.dispatched op → ¬s.Stored op
  dispatchedAllocated : ∀ op, 0 < s.dispatched op → op.index < s.nextOp
  storedAllocated : ∀ op, s.Stored op → op.index < s.nextOp
  injective : ∀ slot other op, s.holds slot = some op → s.holds other = some op → slot = other

/-- What is stored after an effect was stored before or was storable. -/
theorem SlotChange.storedBefore (change : SlotChange area s t) (op : OpId) (stored : t.Stored op) :
    s.Stored op ∨ s.Storable op := by
  obtain ⟨slot, holds⟩ := stored
  cases change with
  | released each =>
    rcases each slot with kept | ⟨emptied, _⟩
    · exact .inl ⟨slot, kept ▸ holds⟩
    · rw [emptied] at holds
      contradiction
  | stored target new storable here others free storing =>
    by_cases same : slot = target
    · rw [same, here, some_inj] at holds
      exact .inr (holds ▸ storable)
    · exact .inl ⟨slot, others slot same ▸ holds⟩

theorem SlotChange.injective (wellFormed : s.WellFormed) (change : SlotChange area s t)
    (slot other : Slot) (op : OpId) (first : t.holds slot = some op)
    (second : t.holds other = some op) : slot = other := by
  cases change with
  | released each =>
    rcases each slot with keptFirst | ⟨emptied, _⟩
    · rcases each other with keptSecond | ⟨emptied, _⟩
      · exact wellFormed.injective slot other op (keptFirst ▸ first) (keptSecond ▸ second)
      · rw [emptied] at second
        contradiction
    · rw [emptied] at first
      contradiction
  | stored target new storable here others free storing =>
    have elsewhere (place : Slot) (apart : place ≠ target) (found : t.holds place = some new) :
        False := storable.absent ⟨place, others place apart ▸ found⟩
    by_cases atFirst : slot = target
    · rw [atFirst, here, some_inj] at first
      by_cases atSecond : other = target
      · rw [atFirst, atSecond]
      · exact (elsewhere other atSecond (first ▸ second)).elim
    · by_cases atSecond : other = target
      · rw [atSecond, here, some_inj] at second
        exact (elsewhere slot atFirst (second ▸ first)).elim
      · exact wellFormed.injective slot other op (others slot atFirst ▸ first)
          (others other atSecond ▸ second)

/-- **Every effect keeps the invariant.** -/
theorem Effect.wellFormed (effect : Effect host area s t) (wellFormed : s.WellFormed) :
    t.WellFormed := by
  have clock := effect.clock
  have slots := effect.slots
  have stored := slots.storedBefore
  have storedAllocated : ∀ op, t.Stored op → op.index < t.nextOp := by
    intro op found
    rcases stored op found with before | storable
    · exact Nat.lt_of_lt_of_le (wellFormed.storedAllocated op before) clock.nextOp
    · exact Nat.lt_of_lt_of_le storable.allocated clock.nextOp
  have earlier : ∀ task ∈ s.tasks, t.Stamped task :=
    fun task mem => (wellFormed.stamped task mem).later clock
  have allocated (op : OpId) (pending : 0 < s.dispatched op) : op.index < t.nextOp :=
    Nat.lt_of_lt_of_le (wellFormed.dispatchedAllocated op pending) clock.nextOp
  -- an operation that is about to be started is neither stored before nor being stored now
  have untouched (op : OpId) (pending : 0 < s.dispatched op) : ¬t.Stored op := by
    intro found
    rcases stored op found with before | storable
    · exact wellFormed.absent op pending before
    · exact absurd storable.consumed (by omega)
  cases effect.tasks with
  | quiet stamped count =>
    refine ⟨fun task mem => ?_, fun op => ?_, fun op => ?_, fun op => ?_,
      storedAllocated, slots.injective wellFormed⟩
    · rcases stamped task mem with before | new
      · exact earlier task before
      · exact new
    · rw [count]
      exact wellFormed.once op
    · rw [count]
      exact untouched op
    · rw [count]
      exact allocated op
  | dispatched task new tasks stamped dispatches storable holds =>
    have countNew : t.dispatched new = 1 := by
      rw [dispatched_append s task new tasks, storable.consumed, dispatches]
      rfl
    have countOther (op : OpId) (different : op ≠ new) : t.dispatched op = s.dispatched op := by
      have plain : task.work.dispatches op = false := by
        by_contra also
        exact different (dispatches_unique (Bool.not_eq_false _ ▸ also) dispatches)
      rw [dispatched_append s task op tasks, plain]
      rfl
    refine ⟨fun other mem => ?_, fun op => ?_, fun op => ?_, fun op => ?_,
      storedAllocated, slots.injective wellFormed⟩
    · rw [tasks, List.mem_append, List.mem_singleton] at mem
      rcases mem with before | rfl
      · exact earlier other before
      · exact stamped
    · by_cases same : op = new
      · exact Nat.le_of_eq (same ▸ countNew)
      · rw [countOther op same]
        exact wellFormed.once op
    · by_cases same : op = new
      · rintro - ⟨slot, found⟩
        rw [holds, same] at found
        exact storable.absent ⟨slot, found⟩
      · rw [countOther op same]
        exact untouched op
    · by_cases same : op = new
      · rw [same]
        exact fun _ => Nat.lt_of_lt_of_le storable.allocated clock.nextOp
      · rw [countOther op same]
        exact allocated op

theorem Effects.wellFormed {areas : List Area} (effects : Effects host areas s t)
    (wellFormed : s.WellFormed) : t.WellFormed :=
  effects.invariant (fun _ effect => effect.wellFormed) wellFormed

theorem wellFormed_make (config : ConfigClient)
    (defaultServerAddress : Except ErrorCode Address)
    (token mtlsToken : Except ErrorCode (Option String)) :
    (make config defaultServerAddress token mtlsToken).WellFormed := by
  have nothing (slot : Slot) :
      (make config defaultServerAddress token mtlsToken).holds slot = none := by
    cases slot with
    | connect | create requestId | accept tunnelId => rfl
  refine ⟨fun task mem => ?_, fun op => zero_le 1, fun op pending => ?_, fun op pending => ?_,
    fun op => ?_, fun slot other op found => ?_⟩
  · contradiction
  · contradiction
  · contradiction
  · rintro ⟨slot, found⟩
    rw [nothing] at found
    contradiction
  · rw [nothing] at found
    contradiction

end Client

end Rstream.IoRstrm
