import Rstream.Io.Ssl.Acceptor
import Rstream.Library.Counting

/-!
# The rendezvous of connections and accepts

Every entry of the open acceptor is in exactly one of three situations: an accept of the
next layer is to fill it, a handshake runs on its socket, or the handshake is done and it
waits for a caller. `Tracked` says this, and what follows from it for the flag, the bound
and the stored operation. While a handler runs, the entry it works on has left its
situation and has not entered the next one; `Tracked` names that entry.

`Fed` says that a stored operation is served by an accept of the next layer or kept from
it by the bound. Every handler that may break it ends in `do_accept`, which restores it.

The sockets (`Separate`) and the handlers (`Answered`) are counted on their own: a socket
is in one place at a time, and a call is stored or has its handler invoked.
-/

namespace Rstream.Io.Ssl.Acceptor

open Library List
open IoRstrm

variable {s t : Acceptor} {id next : String}

/-- What holds of the entries of an open acceptor. `loose` is the entry that a handler is
working on, with its socket. -/
structure Tracked (loose : Option (String × Nat)) (s : Acceptor) : Prop where
  distinct : (s.upstreamOps.map (·.id)).Nodup
  known : ∀ entry ∈ s.upstreamOps, entry.id ∈ s.ids
  single : s.nextAccepts.length ≤ 1
  ongoing : s.ongoingAcceptOp = true ↔ s.nextAccepts ≠ []
  awaited : ∀ accept ∈ s.nextAccepts, ∃ entry ∈ s.upstreamOps, entry.id = accept.id ∧
    entry.connected = false ∧
    (∀ cause, accept.stage = .posted cause → cause.failed = false → entry.peer.isSome = true) ∧
    ∀ errorCode, accept.stage = .failed errorCode → errorCode.failed = true
  shaking : ∀ handshake ∈ s.handshakes, ∃ entry ∈ s.upstreamOps, entry.id = handshake.id ∧
    entry.connected = false ∧ entry.peer = some handshake.socket
  apart : ∀ accept ∈ s.nextAccepts, ∀ handshake ∈ s.handshakes, accept.id ≠ handshake.id
  once : (s.handshakes.map (·.id)).Nodup
  covered : ∀ entry ∈ s.upstreamOps, entry.connected = true ∨
    (∃ accept ∈ s.nextAccepts, accept.id = entry.id) ∨
    (∃ handshake ∈ s.handshakes, handshake.id = entry.id) ∨
    ∃ socket, loose = some (entry.id, socket)
  proven : ∀ entry ∈ s.upstreamOps, entry.connected = true →
    ∃ socket ∈ s.handshaken, entry.peer = some socket
  paired : s.downstreamOp.isSome = true → ∀ entry ∈ s.upstreamOps, entry.connected = false
  within : s.limit ≠ 0 → s.upstreamOps.length ≤ s.limit
  loosened : ∀ id socket, loose = some (id, socket) →
    (∃ entry ∈ s.upstreamOps, entry.id = id ∧ entry.connected = false ∧
      entry.peer = some socket) ∧
    (∀ accept ∈ s.nextAccepts, accept.id ≠ id) ∧ ∀ handshake ∈ s.handshakes, handshake.id ≠ id

/-- A stored operation is served by an accept of the next layer or kept from it by the
bound. -/
def Fed (s : Acceptor) : Prop :=
  s.downstreamOp.isSome = true → s.nextAccepts ≠ [] ∨
    (s.limit ≠ 0 ∧ s.limit ≤ s.upstreamOps.length)

theorem mem_eraseOp {entry : UpstreamOp} :
    entry ∈ (s.eraseOp id).upstreamOps ↔ entry ∈ s.upstreamOps ∧ entry.id ≠ id := by
  rw [eraseOp, mem_filter, decide_eq_true_eq]

variable {ops : List UpstreamOp} {socket : Nat} {errorCode configured cause : ErrorCode}
  {accept : NextAccept}

/-- With distinct ids the entries of one id are one entry. -/
theorem eq_of_id_eq (distinct : (ops.map (·.id)).Nodup) {first second : UpstreamOp}
    (mem : first ∈ ops) (memSecond : second ∈ ops) (same : first.id = second.id) : first = second :=
  inj_on_of_nodup_map distinct mem memSecond same

theorem find?_id {entry : UpstreamOp} (distinct : (ops.map (·.id)).Nodup) (mem : entry ∈ ops) :
    ops.find? (·.id = entry.id) = some entry := by
  cases found : ops.find? (·.id = entry.id) with
  | none =>
    have absent := find?_eq_none.mp found entry mem
    simp at absent
  | some other =>
    have same : other.id = entry.id := by simpa using find?_some found
    rw [eq_of_id_eq distinct (mem_of_find?_eq_some found) mem same]

section ModifyOp

variable {change : UpstreamOp → UpstreamOp}

theorem map_id_modifyOp (keeps : ∀ entry, (change entry).id = entry.id) :
    (s.modifyOp id change).upstreamOps.map (·.id) = s.upstreamOps.map (·.id) := by
  rw [modifyOp, map_map]
  apply map_congr_left
  intro entry _
  show (if entry.id = id then change entry else entry).id = entry.id
  split
  · exact keeps entry
  · rfl

variable {entry : UpstreamOp}

theorem mem_modifyOp_of_ne (mem : entry ∈ s.upstreamOps) (other : entry.id ≠ id) :
    entry ∈ (s.modifyOp id change).upstreamOps :=
  mem_map.mpr ⟨entry, mem, if_neg other⟩

theorem mem_modifyOp_self (mem : entry ∈ s.upstreamOps) :
    change entry ∈ (s.modifyOp entry.id change).upstreamOps :=
  mem_map.mpr ⟨entry, mem, if_pos rfl⟩

/-- The entries after a change: the changed one and the others. -/
theorem of_mem_modifyOp {changed : UpstreamOp} (distinct : (s.upstreamOps.map (·.id)).Nodup)
    (present : changed ∈ s.upstreamOps) (mem : entry ∈ (s.modifyOp changed.id change).upstreamOps) :
    (entry ∈ s.upstreamOps ∧ entry.id ≠ changed.id) ∨ entry = change changed := by
  obtain ⟨source, memSource, rfl⟩ := mem_map.mp mem
  by_cases same : source.id = changed.id
  · right
    rw [if_pos same, eq_of_id_eq distinct memSource present same]
  · left
    rw [if_neg same]
    exact ⟨memSource, same⟩

theorem length_modifyOp : (s.modifyOp id change).upstreamOps.length = s.upstreamOps.length :=
  length_map _

end ModifyOp

namespace Tracked

variable {loose : Option (String × Nat)}

/-- An entry that nothing refers to may be erased. -/
theorem eraseOp (tracked : Tracked loose s) (noAccept : ∀ accept ∈ s.nextAccepts, accept.id ≠ id)
    (noHandshake : ∀ handshake ∈ s.handshakes, handshake.id ≠ id)
    (only : ∀ other socket, loose = some (other, socket) → other = id) :
    Tracked none (s.eraseOp id) where
  distinct := tracked.distinct.sublist ((filter_sublist).map _)
  known entry mem := tracked.known entry (mem_eraseOp.mp mem).1
  single := tracked.single
  ongoing := tracked.ongoing
  awaited accept mem := by
    obtain ⟨entry, present, same, rest⟩ := tracked.awaited accept mem
    exact ⟨entry, mem_eraseOp.mpr ⟨present, same ▸ noAccept accept mem⟩, same, rest⟩
  shaking handshake mem := by
    obtain ⟨entry, present, same, rest⟩ := tracked.shaking handshake mem
    exact ⟨entry, mem_eraseOp.mpr ⟨present, same ▸ noHandshake handshake mem⟩, same, rest⟩
  apart := tracked.apart
  once := tracked.once
  covered entry mem := by
    obtain ⟨present, other⟩ := mem_eraseOp.mp mem
    obtain connected | accept | handshake | ⟨socket, named⟩ := tracked.covered entry present
    · exact .inl connected
    · exact .inr (.inl accept)
    · exact .inr (.inr (.inl handshake))
    · exact absurd (only _ socket named) other
  proven entry mem := tracked.proven entry (mem_eraseOp.mp mem).1
  paired stored entry mem := tracked.paired stored entry (mem_eraseOp.mp mem).1
  within limited := Nat.le_trans (length_filter_le _ _) (tracked.within limited)
  loosened := nofun

/-- The entry that was worked on may wait for a caller. -/
theorem connect {socket : Nat} (tracked : Tracked (some (id, socket)) s)
    (done : socket ∈ s.handshaken) (free : s.downstreamOp = none) :
    Tracked none (s.modifyOp id fun entry => { entry with connected := true }) := by
  obtain ⟨⟨loose, present, rfl, fresh, held⟩, noAccept, noHandshake⟩ :=
    tracked.loosened id socket rfl
  constructor
  case distinct =>
    rw [map_id_modifyOp]
    · exact tracked.distinct
    · exact fun _ => rfl
  case known =>
    intro entry mem
    obtain ⟨old, -⟩ | rfl := of_mem_modifyOp tracked.distinct present mem
    · exact tracked.known entry old
    · exact tracked.known loose present
  case single => exact tracked.single
  case ongoing => exact tracked.ongoing
  case awaited =>
    intro accept mem
    obtain ⟨entry, memEntry, same, rest⟩ := tracked.awaited accept mem
    exact ⟨entry, mem_modifyOp_of_ne memEntry (same ▸ noAccept accept mem), same, rest⟩
  case shaking =>
    intro handshake mem
    obtain ⟨entry, memEntry, same, rest⟩ := tracked.shaking handshake mem
    exact ⟨entry, mem_modifyOp_of_ne memEntry (same ▸ noHandshake handshake mem), same, rest⟩
  case apart => exact tracked.apart
  case once => exact tracked.once
  case covered =>
    intro entry mem
    obtain ⟨old, other⟩ | rfl := of_mem_modifyOp tracked.distinct present mem
    · obtain connected | accept | handshake | ⟨socket, named⟩ := tracked.covered entry old
      · exact .inl connected
      · exact .inr (.inl accept)
      · exact .inr (.inr (.inl handshake))
      · exact absurd (congrArg Prod.fst (Option.some.inj named)).symm other
    · exact .inl rfl
  case proven =>
    intro entry mem connected
    obtain ⟨old, -⟩ | rfl := of_mem_modifyOp tracked.distinct present mem
    · exact tracked.proven entry old connected
    · exact ⟨socket, done, held⟩
  case paired =>
    intro stored
    rw [show (s.modifyOp _ _).downstreamOp = s.downstreamOp from rfl, free] at stored
    cases stored
  case within =>
    intro limited
    rw [length_modifyOp]
    exact tracked.within limited
  case loosened => nofun

/-- The entry that was worked on may have a handshake. -/
theorem startHandshake {socket : Nat} (tracked : Tracked (some (id, socket)) s) :
    Tracked none { s with handshakes := s.handshakes ++ [⟨id, socket⟩] } := by
  obtain ⟨⟨loose, present, rfl, fresh, held⟩, noAccept, noHandshake⟩ :=
    tracked.loosened id socket rfl
  refine { tracked with shaking := ?_, apart := ?_, once := ?_, covered := ?_, loosened := nofun }
  · intro handshake mem
    obtain old | ⟨⟨⟩⟩ := (mem_append.mp mem).imp_right mem_singleton.mp
    · exact tracked.shaking handshake old
    · exact ⟨loose, present, rfl, fresh, held⟩
  · intro accept memAccept handshake mem
    obtain old | ⟨⟨⟩⟩ := (mem_append.mp mem).imp_right mem_singleton.mp
    · exact tracked.apart accept memAccept handshake old
    · exact noAccept accept memAccept
  · show ((s.handshakes ++ [(⟨loose.id, socket⟩ : Handshake)]).map (·.id)).Nodup
    rw [map_append, nodup_append]
    refine ⟨tracked.once, nodup_singleton _, ?_⟩
    intro old mem new memNew
    obtain ⟨handshake, memHandshake, rfl⟩ := mem_map.mp mem
    rw [mem_singleton.mp memNew]
    exact noHandshake handshake memHandshake
  · intro entry mem
    obtain connected | accept | ⟨handshake, memHandshake, same⟩ | ⟨other, named⟩ :=
      tracked.covered entry mem
    · exact .inl connected
    · exact .inr (.inl accept)
    · exact .inr (.inr (.inl ⟨handshake, mem_append_left _ memHandshake, same⟩))
    · refine .inr (.inr (.inl ⟨⟨loose.id, socket⟩, ?_, ?_⟩))
      · exact mem_append_right _ (mem_singleton_self _)
      · exact congrArg Prod.fst (Option.some.inj named)

/-- `do_accept` keeps track, and feeds the stored operation. -/
theorem doAccept (tracked : Tracked none s) (new : next ∉ s.ids) :
    Tracked none (s.doAccept next) := by
  rw [Acceptor.doAccept]
  split
  · exact tracked
  · rename_i idle
    split
    · exact tracked
    · rename_i room
      have none : s.nextAccepts = [] := by
        by_contra some
        exact idle (tracked.ongoing.mpr some)
      have other : ∀ entry ∈ s.upstreamOps, entry.id ≠ next := by
        intro entry mem same
        exact new (same ▸ tracked.known entry mem)
      have insert : ∀ entry, entry ∈ s.upstreamOps.orderedInsert
          (fun first second : UpstreamOp => first.id ≤ second.id) { id := next } ↔
          entry = { id := next } ∨ entry ∈ s.upstreamOps := fun _ => mem_orderedInsert _
      rw [none]
      constructor
      case distinct =>
        have permuted := (perm_orderedInsert
          (fun first second : UpstreamOp => first.id ≤ second.id) { id := next }
          s.upstreamOps).map (·.id)
        refine permuted.nodup_iff.mpr (nodup_cons.mpr ⟨?_, tracked.distinct⟩)
        intro mem
        obtain ⟨entry, memEntry, same⟩ := mem_map.mp mem
        exact other entry memEntry same
      case known =>
        intro entry mem
        obtain rfl | old := (insert entry).mp mem
        · exact mem_append_right _ (mem_singleton_self _)
        · exact mem_append_left _ (tracked.known entry old)
      case single => exact Nat.le_refl 1
      case ongoing => exact ⟨fun _ => cons_ne_nil _ _, fun _ => rfl⟩
      case awaited =>
        intro accept mem
        cases mem_singleton.mp mem
        exact ⟨{ id := next }, (insert _).mpr (.inl rfl), rfl, rfl, nofun, nofun⟩
      case shaking =>
        intro handshake mem
        obtain ⟨entry, memEntry, rest⟩ := tracked.shaking handshake mem
        exact ⟨entry, (insert entry).mpr (.inr memEntry), rest⟩
      case apart =>
        intro accept mem handshake memHandshake
        cases mem_singleton.mp mem
        obtain ⟨entry, memEntry, same, -⟩ := tracked.shaking handshake memHandshake
        exact fun equal => other entry memEntry (same.trans equal.symm)
      case once => exact tracked.once
      case covered =>
        intro entry mem
        obtain rfl | old := (insert entry).mp mem
        · exact .inr (.inl ⟨{ id := next }, mem_singleton_self _, rfl⟩)
        · obtain connected | ⟨accept, memAccept, -⟩ | handshake | ⟨socket, named⟩ :=
            tracked.covered entry old
          · exact .inl connected
          · rw [none] at memAccept
            exact absurd memAccept not_mem_nil
          · exact .inr (.inr (.inl handshake))
          · cases named
      case proven =>
        intro entry mem connected
        obtain rfl | old := (insert entry).mp mem
        · cases connected
        · exact tracked.proven entry old connected
      case paired =>
        intro stored entry mem
        obtain rfl | old := (insert entry).mp mem
        · rfl
        · exact tracked.paired stored entry old
      case within =>
        intro limited
        show (orderedInsert _ _ _).length ≤ s.limit
        rw [orderedInsert_length]
        have limited : s.limit ≠ 0 := limited
        omega
      case loosened => nofun

variable {old : AcceptStage}

/-- The accept of the next layer gets on. -/
theorem restage (stage : AcceptStage) (tracked : Tracked none s) (one : s.nextAccepts = [⟨id, old⟩])
    (filled : ∀ cause, stage = .posted cause → cause.failed = false →
      ∀ entry ∈ s.upstreamOps, entry.id = id → entry.peer.isSome = true)
    (failing : ∀ errorCode, stage = .failed errorCode → errorCode.failed = true) :
    Tracked none { s with nextAccepts := [⟨id, stage⟩] } := by
  have current : (⟨id, old⟩ : NextAccept) ∈ s.nextAccepts := one ▸ mem_singleton_self _
  refine { tracked with
    single := Nat.le_refl 1
    ongoing := ?_
    awaited := ?_
    apart := ?_
    covered := ?_
    loosened := nofun }
  · exact ⟨fun _ => cons_ne_nil _ _,
      fun _ => tracked.ongoing.mpr (one ▸ cons_ne_nil _ _)⟩
  · intro accept mem
    cases mem_singleton.mp mem
    obtain ⟨entry, memEntry, same, waiting, -⟩ := tracked.awaited _ current
    exact ⟨entry, memEntry, same, waiting,
      fun cause posted passed => filled cause posted passed entry memEntry same, failing⟩
  · intro accept mem
    cases mem_singleton.mp mem
    exact tracked.apart ⟨id, old⟩ current
  · intro entry mem
    obtain connected | ⟨accept, memAccept, same⟩ | behind := tracked.covered entry mem
    · exact .inl connected
    · rw [one] at memAccept
      cases mem_singleton.mp memAccept
      exact .inr (.inl ⟨_, mem_singleton_self _, same⟩)
    · exact .inr (.inr behind)

theorem fill (tracked : Tracked none s) (one : s.nextAccepts = [⟨id, old⟩]) (socket : Nat)
    (endpoint : String) :
    Tracked none (s.modifyOp id fun entry =>
      { entry with peer := some socket, endpoint := some endpoint }) := by
  have current : (⟨id, old⟩ : NextAccept) ∈ s.nextAccepts := one ▸ mem_singleton_self _
  obtain ⟨target, present, rfl, waiting, -, failing⟩ := tracked.awaited _ current
  constructor
  case distinct =>
    rw [map_id_modifyOp]
    · exact tracked.distinct
    · exact fun _ => rfl
  case known =>
    intro entry mem
    obtain ⟨old, -⟩ | rfl := of_mem_modifyOp tracked.distinct present mem
    · exact tracked.known entry old
    · exact tracked.known target present
  case single => exact tracked.single
  case ongoing => exact tracked.ongoing
  case awaited =>
    intro accept mem
    rw [show (s.modifyOp _ _).nextAccepts = s.nextAccepts from rfl, one] at mem
    cases mem_singleton.mp mem
    exact ⟨_, mem_modifyOp_self present, rfl, waiting, fun _ _ _ => rfl, failing⟩
  case shaking =>
    intro handshake mem
    obtain ⟨entry, memEntry, same, rest⟩ := tracked.shaking handshake mem
    have other := tracked.apart _ current handshake mem
    exact ⟨entry, mem_modifyOp_of_ne memEntry (same ▸ other.symm), same, rest⟩
  case apart => exact tracked.apart
  case once => exact tracked.once
  case covered =>
    intro entry mem
    obtain ⟨old, -⟩ | rfl := of_mem_modifyOp tracked.distinct present mem
    · exact tracked.covered entry old
    · exact .inr (.inl ⟨_, current, rfl⟩)
  case proven =>
    intro entry mem connected
    obtain ⟨old, -⟩ | rfl := of_mem_modifyOp tracked.distinct present mem
    · exact tracked.proven entry old connected
    · rw [show ({ target with peer := some socket, endpoint := some endpoint } : UpstreamOp).connected
        = target.connected from rfl, waiting] at connected
      cases connected
  case paired =>
    intro stored entry mem
    obtain ⟨old, -⟩ | rfl := of_mem_modifyOp tracked.distinct present mem
    · exact tracked.paired stored entry old
    · exact waiting
  case within =>
    intro limited
    rw [length_modifyOp]
    exact tracked.within limited
  case loosened => nofun

/-- `on_accept` takes over from the accept of the next layer. -/
theorem takeAccept {cause : ErrorCode} (tracked : Tracked none s)
    (one : s.nextAccepts = [⟨id, .posted cause⟩]) (passed : cause.failed = false) :
    ∃ socket, Tracked (some (id, socket))
      { s with nextAccepts := [], ongoingAcceptOp := false } := by
  have current : (⟨id, .posted cause⟩ : NextAccept) ∈ s.nextAccepts :=
    one ▸ mem_singleton_self _
  obtain ⟨entry, present, rfl, waiting, filled, -⟩ := tracked.awaited _ current
  obtain ⟨socket, held⟩ := Option.isSome_iff_exists.mp (filled cause rfl passed)
  refine ⟨socket, { tracked with
    single := Nat.zero_le 1
    ongoing := ?_
    awaited := ?_
    apart := ?_
    covered := ?_
    loosened := ?_ }⟩
  · exact ⟨nofun, fun some => absurd rfl some⟩
  · exact fun _ mem => absurd mem not_mem_nil
  · exact fun _ mem => absurd mem not_mem_nil
  · intro other mem
    obtain connected | ⟨accept, memAccept, same⟩ | handshake | ⟨socket, named⟩ :=
      tracked.covered other mem
    · exact .inl connected
    · rw [one] at memAccept
      cases mem_singleton.mp memAccept
      exact .inr (.inr (.inr ⟨socket, by rw [← same]⟩))
    · exact .inr (.inr (.inl handshake))
    · cases named
  · rintro _ _ ⟨⟩
    exact ⟨⟨entry, present, rfl, waiting, held⟩, fun _ mem => absurd mem not_mem_nil,
      fun handshake mem => (tracked.apart _ current handshake mem).symm⟩

/-- `on_handshake` takes over from the handshake. -/
theorem takeHandshake {index : Nat} {handshake : Handshake} {done : List Nat}
    (tracked : Tracked none s) (taken : s.handshakes[index]? = some handshake)
    (grown : ∀ socket ∈ s.handshaken, socket ∈ done) :
    Tracked (some (handshake.id, handshake.socket))
      { s with handshakes := s.handshakes.eraseIdx index, handshaken := done } := by
  have current := mem_of_taken taken
  have permuted := perm_of_taken taken
  have once : handshake.id ∉ (s.handshakes.eraseIdx index).map (·.id) ∧
      ((s.handshakes.eraseIdx index).map (·.id)).Nodup :=
    nodup_cons.mp ((permuted.map Handshake.id).nodup_iff.mpr tracked.once)
  have left : ∀ other ∈ s.handshakes.eraseIdx index, other ∈ s.handshakes :=
    fun other mem => mem_of_mem_eraseIdx mem
  obtain ⟨entry, present, same, waiting, held⟩ := tracked.shaking _ current
  refine { tracked with
    shaking := ?_
    apart := ?_
    once := once.2
    covered := ?_
    proven := ?_
    loosened := ?_ }
  · exact fun other mem => tracked.shaking other (left other mem)
  · exact fun accept memAccept other mem => tracked.apart accept memAccept other (left other mem)
  · intro other mem
    obtain connected | accept | ⟨carrier, memCarrier, named⟩ | ⟨socket, named⟩ :=
      tracked.covered other mem
    · exact .inl connected
    · exact .inr (.inl accept)
    · obtain rfl | behind := mem_cons.mp (permuted.mem_iff.mpr memCarrier)
      · exact .inr (.inr (.inr ⟨_, by rw [named]⟩))
      · exact .inr (.inr (.inl ⟨carrier, behind, named⟩))
    · cases named
  · intro other mem connected
    obtain ⟨socket, proven, held⟩ := tracked.proven other mem connected
    exact ⟨socket, grown socket proven, held⟩
  · rintro _ _ ⟨⟩
    refine ⟨⟨entry, present, same, waiting, held⟩,
      fun accept mem => tracked.apart accept mem handshake current, ?_⟩
    intro other mem equal
    exact once.1 (mem_map.mpr ⟨other, mem, equal⟩)

end Tracked

theorem fed_doAccept (tracked : Tracked none s) : Fed (s.doAccept next) := by
  rw [Acceptor.doAccept]
  split
  · rename_i ongoing
    exact fun _ => .inl (tracked.ongoing.mp ongoing)
  · split
    · rename_i full
      exact fun _ => .inr full
    · exact fun _ => .inl (append_ne_nil_of_right_ne_nil _ (cons_ne_nil _ _))

/-! ## The handlers -/

/-- What holds between two events. -/
structure Kept (s : Acceptor) : Prop where
  opened : s.closed = false → Tracked none s ∧ Fed s
  ended : s.closed = true → s.upstreamOps = [] ∧ s.downstreamOp = none
  single : s.nextAccepts.length ≤ 1

namespace Kept

theorem of_open (isOpen : s.closed = false) (tracked : Tracked none s) (fed : Fed s) : Kept s where
  opened _ := ⟨tracked, fed⟩
  ended isClosed := absurd (isOpen.symm.trans isClosed) Bool.false_ne_true
  single := tracked.single

end Kept

theorem closed_doAccept : (s.doAccept next).closed = s.closed := by
  rw [Acceptor.doAccept]
  split
  · rfl
  · split <;> rfl

theorem kept_doAccept (isOpen : s.closed = false) (tracked : Tracked none s)
    (new : next ∉ s.ids) : Kept (s.doAccept next) :=
  .of_open (closed_doAccept.trans isOpen) (tracked.doAccept new) (fed_doAccept tracked)

/-- A second `do_accept` finds the flag set or the bound reached. -/
theorem doAccept_doAccept (second : String) :
    (s.doAccept next).doAccept second = s.doAccept next := by
  rw [Acceptor.doAccept.eq_def next s]
  split
  · rename_i ongoing
    rw [Acceptor.doAccept, if_pos ongoing]
  · rename_i idle
    split
    · rename_i full
      rw [Acceptor.doAccept, if_neg idle, if_pos full]
    · rw [Acceptor.doAccept, if_pos rfl]

theorem kept_onError (errorCode : ErrorCode) (single : s.nextAccepts.length ≤ 1)
    (isOpen : s.closed = false) : Kept (s.onError errorCode) := by
  rw [onError, if_neg (by rw [isOpen]; exact Bool.false_ne_true)]
  simp only
  split
  · exact ⟨nofun, fun _ => ⟨rfl, rfl⟩, single⟩
  · rename_i free
    exact ⟨nofun, fun _ => ⟨rfl, free⟩, single⟩

/-- `on_handshake` of the entry that was worked on: the entry leaves, or waits for a
caller. -/
theorem onHandshake_of_loose (next : String) (isOpen : s.closed = false)
    (tracked : Tracked (some (id, socket)) s)
    (done : errorCode.failed = false → socket ∈ s.handshaken) :
    ∃ t, s.onHandshake id errorCode next = t.doAccept next ∧ t.closed = false ∧ t.ids = s.ids ∧
      Tracked none t := by
  obtain ⟨⟨entry, present, rfl, -, -⟩, noAccept, noHandshake⟩ := tracked.loosened id socket rfl
  have only : ∀ other held, some (entry.id, socket) = some (other, held) → other = entry.id := by
    rintro _ _ ⟨⟩
    rfl
  rw [Acceptor.onHandshake, if_neg (by rw [isOpen]; exact Bool.false_ne_true),
    find?_id tracked.distinct present]
  simp only
  by_cases failed : errorCode.failed = true
  · rw [if_neg (not_not.mpr failed)]
    exact ⟨_, rfl, isOpen, rfl, tracked.eraseOp noAccept noHandshake only⟩
  · rw [if_pos failed]
    cases stored : s.downstreamOp with
    | some op =>
      refine ⟨_, rfl, isOpen, rfl, ?_⟩
      have erased := tracked.eraseOp noAccept noHandshake only
      exact { erased with paired := nofun }
    | none =>
      exact ⟨_, rfl, isOpen, rfl,
        tracked.connect (done (Bool.eq_false_iff.mpr failed)) stored⟩

theorem kept_onHandshake (isOpen : s.closed = false) (tracked : Tracked (some (id, socket)) s)
    (new : next ∉ s.ids) (done : errorCode.failed = false → socket ∈ s.handshaken) :
    Kept (s.onHandshake id errorCode next) := by
  obtain ⟨t, same, open_, ids, kept⟩ := onHandshake_of_loose next isOpen tracked done
  rw [same]
  exact kept_doAccept open_ kept (ids ▸ new)

theorem kept_doHandshake {setup : ErrorCode} (isOpen : s.closed = false)
    (tracked : Tracked (some (id, socket)) s) (new : next ∉ s.ids) :
    Kept (s.doHandshake id setup next) := by
  have started := tracked.startHandshake
  obtain ⟨⟨entry, present, rfl, -, held⟩, -, -⟩ := tracked.loosened id socket rfl
  rw [doHandshake, find?_id tracked.distinct present]
  simp only
  by_cases failed : setup.failed = true
  · -- `on_handshake` runs inside `do_handshake`, and both end in `do_accept`.
    obtain ⟨t, same, open_, ids, kept⟩ := onHandshake_of_loose next isOpen tracked
      (fun passed => absurd (failed.symm.trans passed) Bool.false_ne_true.symm)
    rw [if_pos failed, same, doAccept_doAccept]
    exact kept_doAccept open_ kept (ids ▸ new)
  · rw [if_neg failed, held]
    exact kept_doAccept isOpen started new

/-- What a call of `async_accept` does: it is refused, takes a connection that waits, or is
stored. -/
theorem asyncAcceptInternal_cases (op : Nat) (next : String) (s : Acceptor) :
    (∃ errorCode, errorCode.failed = true ∧
      s.asyncAcceptInternal op next = s.invoke { op, errorCode }) ∨
    (s.closed = false ∧ s.downstreamOp = none ∧
      ((∃ entry, s.upstreamOps.find? (·.connected) = some entry ∧
        s.asyncAcceptInternal op next = (s.invoke
          { op, errorCode := .none, peer := entry.peer, endpoint := entry.endpoint }).eraseOp
          entry.id) ∨
      (s.upstreamOps.find? (·.connected) = none ∧
        s.asyncAcceptInternal op next = doAccept next { s with downstreamOp := some op }))) := by
  rw [asyncAcceptInternal]
  cases stored : s.downstreamOp with
  | some _ => exact .inl ⟨Error.Code.operationInProgress, rfl, rfl⟩
  | none =>
    cases closed : s.closed with
    | true => exact .inl ⟨Error.Code.operationAborted, rfl, rfl⟩
    | false =>
      right
      refine ⟨rfl, rfl, ?_⟩
      cases found : s.upstreamOps.find? (·.connected) with
      | some entry => exact .inl ⟨entry, rfl, rfl⟩
      | none => exact .inr ⟨rfl, rfl⟩

theorem kept_asyncAcceptInternal (op : Nat) (kept : Kept s) (new : next ∉ s.ids) :
    Kept (s.asyncAcceptInternal op next) := by
  obtain ⟨errorCode, -, same⟩ | ⟨isOpen, free, ⟨entry, found, same⟩ | ⟨absent, same⟩⟩ :=
    asyncAcceptInternal_cases op next s
  · rw [same]
    exact ⟨fun isOpen => ⟨{ (kept.opened isOpen).1 with }, (kept.opened isOpen).2⟩, kept.ended,
      kept.single⟩
  · obtain ⟨tracked, -⟩ := kept.opened isOpen
    have connected : entry.connected = true := find?_some found
    have present := mem_of_find?_eq_some found
    -- Accepts and handshakes belong to entries that are not connected.
    have noAccept : ∀ accept ∈ s.nextAccepts, accept.id ≠ entry.id := by
      intro accept mem same
      obtain ⟨other, memOther, named, waiting, -⟩ := tracked.awaited accept mem
      rw [eq_of_id_eq tracked.distinct memOther present (named.trans same), connected] at waiting
      cases waiting
    have noHandshake : ∀ handshake ∈ s.handshakes, handshake.id ≠ entry.id := by
      intro handshake mem same
      obtain ⟨other, memOther, named, waiting, -⟩ := tracked.shaking handshake mem
      rw [eq_of_id_eq tracked.distinct memOther present (named.trans same), connected] at waiting
      cases waiting
    have erased := tracked.eraseOp noAccept noHandshake nofun
    rw [same]
    refine .of_open isOpen { erased with } ?_
    intro stored
    rw [show ((s.invoke _).eraseOp _).downstreamOp = s.downstreamOp from rfl, free] at stored
    cases stored
  · obtain ⟨tracked, -⟩ := kept.opened isOpen
    rw [same]
    refine kept_doAccept (s := { s with downstreamOp := some op }) isOpen
      { tracked with paired := ?_ } new
    intro _ entry mem
    simpa using find?_eq_none.mp absent entry mem

/-! ## Steps and runs -/

/-- What `complete` does: it stores the accepted socket, or the accept has failed. -/
theorem complete_cases (completed : s.complete accept configured = some (cause, t)) :
    (∃ socket endpoint, accept.stage = .accepted socket endpoint ∧ cause = .none ∧
      t = s.store accept.id socket endpoint) ∨
    (t = s ∧ (cause.failed = true ∨ accept.stage = .failed cause)) := by
  rw [Acceptor.complete] at completed
  split at completed
  · rename_i socket endpoint stage
    split at completed
    · rename_i failed
      cases completed
      exact .inr ⟨rfl, .inl failed⟩
    · cases completed
      exact .inl ⟨socket, endpoint, stage, rfl, rfl⟩
  · rename_i errorCode stage
    cases completed
    exact .inr ⟨rfl, .inr stage⟩
  · cases completed
  · cases completed

theorem kept_complete {index : Nat} (kept : Kept s) (current : s.nextAccepts[index]? = some accept)
    (completed : s.complete accept configured = some (cause, t)) :
    Kept { t with nextAccepts := t.nextAccepts.set index ⟨accept.id, .posted cause⟩ } := by
  obtain ⟨one, rfl⟩ := eq_singleton_of_taken kept.single current
  obtain ⟨id, stage⟩ := accept
  obtain ⟨socket, endpoint, -, rfl, rfl⟩ | ⟨rfl, failed⟩ := complete_cases completed
  · obtain closed | isOpen := Bool.eq_false_or_eq_true s.closed
    · obtain ⟨empty, free⟩ := kept.ended closed
      rw [store, if_neg (by rw [empty]; exact Bool.false_ne_true)]
      refine ⟨fun isOpen => absurd (closed.symm.trans isOpen) nofun, fun _ => ⟨empty, free⟩, ?_⟩
      rw [length_set]
      exact kept.single
    · obtain ⟨tracked, -⟩ := kept.opened isOpen
      obtain ⟨entry, present, same, -⟩ := tracked.awaited ⟨id, stage⟩
        (one ▸ mem_singleton_self _)
      have owned : s.upstreamOps.any (·.id = id) = true :=
        any_eq_true.mpr ⟨entry, present, decide_eq_true same⟩
      have filled := tracked.fill one socket endpoint
      rw [store, if_pos owned]
      have staged := filled.restage (.posted .none) one ?_ nofun
      · rw [show (s.modifyOp id _).nextAccepts = s.nextAccepts from rfl, one, set_cons_zero]
        exact .of_open isOpen staged fun _ => .inl (cons_ne_nil _ _)
      · intro cause _ _ other mem named
        subst same
        obtain ⟨-, apart⟩ | rfl := of_mem_modifyOp tracked.distinct present mem
        · exact absurd named apart
        · rfl
  · rw [one, set_cons_zero]
    refine ⟨fun isOpen => ⟨?_, fun _ => .inl (cons_ne_nil _ _)⟩, kept.ended, Nat.le_refl 1⟩
    obtain ⟨tracked, -⟩ := kept.opened isOpen
    refine tracked.restage _ one ?_ nofun
    rintro _ ⟨⟩ passed
    -- The cause is an error in either case.
    obtain failed | stage := failed
    · exact absurd (failed.symm.trans passed) nofun
    · obtain ⟨-, -, -, -, -, failing⟩ := tracked.awaited _ (one ▸ mem_singleton_self _)
      exact absurd ((failing _ stage).symm.trans passed) nofun

theorem kept_step {event : Event} (kept : Kept s) (taken : s.step event = some t) : Kept t := by
  cases event with
  | asyncAccept id =>
    obtain ⟨new, ⟨⟩⟩ := Option.ite_none_left_eq_some.mp taken
    apply kept_asyncAcceptInternal
    · exact ⟨fun isOpen => ⟨{ (kept.opened isOpen).1 with }, (kept.opened isOpen).2⟩, kept.ended,
        kept.single⟩
    · exact new
  | close =>
    cases taken
    cases closed : s.closed with
    | true =>
      rw [closeInternal, onError, if_pos closed]
      exact kept
    | false => exact kept_onError _ kept.single closed
  | accepted index endpoint =>
    rw [step] at taken
    split at taken
    · rename_i id current
      obtain ⟨isOpen, ⟨⟩⟩ := Option.ite_none_left_eq_some.mp taken
      rw [Bool.not_eq_true] at isOpen
      obtain ⟨one, rfl⟩ := eq_singleton_of_taken kept.single current
      obtain ⟨tracked, fed⟩ := kept.opened isOpen
      have staged := tracked.restage (.accepted s.sockets endpoint) one nofun nofun
      rw [one, set_cons_zero]
      exact .of_open isOpen { staged with } fun stored => .inl (cons_ne_nil _ _)
    · cases taken
  | acceptFailed index errorCode =>
    rw [step] at taken
    split at taken
    · rename_i id current
      obtain ⟨failed, ⟨⟩⟩ := Option.ite_none_right_eq_some.mp taken
      obtain ⟨one, rfl⟩ := eq_singleton_of_taken kept.single current
      rw [one, set_cons_zero]
      refine ⟨fun isOpen => ⟨?_, fun _ => .inl (cons_ne_nil _ _)⟩, kept.ended,
        Nat.le_refl 1⟩
      refine (kept.opened isOpen).1.restage _ one nofun ?_
      rintro _ ⟨⟩
      exact failed
    · cases taken
  | complete index configured =>
    rw [step] at taken
    split at taken
    · rename_i accept current
      obtain ⟨⟨cause, after⟩, completed, ⟨⟩⟩ := Option.map_eq_some_iff.mp taken
      exact kept_complete kept current completed
    · cases taken
  | onAccept index setup id =>
    rw [step] at taken
    split at taken
    · rename_i accepted cause current
      obtain ⟨new, ⟨⟩⟩ := Option.ite_none_left_eq_some.mp taken
      obtain ⟨one, rfl⟩ := eq_singleton_of_taken kept.single current
      rw [one, eraseIdx_cons_zero]
      obtain closed | isOpen := Bool.eq_false_or_eq_true s.closed
      · rw [onAccept, if_pos closed]
        exact ⟨fun isOpen => absurd (closed.symm.trans isOpen) nofun, kept.ended, Nat.zero_le 1⟩
      · have open_ : ¬ s.closed = true := by
          rw [isOpen]
          exact Bool.false_ne_true
        rw [onAccept, if_neg open_]
        obtain failed | passed := Bool.eq_false_or_eq_true cause.failed
        · rw [if_pos failed]
          exact kept_onError (s := { s with nextAccepts := [], ongoingAcceptOp := false }) cause
            (Nat.zero_le 1) isOpen
        · obtain ⟨socket, loose⟩ := (kept.opened isOpen).1.takeAccept one passed
          rw [if_neg (by rw [passed]; exact Bool.false_ne_true)]
          exact kept_doHandshake isOpen loose new
    · cases taken
  | onHandshake index errorCode id =>
    rw [step] at taken
    split at taken
    · rename_i handshake current
      obtain ⟨new, ⟨⟩⟩ := Option.ite_none_left_eq_some.mp taken
      obtain closed | isOpen := Bool.eq_false_or_eq_true s.closed
      · rw [Acceptor.onHandshake, if_pos closed]
        exact ⟨fun isOpen => absurd (closed.symm.trans isOpen) nofun, kept.ended, kept.single⟩
      · refine kept_onHandshake isOpen ((kept.opened isOpen).1.takeHandshake current ?_) new ?_
        · intro socket mem
          split
          · exact mem
          · exact mem_append_left _ mem
        · intro passed
          rw [passed]
          exact mem_append_right _ (mem_singleton_self _)
    · cases taken

theorem kept_of_run (maxOngoingUpstreamOps : Option Nat)
    (run : Reaches step { maxOngoingUpstreamOps } s) : Kept s := by
  refine run.invariant ?_ fun _ _ _ kept _ taken => kept_step kept taken
  refine .of_open rfl ⟨nodup_nil, ?_, Nat.zero_le 1, ?_, ?_, ?_, ?_, nodup_nil, ?_, ?_,
    nofun, fun _ => Nat.zero_le _, nofun⟩ nofun
  · exact fun _ mem => absurd mem not_mem_nil
  · exact ⟨nofun, fun some => absurd rfl some⟩
  · exact fun _ mem => absurd mem not_mem_nil
  · exact fun _ mem => absurd mem not_mem_nil
  · exact fun _ mem => absurd mem not_mem_nil
  · exact fun _ mem => absurd mem not_mem_nil
  · exact fun _ mem => absurd mem not_mem_nil

end Rstream.Io.Ssl.Acceptor
