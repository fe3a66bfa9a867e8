import Rstream.Io.Ssl.Rendezvous

/-!
# Sockets and handlers of the TLS acceptor

A socket that the next layer has accepted is in one place at a time: in the operation
that accepted it, in an entry, or with the caller it was handed to. A call of
`async_accept` is stored or its handler has been invoked. Every handler of the acceptor
only moves sockets and answers calls (`Moves`), and the invariant `Ledger` is kept by
every such move.
-/

namespace Rstream.Io.Ssl.Acceptor

open Library List Nat
open IoRstrm

variable {s t u : Acceptor} {id next : String}

/-- The accept operation holds the socket. -/
def NextAccept.Holds (socket : Nat) (accept : NextAccept) : Bool :=
  match accept.stage with
  | .accepted held _ => held = socket
  | _ => false

/-- In how many places a socket is. -/
def places (socket : Nat) (s : Acceptor) : Nat :=
  s.upstreamOps.countP (·.peer = some socket) + s.nextAccepts.countP (NextAccept.Holds socket) +
    s.invoked.countP (·.peer = some socket)

/-- The calls that are answered, and the one that is stored. -/
def answers (s : Acceptor) : List Nat := s.invoked.map (·.op) ++ s.downstreamOp.toList

/-- An invocation without an error hands over a socket with a completed handshake. -/
def Delivers (invocation : Invocation) (s : Acceptor) : Prop :=
  invocation.errorCode.failed = false →
    ∃ socket ∈ s.handshaken, invocation.peer = some socket

structure Ledger (s : Acceptor) : Prop where
  answered : s.answers.Perm (List.range s.calls)
  separate : ∀ socket, s.places socket ≤ 1
  minted : ∀ socket, s.sockets ≤ socket → s.places socket = 0
  delivered : ∀ invocation ∈ s.invoked, s.Delivers invocation

/-- Sockets change places and calls are answered. -/
structure Moves (s t : Acceptor) : Prop where
  answers : t.answers.Perm s.answers
  calls : t.calls = s.calls
  places : ∀ socket, t.places socket ≤ s.places socket
  sockets : t.sockets = s.sockets
  delivered : ∀ invocation ∈ t.invoked, invocation ∈ s.invoked ∨ t.Delivers invocation
  handshaken : ∀ socket ∈ s.handshaken, socket ∈ t.handshaken

theorem Delivers.grow {invocation : Invocation} (delivers : s.Delivers invocation)
    (handshaken : ∀ socket ∈ s.handshaken, socket ∈ t.handshaken) : t.Delivers invocation := by
  intro passed
  obtain ⟨socket, mem, held⟩ := delivers passed
  exact ⟨socket, handshaken socket mem, held⟩

namespace Moves

theorem refl (s : Acceptor) : Moves s s :=
  ⟨.refl _, rfl, fun _ => le_refl _, rfl, fun _ mem => .inl mem, fun _ mem => mem⟩

theorem trans (first : Moves s t) (second : Moves t u) : Moves s u where
  answers := second.answers.trans first.answers
  calls := second.calls.trans first.calls
  places socket := le_trans (second.places socket) (first.places socket)
  sockets := second.sockets.trans first.sockets
  delivered invocation mem := by
    obtain old | new := second.delivered invocation mem
    · exact (first.delivered invocation old).imp_right fun delivers =>
        delivers.grow second.handshaken
    · exact .inr new
  handshaken socket mem := second.handshaken socket (first.handshaken socket mem)

/-- Only entries and accept operations change. -/
theorem of_places (invoked : t.invoked = s.invoked) (stored : t.downstreamOp = s.downstreamOp)
    (calls : t.calls = s.calls) (sockets : t.sockets = s.sockets)
    (handshaken : t.handshaken = s.handshaken)
    (places : ∀ socket, t.places socket ≤ s.places socket) : Moves s t where
  answers := by rw [Acceptor.answers, Acceptor.answers, invoked, stored]
  calls := calls
  places := places
  sockets := sockets
  delivered invocation mem := .inl (invoked ▸ mem)
  handshaken socket mem := handshaken ▸ mem

end Moves

theorem Ledger.move (ledger : Ledger s) (moves : Moves s t) : Ledger t where
  answered := by
    rw [moves.calls]
    exact moves.answers.trans ledger.answered
  separate socket := le_trans (moves.places socket) (ledger.separate socket)
  minted socket unborn := by
    rw [moves.sockets] at unborn
    exact le_zero.mp (ledger.minted socket unborn ▸ moves.places socket)
  delivered invocation mem := by
    obtain old | new := moves.delivered invocation mem
    · exact (ledger.delivered invocation old).grow moves.handshaken
    · exact new

/-! ## Entries -/

variable {entry : UpstreamOp} {socket : Nat}

/-- An entry and the others. -/
theorem perm_eraseOp (distinct : (s.upstreamOps.map (·.id)).Nodup) (present : entry ∈ s.upstreamOps)
    :
    (entry :: (s.eraseOp entry.id).upstreamOps).Perm s.upstreamOps := by
  obtain ⟨front, back, split⟩ := append_of_mem present
  rw [eraseOp]
  show (entry :: s.upstreamOps.filter _).Perm s.upstreamOps
  rw [split, map_append, map_cons, nodup_append, nodup_cons] at distinct
  obtain ⟨-, ⟨behind, -⟩, apart⟩ := distinct
  have frontKept : front.filter (fun op => decide (op.id ≠ entry.id)) = front := by
    apply filter_eq_self.mpr
    intro op mem
    exact decide_eq_true (apart op.id (mem_map_of_mem mem) entry.id mem_cons_self)
  have backKept : back.filter (fun op => decide (op.id ≠ entry.id)) = back := by
    apply filter_eq_self.mpr
    intro op mem
    apply decide_eq_true
    intro same
    exact behind (same ▸ mem_map_of_mem mem)
  have self : decide (entry.id ≠ entry.id) = false := by simp
  rw [split, filter_append, filter_cons, self, frontKept, backKept]
  exact perm_middle.symm

/-- The changed entry and the others. -/
theorem perm_modifyOp (change : UpstreamOp → UpstreamOp)
    (distinct : (s.upstreamOps.map (·.id)).Nodup) (present : entry ∈ s.upstreamOps) :
    (change entry :: (s.eraseOp entry.id).upstreamOps).Perm
      (s.modifyOp entry.id change).upstreamOps := by
  have others : (s.eraseOp entry.id).upstreamOps.map
      (fun op => if op.id = entry.id then change op else op) =
      (s.eraseOp entry.id).upstreamOps := by
    rw [map_congr_left (g := fun op => op), map_id']
    intro op mem
    exact if_neg (mem_eraseOp.mp mem).2
  have changed := (perm_eraseOp distinct present).map
    fun op => if op.id = entry.id then change op else op
  rw [map_cons, if_pos rfl, others] at changed
  exact changed

/-! ## The moves of the handlers -/

theorem moves_doAccept (next : String) (s : Acceptor) : Moves s (s.doAccept next) := by
  rw [Acceptor.doAccept]
  split
  · exact .refl s
  · split
    · exact .refl s
    · refine .of_places rfl rfl rfl rfl rfl ?_
      intro socket
      have inserted := (perm_orderedInsert
        (fun first second : UpstreamOp => first.id ≤ second.id) { id := next }
        s.upstreamOps).countP_eq (·.peer = some socket)
      have waiting : (s.nextAccepts ++ [({ id := next } : NextAccept)]).countP (NextAccept.Holds socket) =
          s.nextAccepts.countP (NextAccept.Holds socket) := by
        rw [countP_append]
        rfl
      exact Nat.add_le_add_right
        (Nat.add_le_add (Nat.le_of_eq inserted) (Nat.le_of_eq waiting)) _

theorem moves_eraseOp (id : String) (s : Acceptor) : Moves s (s.eraseOp id) := by
  refine .of_places rfl rfl rfl rfl rfl ?_
  intro socket
  exact Nat.add_le_add_right (Nat.add_le_add_right (filter_sublist.countP_le) _) _

theorem moves_modifyOp {change : UpstreamOp → UpstreamOp} (id : String) (s : Acceptor)
    (keeps : ∀ entry, (change entry).peer = entry.peer) : Moves s (s.modifyOp id change) := by
  refine .of_places rfl rfl rfl rfl rfl ?_
  intro socket
  have same : ((fun op : UpstreamOp => decide (op.peer = some socket)) ∘ fun op =>
      if op.id = id then change op else op) = fun op => decide (op.peer = some socket) := by
    funext op
    show decide ((if op.id = id then change op else op).peer = some socket) = _
    split
    · rw [keeps]
    · rfl
  have counted : (s.modifyOp id change).upstreamOps.countP (·.peer = some socket) =
      s.upstreamOps.countP (·.peer = some socket) := by
    rw [modifyOp, countP_map, same]
  exact Nat.add_le_add_right (Nat.add_le_add_right (Nat.le_of_eq counted) _) _

/-- An entry is handed to the stored call. -/
theorem moves_handOver {op : Nat} (errorCode : ErrorCode)
    (distinct : (s.upstreamOps.map (·.id)).Nodup) (present : entry ∈ s.upstreamOps)
    (stored : s.downstreamOp = some op) (held : entry.peer = some socket)
    (done : socket ∈ s.handshaken) :
    Moves s { (s.invoke { op, errorCode, peer := entry.peer, endpoint := entry.endpoint }).eraseOp
      entry.id with downstreamOp := none } where
  answers := by
    rw [answers, answers, stored]
    show (map _ (s.invoked ++ [_]) ++ []).Perm _
    rw [append_nil, map_append]
    exact .refl _
  calls := rfl
  places other := by
    have left := (perm_eraseOp distinct present).countP_eq (·.peer = some other)
    have given : (s.invoked ++ [(⟨op, errorCode, entry.peer, entry.endpoint⟩ : Invocation)]).countP
        (·.peer = some other) = s.invoked.countP (·.peer = some other) +
          if decide (entry.peer = some other) = true then 1 else 0 := by
      rw [countP_append, countP_singleton]
    rw [countP_cons] at left
    show (s.eraseOp entry.id).upstreamOps.countP _ + s.nextAccepts.countP _ +
      (s.invoked ++ [_]).countP _ ≤ places other s
    rw [given, places]
    omega
  sockets := rfl
  delivered invocation mem := by
    obtain old | ⟨⟨⟩⟩ := (mem_append.mp mem).imp_right mem_singleton.mp
    · exact .inl old
    · exact .inr fun _ => ⟨socket, done, held⟩
  handshaken _ mem := mem

variable {errorCode cause : ErrorCode} {accept : NextAccept}

theorem moves_onError (s : Acceptor) (failed : errorCode.failed = true) :
    Moves s (s.onError errorCode) := by
  have empty : ∀ socket, 0 + s.nextAccepts.countP (NextAccept.Holds socket) +
      s.invoked.countP (·.peer = some socket) ≤ places socket s := by
    intro socket
    rw [places]
    omega
  rw [onError]
  split
  · exact .refl s
  · simp only
    cases stored : s.downstreamOp with
    | none => exact .of_places rfl stored.symm rfl rfl rfl empty
    | some op =>
      constructor
      case answers =>
        rw [answers, answers, stored]
        show (map _ (s.invoked ++ [_]) ++ []).Perm _
        rw [append_nil, map_append]
        exact .refl _
      case calls => rfl
      case places =>
        intro socket
        have given : (s.invoked ++ [({ op, errorCode } : Invocation)]).countP
            (·.peer = some socket) = s.invoked.countP (·.peer = some socket) := by
          rw [countP_append]
          rfl
        show 0 + s.nextAccepts.countP _ + (s.invoked ++ [_]).countP _ ≤ _
        rw [given]
        exact empty socket
      case sockets => rfl
      case delivered =>
        intro invocation mem
        obtain old | ⟨⟨⟩⟩ := (mem_append.mp mem).imp_right mem_singleton.mp
        · exact .inl old
        · exact .inr fun passed => absurd (failed.symm.trans passed) (by rintro ⟨⟩)
      case handshaken => exact fun _ mem => mem

/-- `on_handshake` of the entry that was worked on. -/
theorem moves_onHandshake (next : String) (tracked : Tracked (some (id, socket)) s)
    (done : errorCode.failed = false → socket ∈ s.handshaken) :
    Moves s (s.onHandshake id errorCode next) := by
  obtain ⟨⟨entry, present, rfl, -, held⟩, -, -⟩ := tracked.loosened id socket rfl
  rw [Acceptor.onHandshake, find?_id tracked.distinct present]
  split
  · exact .refl s
  · simp only
    apply Moves.trans _ (moves_doAccept _ _)
    split
    · rename_i passed
      cases stored : s.downstreamOp with
      | some op =>
        exact moves_handOver errorCode tracked.distinct present stored held
          (done (Bool.eq_false_iff.mpr passed))
      | none => exact moves_modifyOp _ _ fun _ => rfl
    · exact moves_eraseOp _ _

theorem moves_doHandshake {setup : ErrorCode} (next : String)
    (tracked : Tracked (some (id, socket)) s) : Moves s (s.doHandshake id setup next) := by
  rw [doHandshake]
  split
  · exact .refl s
  · simp only
    apply Moves.trans _ (moves_doAccept _ _)
    split
    · rename_i failed
      exact moves_onHandshake next tracked
        (fun passed => absurd (failed.symm.trans passed) (by rintro ⟨⟩))
    · exact .of_places rfl rfl rfl rfl rfl fun _ => le_refl _

/-! ## Steps and runs -/

/-- The operation that held a socket is over. -/
theorem moves_dropAccept (accepts : List NextAccept) (one : s.nextAccepts = [accept])
    (none : ∀ socket, accepts.countP (NextAccept.Holds socket) = 0) :
    Moves s { s with nextAccepts := accepts } := by
  refine .of_places rfl rfl rfl rfl rfl ?_
  intro socket
  show s.upstreamOps.countP _ + accepts.countP _ + s.invoked.countP _ ≤ places socket s
  rw [none socket, places, one]
  omega

/-- The accepted socket moves from the operation to the entry, or is lost with an entry
that was erased. -/
theorem moves_store {endpoint : String} (distinct : (s.upstreamOps.map (·.id)).Nodup)
    (one : s.nextAccepts = [⟨id, .accepted socket endpoint⟩]) :
    Moves s { s.store id socket endpoint with nextAccepts := [⟨id, .posted cause⟩] } := by
  have away : ∀ other, [(⟨id, .posted cause⟩ : NextAccept)].countP (NextAccept.Holds other) = 0 :=
    fun _ => rfl
  rw [store]
  split
  · rename_i owned
    obtain ⟨entry, present, named⟩ := any_eq_true.mp owned
    obtain rfl : entry.id = id := of_decide_eq_true named
    refine .of_places rfl rfl rfl rfl rfl ?_
    intro other
    have before := (perm_eraseOp distinct present).countP_eq (·.peer = some other)
    have after := (perm_modifyOp (fun entry =>
      { entry with peer := some socket, endpoint := some endpoint }) distinct present).countP_eq
      (·.peer = some other)
    have held : [(⟨entry.id, .accepted socket endpoint⟩ : NextAccept)].countP
        (NextAccept.Holds other) = if socket = other then 1 else 0 := by
      rw [countP_singleton]
      simp only [NextAccept.Holds, decide_eq_true_eq]
    rw [countP_cons] at before after
    simp only [decide_eq_true_eq, Option.some.injEq] at after
    show (s.modifyOp _ _).upstreamOps.countP _ + [(⟨_, .posted cause⟩ : NextAccept)].countP _ +
      s.invoked.countP _ ≤ places other s
    rw [away, places, one, held]
    omega
  · exact (moves_dropAccept _ one away).trans
      (.of_places rfl rfl rfl rfl rfl fun _ => le_refl _)

theorem Ledger.asyncAccept (ledger : Ledger s) (kept : Kept s) (next : String) :
    Ledger (asyncAcceptInternal s.calls next { s with calls := s.calls + 1 }) := by
  -- The state in which the call is stored.
  have stored : s.downstreamOp = none →
      Ledger { s with calls := s.calls + 1, downstreamOp := some s.calls } := by
    intro free
    refine ⟨?_, ledger.separate, ledger.minted, ledger.delivered⟩
    have answered := ledger.answered
    rw [answers, free, Option.toList_none, append_nil] at answered
    show (s.invoked.map _ ++ [s.calls]).Perm (range (s.calls + 1))
    rw [range_succ]
    exact answered.append_right _
  obtain ⟨errorCode, failed, same⟩ | ⟨isOpen, free, ⟨entry, found, same⟩ | ⟨-, same⟩⟩ :=
    asyncAcceptInternal_cases s.calls next { s with calls := s.calls + 1 }
  · rw [same]
    have given : ∀ socket, (s.invoked ++ [(⟨s.calls, errorCode, none, none⟩ : Invocation)]).countP
        (·.peer = some socket) = s.invoked.countP (·.peer = some socket) := by
      intro socket
      rw [countP_append]
      rfl
    have placed : ∀ socket, places socket (invoke ⟨s.calls, errorCode, none, none⟩
        { s with calls := s.calls + 1 }) = places socket s := by
      intro socket
      show _ + _ + (s.invoked ++ [_]).countP _ = _
      rw [given]
      rfl
    constructor
    case answered =>
      show ((s.invoked ++ [_]).map _ ++ s.downstreamOp.toList).Perm (range (s.calls + 1))
      rw [range_succ, map_append, append_assoc]
      refine (List.Perm.append_left _ perm_append_comm).trans ?_
      rw [← append_assoc]
      exact ledger.answered.append_right _
    case separate =>
      intro socket
      rw [placed]
      exact ledger.separate socket
    case minted =>
      intro socket unborn
      rw [placed]
      exact ledger.minted socket unborn
    case delivered =>
      intro invocation mem
      obtain old | ⟨⟨⟩⟩ := (mem_append.mp mem).imp_right mem_singleton.mp
      · exact ledger.delivered invocation old
      · exact fun passed => absurd (failed.symm.trans passed) nofun
  · obtain ⟨tracked, -⟩ := kept.opened isOpen
    have present := mem_of_find?_eq_some found
    obtain ⟨socket, done, held⟩ := tracked.proven entry present (find?_some found)
    rw [same]
    have given := (stored free).move (moves_handOver .none tracked.distinct present
      rfl held done)
    have free : s.downstreamOp = none := free
    rw [← free] at given
    exact given
  · rw [same]
    exact (stored free).move (moves_doAccept _ _)

theorem Ledger.complete {index : Nat} {configured : ErrorCode} (ledger : Ledger s) (kept : Kept s)
    (current : s.nextAccepts[index]? = some accept)
    (completed : s.complete accept configured = some (cause, t)) :
    Ledger { t with nextAccepts := t.nextAccepts.set index ⟨accept.id, .posted cause⟩ } := by
  obtain ⟨one, rfl⟩ := eq_singleton_of_taken kept.single current
  obtain ⟨id, stage⟩ := accept
  have distinct : (s.upstreamOps.map (·.id)).Nodup := by
    obtain closed | isOpen := Bool.eq_false_or_eq_true s.closed
    · rw [(kept.ended closed).1]
      exact nodup_nil
    · exact (kept.opened isOpen).1.distinct
  obtain ⟨socket, endpoint, rfl, rfl, rfl⟩ | ⟨rfl, -⟩ := complete_cases completed
  · have accepts : (s.store id socket endpoint).nextAccepts = s.nextAccepts := by
      rw [store]
      split <;> rfl
    rw [accepts, one, set_cons_zero]
    exact ledger.move (moves_store distinct one)
  · rw [one, set_cons_zero]
    exact ledger.move (moves_dropAccept _ one fun _ => rfl)

theorem ledger_step {event : Event} (ledger : Ledger s) (kept : Kept s)
    (taken : s.step event = some t) : Ledger t := by
  cases event with
  | asyncAccept id =>
    obtain ⟨-, ⟨⟩⟩ := Option.ite_none_left_eq_some.mp taken
    exact ledger.asyncAccept kept id
  | close =>
    cases taken
    exact ledger.move (moves_onError s rfl)
  | accepted index endpoint =>
    rw [step] at taken
    split at taken
    · rename_i id current
      obtain ⟨-, ⟨⟩⟩ := Option.ite_none_left_eq_some.mp taken
      obtain ⟨one, rfl⟩ := eq_singleton_of_taken kept.single current
      rw [one, set_cons_zero]
      have placed : ∀ socket, places socket { s with
          sockets := s.sockets + 1
          nextAccepts := [⟨id, .accepted s.sockets endpoint⟩] } =
          places socket s + if s.sockets = socket then 1 else 0 := by
        intro socket
        have held : [(⟨id, .accepted s.sockets endpoint⟩ : NextAccept)].countP
            (NextAccept.Holds socket) = if s.sockets = socket then 1 else 0 := by
          rw [countP_singleton]
          simp only [NextAccept.Holds, decide_eq_true_eq]
        have waited : [(⟨id, .waiting⟩ : NextAccept)].countP (NextAccept.Holds socket) = 0 := rfl
        show s.upstreamOps.countP _ + [_].countP _ + s.invoked.countP _ = _
        rw [held, places, one, waited]
        omega
      refine ⟨ledger.answered, ?_, ?_, ledger.delivered⟩
      · intro socket
        rw [placed]
        have before := ledger.separate socket
        split
        · rename_i born
          have unborn := ledger.minted socket (le_of_eq born)
          omega
        · omega
      · intro socket unborn
        have unborn : s.sockets + 1 ≤ socket := unborn
        rw [placed, ledger.minted socket (by omega), if_neg (by omega)]
    · cases taken
  | acceptFailed index errorCode =>
    rw [step] at taken
    split at taken
    · rename_i id current
      obtain ⟨-, ⟨⟩⟩ := Option.ite_none_right_eq_some.mp taken
      obtain ⟨one, rfl⟩ := eq_singleton_of_taken kept.single current
      rw [one, set_cons_zero]
      exact ledger.move (moves_dropAccept _ one fun _ => rfl)
    · cases taken
  | complete index configured =>
    rw [step] at taken
    split at taken
    · rename_i accept current
      obtain ⟨⟨cause, after⟩, completed, ⟨⟩⟩ := Option.map_eq_some_iff.mp taken
      exact ledger.complete kept current completed
    · cases taken
  | onAccept index setup id =>
    rw [step] at taken
    split at taken
    · rename_i accepted cause current
      obtain ⟨-, ⟨⟩⟩ := Option.ite_none_left_eq_some.mp taken
      obtain ⟨one, rfl⟩ := eq_singleton_of_taken kept.single current
      have dropped := ledger.move (moves_dropAccept [] one fun _ => rfl)
      rw [one, eraseIdx_cons_zero]
      obtain closed | isOpen := Bool.eq_false_or_eq_true s.closed
      · rw [onAccept, if_pos closed]
        exact dropped
      · rw [onAccept, if_neg (by rw [isOpen]; exact Bool.false_ne_true)]
        have idle : Ledger { s with nextAccepts := [], ongoingAcceptOp := false } :=
          dropped.move (.of_places rfl rfl rfl rfl rfl fun _ => le_refl _)
        obtain failed | passed := Bool.eq_false_or_eq_true cause.failed
        · rw [if_pos failed]
          exact idle.move (moves_onError _ failed)
        · obtain ⟨socket, loose⟩ := (kept.opened isOpen).1.takeAccept one passed
          rw [if_neg (by rw [passed]; exact Bool.false_ne_true)]
          exact idle.move (moves_doHandshake id loose)
    · cases taken
  | onHandshake index errorCode id =>
    rw [step] at taken
    split at taken
    · rename_i handshake current
      obtain ⟨-, ⟨⟩⟩ := Option.ite_none_left_eq_some.mp taken
      have grown : ∀ socket ∈ s.handshaken, socket ∈ if errorCode.failed then s.handshaken
          else s.handshaken ++ [handshake.socket] := by
        intro socket mem
        split
        · exact mem
        · exact mem_append_left _ mem
      have ended : Moves s { s with
          handshakes := s.handshakes.eraseIdx index
          handshaken := if errorCode.failed then s.handshaken
            else s.handshaken ++ [handshake.socket] } :=
        ⟨.refl _, rfl, fun _ => le_refl _, rfl, fun _ mem => .inl mem, grown⟩
      obtain closed | isOpen := Bool.eq_false_or_eq_true s.closed
      · rw [Acceptor.onHandshake, if_pos closed]
        exact ledger.move ended
      · refine ledger.move (ended.trans
          (moves_onHandshake id ((kept.opened isOpen).1.takeHandshake current grown) ?_))
        intro passed
        rw [passed]
        exact mem_append_right _ (mem_singleton_self _)
    · cases taken

theorem ledger_of_run {maxOngoingUpstreamOps : Option Nat}
    (run : Reaches step { maxOngoingUpstreamOps } s) : Kept s ∧ Ledger s := by
  refine run.invariant (p := fun s => Kept s ∧ Ledger s) ?_ ?_
  · exact ⟨kept_of_run maxOngoingUpstreamOps .refl, .refl _, fun _ => zero_le 1, fun _ _ => rfl,
      fun _ mem => absurd mem not_mem_nil⟩
  · intro _ _ _ ⟨kept, ledger⟩ _ taken
    exact ⟨kept_step kept taken, ledger_step ledger kept taken⟩

/-- The number of times the handler of a call was invoked. -/
def invocations (op : Nat) (s : Acceptor) : Nat := s.invoked.countP (·.op = op)

theorem invocations_add (ledger : Ledger s) (op : Nat) :
    s.invocations op + s.downstreamOp.toList.count op = if op < s.calls then 1 else 0 := by
  have counted := ledger.answered.count_eq op
  rw [answers, count_append] at counted
  have mapped : (s.invoked.map (·.op)).count op = s.invocations op := by
    rw [List.count, countP_map, invocations]
    congr 1
  rw [mapped] at counted
  rw [counted]
  split
  · rename_i called
    exact count_eq_one_of_mem nodup_range (mem_range.mpr called)
  · rename_i uncalled
    exact count_eq_zero_of_not_mem fun mem => uncalled (mem_range.mp mem)

/-- **The rendezvous.** In every state that the acceptor reaches a handler was invoked at
most once, and after `close` exactly once for every call; an invocation without an error
hands over a socket whose handshake completed, and no socket is handed over twice; no call
waits while a connection does; at most one accept of the next layer is in flight; the
bound is kept; and a call that waits in an open acceptor is served by an accept of the next
layer, or all the entries the bound admits are handshaking. -/
theorem rendezvous (maxOngoingUpstreamOps : Option Nat) (s : Acceptor)
    (run : Reaches step { maxOngoingUpstreamOps } s) :
    (∀ op, s.invocations op ≤ 1) ∧
    (s.closed = true → ∀ op < s.calls, s.invocations op = 1) ∧
    (∀ invocation ∈ s.invoked, invocation.errorCode.failed = false →
      ∃ socket ∈ s.handshaken, invocation.peer = some socket) ∧
    (∀ socket, s.invoked.countP (·.peer = some socket) ≤ 1) ∧
    (s.downstreamOp.isSome = true → ∀ entry ∈ s.upstreamOps, entry.connected = false) ∧
    s.nextAccepts.length ≤ 1 ∧
    (s.limit ≠ 0 → s.upstreamOps.length ≤ s.limit) ∧
    (s.closed = false → s.downstreamOp.isSome = true → s.nextAccepts ≠ [] ∨
      (s.limit ≠ 0 ∧ s.upstreamOps.length = s.limit ∧
        ∀ entry ∈ s.upstreamOps, ∃ handshake ∈ s.handshakes, handshake.id = entry.id)) := by
  obtain ⟨kept, ledger⟩ := ledger_of_run run
  refine ⟨?_, ?_, ledger.delivered, ?_, ?_, kept.single, ?_, ?_⟩
  · intro op
    have counted := invocations_add ledger op
    split at counted <;> omega
  · intro closed op called
    have counted := invocations_add ledger op
    rw [(kept.ended closed).2, if_pos called] at counted
    exact counted
  · intro socket
    have once := ledger.separate socket
    rw [places] at once
    omega
  · intro stored
    obtain closed | isOpen := Bool.eq_false_or_eq_true s.closed
    · rw [(kept.ended closed).2] at stored
      cases stored
    · exact (kept.opened isOpen).1.paired stored
  · intro limited
    obtain closed | isOpen := Bool.eq_false_or_eq_true s.closed
    · rw [(kept.ended closed).1]
      exact zero_le _
    · exact (kept.opened isOpen).1.within limited
  · intro isOpen stored
    obtain ⟨tracked, fed⟩ := kept.opened isOpen
    by_cases waiting : s.nextAccepts = []
    · right
      obtain some | ⟨limited, full⟩ := fed stored
      · exact absurd waiting some
      · refine ⟨limited, le_antisymm (tracked.within limited) full, ?_⟩
        intro entry mem
        obtain connected | ⟨accept, memAccept, -⟩ | handshake | ⟨_, named⟩ :=
          tracked.covered entry mem
        · rw [tracked.paired stored entry mem] at connected
          cases connected
        · rw [waiting] at memAccept
          exact absurd memAccept not_mem_nil
        · exact handshake
        · cases named
    · exact .inl waiting

/-- Two calls, of which one is served, with a failed handshake in between, and a close. -/
def serveThenClose : List Event :=
  [.asyncAccept "a", .accepted 0 "first", .complete 0 .none, .onAccept 0 .none "b",
    .onHandshake 0 .operationAborted "c", .accepted 0 "second", .complete 0 .none,
    .onAccept 0 .none "d", .onHandshake 0 .none "e", .asyncAccept "f", .close]

theorem rendezvous_serveThenClose :
    ((exec step {} serveThenClose).getD {}).calls = 2 ∧
      ∀ op < 2, invocations op ((exec step {} serveThenClose).getD {}) = 1 := by
  refine ⟨by decide, ?_⟩
  exact (rendezvous none _ (Reaches.of_exec_getD serveThenClose (by decide))).2.1 (by decide)

end Rstream.Io.Ssl.Acceptor
