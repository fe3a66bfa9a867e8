import Mathlib.Data.List.Perm.Basic

/-!
# Counting in a list from which positions are taken

A pool of pending work is a list: work is appended when it starts and taken from
an arbitrary position when it runs. Invariants count the work of a kind, so they
need the count before and after the removal of a known entry.
-/

namespace Rstream.Library

universe u

variable {α : Type u} {pool : List α} {index : Nat} {entry : α}

theorem mem_of_taken (taken : pool[index]? = some entry) : entry ∈ pool :=
  List.mem_of_getElem? taken

/-- The taken entry and what remains. -/
theorem perm_of_taken (taken : pool[index]? = some entry) :
    (entry :: pool.eraseIdx index).Perm pool := by
  obtain ⟨bound, here⟩ := List.getElem?_eq_some_iff.mp taken
  rw [← here]
  exact List.getElem_cons_eraseIdx_perm bound

theorem eq_singleton_of_taken (single : pool.length ≤ 1) (taken : pool[index]? = some entry) :
    pool = [entry] ∧ index = 0 := by
  obtain ⟨bound, here⟩ := List.getElem?_eq_some_iff.mp taken
  match pool, single with
  | [only], _ =>
    have first : index = 0 := by simpa using bound
    subst first
    exact ⟨by rw [← here]; rfl, rfl⟩

/-- Exchanging an entry is taking it and putting another in its place. -/
theorem perm_set_of_taken (taken : pool[index]? = some entry) (other : α) :
    (other :: pool.eraseIdx index).Perm (pool.set index other) := by
  obtain ⟨bound, -⟩ := List.getElem?_eq_some_iff.mp taken
  have exchanged : (pool.set index other)[index]? = some other := List.getElem?_set_self bound
  have same : (pool.set index other).eraseIdx index = pool.eraseIdx index := List.eraseIdx_set_eq
  rw [← same]
  exact perm_of_taken exchanged

variable {kind : α → Bool} {other : α}

section

variable (taken : pool[index]? = some entry)

include taken

/-- An entry exchanged for one of the same kind does not change the count. -/
theorem countP_set_of_taken (same : kind other = kind entry) :
    (pool.set index other).countP kind = pool.countP kind := by
  rw [← (perm_set_of_taken taken other).countP_eq, ← (perm_of_taken taken).countP_eq,
    List.countP_cons, List.countP_cons, same]

/-- Taking an entry leaves the others. -/
theorem mem_eraseIdx_of_ne (apart : other ≠ entry)
    (mem : other ∈ pool) : other ∈ pool.eraseIdx index := by
  have either : other ∈ entry :: pool.eraseIdx index := (perm_of_taken taken).mem_iff.mpr mem
  exact (List.mem_cons.mp either).resolve_left apart

theorem countP_of_taken (kind : α → Bool) :
    pool.countP kind = (pool.eraseIdx index).countP kind + if kind entry then 1 else 0 := by
  rw [← (perm_of_taken taken).countP_eq, List.countP_cons]

theorem count_of_taken [DecidableEq α] [BEq α] [LawfulBEq α] (other : α) :
    pool.count other = (pool.eraseIdx index).count other + if entry = other then 1 else 0 := by
  rw [← (perm_of_taken taken).count_eq, List.count_cons]
  by_cases same : entry = other
  · rw [if_pos same, if_pos (beq_iff_eq.mpr same)]
  · rw [if_neg same, if_neg (mt beq_iff_eq.mp same)]

/-- Taking an entry of another kind does not change the entries of a kind. -/
theorem filter_of_taken (other : kind entry = false) :
    (pool.eraseIdx index).filter kind = pool.filter kind := by
  obtain ⟨bound, here⟩ := List.getElem?_eq_some_iff.mp taken
  calc (pool.eraseIdx index).filter kind
      = (pool.take index).filter kind ++ (pool.drop (index + 1)).filter kind := by
        rw [List.eraseIdx_eq_take_drop_succ, List.filter_append]
    _ = (pool.take index).filter kind ++ (pool.drop index).filter kind := by
        rw [List.drop_eq_getElem_cons bound, here, List.filter_cons_of_neg (by simp [other])]
    _ = pool.filter kind := by rw [← List.filter_append, List.take_append_drop]

/-- Exchanging an entry of another kind for one of another kind does not change the entries
of a kind. -/
theorem filter_set_of_taken {next : α}
    (other : kind entry = false) (nextOther : kind next = false) :
    (pool.set index next).filter kind = pool.filter kind := by
  obtain ⟨bound, -⟩ := List.getElem?_eq_some_iff.mp taken
  have exchanged : (pool.set index next)[index]? = some next := List.getElem?_set_self bound
  have same : (pool.set index next).eraseIdx index = pool.eraseIdx index := List.eraseIdx_set_eq
  rw [← filter_of_taken exchanged nextOther, same, filter_of_taken taken other]

/-- The entries of a kind that occurs at most once. -/
theorem filter_eq_singleton_of_taken
    (once : pool.countP kind ≤ 1) (counted : kind entry = true) : pool.filter kind = [entry] := by
  have mem : entry ∈ pool.filter kind := List.mem_filter.mpr ⟨mem_of_taken taken, counted⟩
  rw [List.countP_eq_length_filter] at once
  obtain ⟨position, here⟩ := List.mem_iff_getElem?.mp mem
  exact (eq_singleton_of_taken once here).1

end

/-- Of a kind that occurs at most once there is only one entry. -/
theorem eq_of_countP_le_one (once : pool.countP kind ≤ 1) (mem : entry ∈ pool)
    (counted : kind entry = true) (memOther : other ∈ pool) (countedOther : kind other = true) :
    entry = other := by
  rw [List.countP_eq_length_filter] at once
  have first : entry ∈ pool.filter kind := List.mem_filter.mpr ⟨mem, counted⟩
  have second : other ∈ pool.filter kind := List.mem_filter.mpr ⟨memOther, countedOther⟩
  generalize pool.filter kind = entries at once first second
  match entries with
  | [] => contradiction
  | [only] => rw [List.mem_singleton.mp first, List.mem_singleton.mp second]
  | _ :: _ :: _ => simp at once

/-- A kind of which no entry follows another occurs at most once. -/
theorem countP_le_one_of_pairwise
    (apart : pool.Pairwise fun earlier later => kind earlier = true → kind later = false) :
    pool.countP kind ≤ 1 := by
  induction pool with
  | nil => exact Nat.zero_le 1
  | cons first rest ih =>
    obtain ⟨here, later⟩ := List.pairwise_cons.mp apart
    rw [List.countP_cons]
    by_cases counted : kind first = true
    · have none : rest.countP kind = 0 :=
        List.countP_eq_zero.mpr fun entry mem => by rw [here entry mem counted]; nofun
      exact Nat.le_of_eq (by rw [none, if_pos counted])
    · rw [if_neg counted]
      exact ih later

end Rstream.Library
