import Mathlib.Data.List.Basic
import Mathlib.Data.List.Infix
import Rstream.Library.Results

/-!
# Lists of elements that must agree

An element is added to a list unless one that it meets is there already, and then the two must
agree. When elements that meet and agree are equal, a fold of such additions has just the added
elements (`mem_foldlM_addAgreeing`), in the order in which they are first met; so a result with at
most one element does not depend on the order (`foldlM_addAgreeing_of_le_one`).
-/

namespace Rstream.Library

universe u v

variable {ε : Type v} {α : Type u}

/-- Adds an element, unless one that it meets is in the list; that one must agree with it. -/
def addAgreeing (meets agrees : α → α → Bool) (failure : ε) (list : List α) (next : α) :
    Except ε (List α) :=
  match list.find? fun existing => meets existing next with
  | none => .ok (list ++ [next])
  | some existing => if agrees existing next then .ok list else .error failure

variable {meets agrees : α → α → Bool} {failure : ε} {list elements result : List α}

theorem addAgreeing_eq_ok {next : α}
    (added : addAgreeing meets agrees failure list next = .ok result) :
    result = list ++ [next] ∨
      result = list ∧
        ∃ existing ∈ list, meets existing next = true ∧ agrees existing next = true := by
  unfold addAgreeing at added
  split at added
  · exact .inl (Except.ok.inj added).symm
  · rename_i existing found
    split at added
    · rename_i same
      exact .inr ⟨(Except.ok.inj added).symm, existing, List.mem_of_find?_eq_some found,
        List.find?_some (p := fun existing => meets existing next) found, same⟩
    · cases added

/-- An addition keeps what is there, at its place. -/
theorem isPrefix_addAgreeing {next : α}
    (added : addAgreeing meets agrees failure list next = .ok result) : list <+: result := by
  rcases addAgreeing_eq_ok added with rfl | ⟨rfl, -⟩
  · exact List.prefix_append list [next]
  · exact List.prefix_rfl

theorem head?_foldlM_addAgreeing {first : α} {rest : List α}
    (folded : (first :: rest).foldlM (addAgreeing meets agrees failure) [] = .ok result) :
    result.head? = some first := by
  rw [List.foldlM_cons] at folded
  have kept : [first] <+: result :=
    foldlM_induct (fun state => [first] <+: state) folded List.prefix_rfl
      fun state starts element _ next added => starts.trans (isPrefix_addAgreeing added)
  obtain ⟨others, rfl⟩ := kept
  rfl

/-- Elements with a property that meet and agree are equal. -/
def Identifies (property : α → Prop) (meets agrees : α → α → Bool) : Prop :=
  ∀ first second, property first → property second → meets first second = true →
    agrees first second = true → first = second

variable {property : α → Prop}

theorem mem_addAgreeing (equal : Identifies property meets agrees) {next : α}
    (all : ∀ element ∈ list, property element) (good : property next)
    (added : addAgreeing meets agrees failure list next = .ok result)
    (element : α) : element ∈ result ↔ element ∈ list ∨ element = next := by
  rcases addAgreeing_eq_ok added with rfl | ⟨rfl, existing, within, met, same⟩
  · rw [List.mem_append, List.mem_singleton]
  · obtain rfl := equal existing next (all existing within) good met same
    exact ⟨.inl, fun mem => mem.elim id fun same => same ▸ within⟩

/-- **The elements of a fold** are those of the list and those that are added. -/
theorem mem_foldlM_addAgreeing (equal : Identifies property meets agrees)
    (all : ∀ element ∈ list, property element)
    (good : ∀ element ∈ elements, property element)
    (folded : elements.foldlM (addAgreeing meets agrees failure) list = .ok result)
    (element : α) : element ∈ result ↔ element ∈ list ∨ element ∈ elements := by
  induction elements generalizing list with
  | nil =>
    cases folded
    exact ⟨.inl, fun mem => mem.elim id fun within => absurd within List.not_mem_nil⟩
  | cons first rest ih =>
    rw [List.foldlM_cons] at folded
    obtain ⟨next, added, more⟩ := bind_eq_ok.mp folded
    have mem := mem_addAgreeing equal all (good first List.mem_cons_self) added
    have goodNext : ∀ element ∈ next, property element := fun element within =>
      ((mem element).mp within).elim (all element) fun same =>
        same ▸ good first List.mem_cons_self
    have goodRest := (List.forall_mem_cons.mp good).2
    rw [ih goodNext goodRest more, mem, List.mem_cons, or_assoc]

/-- Additions of one and the same element change nothing after the first. -/
theorem foldlM_addAgreeing_const {only : α} (met : meets only only = true)
    (same : agrees only only = true) (all : ∀ element ∈ elements, element = only) :
    elements.foldlM (addAgreeing meets agrees failure) [only] = .ok [only] := by
  induction elements with
  | nil => rfl
  | cons first rest ih =>
    obtain rfl := all first List.mem_cons_self
    have added : addAgreeing meets agrees failure [first] first = .ok [first] := by
      simp [addAgreeing, met, same]
    rw [List.foldlM_cons, added, ok_bind]
    exact ih fun element within => all element (List.mem_cons_of_mem first within)

/-- A fold of one element, however often it is added, has it once. -/
theorem foldlM_addAgreeing_same {only : α} (met : meets only only = true)
    (same : agrees only only = true) (all : ∀ element ∈ elements, element = only)
    (nonempty : elements ≠ []) :
    elements.foldlM (addAgreeing meets agrees failure) [] = .ok [only] := by
  cases elements with
  | nil => exact absurd rfl nonempty
  | cons first rest =>
    obtain rfl := all first List.mem_cons_self
    rw [List.foldlM_cons]
    exact foldlM_addAgreeing_const met same fun element within =>
      all element (List.mem_cons_of_mem first within)

/-- **A fold with at most one element** is that of any list with the same elements. -/
theorem foldlM_addAgreeing_of_le_one {others : List α} (equal : Identifies property meets agrees)
    (met : ∀ element, meets element element = true)
    (same : ∀ element, agrees element element = true)
    (good : ∀ element ∈ elements, property element)
    (folded : elements.foldlM (addAgreeing meets agrees failure) [] = .ok result)
    (small : result.length ≤ 1) (mem : ∀ element, element ∈ others ↔ element ∈ elements) :
    others.foldlM (addAgreeing meets agrees failure) [] = .ok result := by
  have within (element : α) : element ∈ others ↔ element ∈ result := by
    have added := mem_foldlM_addAgreeing equal
      (fun _ absent => absurd absent List.not_mem_nil) good folded element
    rw [mem, added]
    simp
  match result with
  | [] =>
    cases others with
    | nil => rfl
    | cons first rest => exact absurd ((within first).mp List.mem_cons_self) List.not_mem_nil
  | [only] =>
    refine foldlM_addAgreeing_same (met only) (same only)
      (fun element mem => List.mem_singleton.mp ((within element).mp mem)) ?_
    rintro rfl
    exact absurd ((within only).mpr List.mem_cons_self) List.not_mem_nil
  | _ :: _ :: _ => exact absurd small (by simp)

end Rstream.Library
