import Mathlib.Logic.Basic

/-!
# Results of fallible computations

A computation in `Except` succeeds with a value only when each of its steps does;
these lemmas take such a computation apart, one step at a time.
-/

namespace Rstream.Library

universe u v

variable {ε : Type u} {α β : Type v}

theorem bind_eq_ok {first : Except ε α} {next : α → Except ε β} {result : β} :
    (first >>= next) = .ok result ↔ ∃ value, first = .ok value ∧ next value = .ok result := by
  constructor
  · intro succeeded
    cases first with
    | error failure => cases succeeded
    | ok value => exact ⟨value, rfl, succeeded⟩
  · rintro ⟨value, rfl, succeeded⟩
    exact succeeded

@[simp] theorem ok_bind (value : α) (next : α → Except ε β) :
    ((Except.ok value : Except ε α) >>= next) = next value := rfl

@[simp] theorem error_bind (failure : ε) (next : α → Except ε β) :
    ((Except.error failure : Except ε α) >>= next) = .error failure := rfl

theorem pure_eq_ok {value result : α} : (pure value : Except ε α) = .ok result ↔ value = result :=
  ⟨fun same => Except.ok.inj same, fun same => congrArg Except.ok same⟩

theorem ok_eq_ok {value result : α} :
    (Except.ok value : Except ε α) = .ok result ↔ result = value :=
  ⟨fun same => (Except.ok.inj same).symm, fun same => congrArg Except.ok same.symm⟩

theorem toOption_eq_some {attempt : Except ε α} {result : α} :
    attempt.toOption = some result ↔ attempt = .ok result := by
  cases attempt with
  | error failure => exact iff_of_false (fun found => nomatch found) fun found => nomatch found
  | ok value =>
    rw [Except.ok.injEq]
    exact Option.some_inj

/-- A condition without which a computation fails. -/
def require (condition : Prop) [Decidable condition] (failure : ε) : Except ε PUnit.{v + 1} :=
  if condition then .ok ⟨⟩ else .error failure

theorem require_eq_ok {condition : Prop} [Decidable condition] {failure : ε} {result : PUnit} :
    require condition failure = .ok result ↔ condition := by
  rw [require]
  split
  · rename_i holds
    exact ⟨fun _ => holds, fun _ => rfl⟩
  · rename_i fails
    exact ⟨(fun succeeded => nomatch succeeded), fun holds => absurd holds fails⟩

/-- A check of every element succeeds exactly when the check of each element does. -/
theorem forM_eq_ok {check : α → Except ε PUnit} {list : List α} :
    forM list check = .ok ⟨⟩ ↔ ∀ element ∈ list, check element = .ok ⟨⟩ := by
  induction list with
  | nil => exact ⟨fun _ _ mem => absurd mem List.not_mem_nil, fun _ => rfl⟩
  | cons first rest ih =>
    rw [List.forM_cons, bind_eq_ok, List.forall_mem_cons]
    constructor
    · rintro ⟨_, checked, more⟩
      exact ⟨checked, ih.mp more⟩
    · rintro ⟨checked, more⟩
      exact ⟨⟨⟩, checked, ih.mpr more⟩

/-- What each step of a fold preserves holds after the fold. -/
theorem foldlM_induct (property : β → Prop) {step : β → α → Except ε β} {list : List α}
    {start result : β} (folded : list.foldlM step start = .ok result) (holds : property start)
    (kept : ∀ state, property state → ∀ element ∈ list, ∀ next,
      step state element = .ok next → property next) : property result := by
  induction list generalizing start with
  | nil =>
    cases folded
    exact holds
  | cons first rest ih =>
    rw [List.foldlM_cons] at folded
    obtain ⟨next, stepped, more⟩ := bind_eq_ok.mp folded
    exact ih more (kept start holds first List.mem_cons_self next stepped)
      fun state held element mem => kept state held element (List.mem_cons_of_mem first mem)

end Rstream.Library
