import Mathlib.Logic.Relation

/-!
# Chains of labelled effects

A handler of a component is a composition of a few primitive changes of its state,
the effects. Each effect belongs to an area, and a chain is a finite sequence of
effects that all lie in given areas. What every effect of the areas keeps, a chain
keeps (`Chain.invariant`), so an invariant needs one case for each effect, whatever
the handler.
-/

namespace Rstream.Library

open Relation (ReflTransGen)

universe u v

variable {α : Type u} {σ : Type v} {effect : α → σ → σ → Prop} {areas more : List α} {s t r : σ}

/-- Finitely many effects, all in the given areas. -/
def Chain (effect : α → σ → σ → Prop) (areas : List α) : σ → σ → Prop :=
  ReflTransGen fun s t => ∃ area ∈ areas, effect area s t

namespace Chain

theorem refl : Chain effect areas s s := ReflTransGen.refl

theorem trans (first : Chain effect areas s t) (second : Chain effect areas t r) :
    Chain effect areas s r := ReflTransGen.trans first second

theorem mono (chain : Chain effect areas s t) (subset : areas ⊆ more) :
    Chain effect more s t := by
  induction chain with
  | refl => exact ReflTransGen.refl
  | tail _ last ih =>
    obtain ⟨area, mem, last⟩ := last
    exact ReflTransGen.tail ih ⟨area, subset mem, last⟩

/-- One effect, as a chain in any areas that include its own. -/
theorem single {area : α} (one : effect area s t) (mem : area ∈ areas) : Chain effect areas s t :=
  ReflTransGen.single ⟨area, mem, one⟩

/-- **The invariant rule.** What every effect of the areas keeps, a chain of them
keeps. -/
theorem invariant {p : σ → Prop} (chain : Chain effect areas s t)
    (kept : ∀ {area s t}, area ∈ areas → effect area s t → p s → p t)
    (initially : p s) : p t := by
  induction chain with
  | refl => exact initially
  | tail _ last ih =>
    obtain ⟨area, mem, last⟩ := last
    exact kept mem last ih

end Chain

end Rstream.Library
