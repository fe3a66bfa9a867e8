import Mathlib.Data.List.TakeWhile
import Mathlib.Data.Set.Operations

/-!
# Self-delimiting codes

A code is self-delimiting when the code of a value can be told from what follows it. Such codes can
be written one after the other: the sequence of the values is determined if its end is, either by a
symbol with which no code begins (`SelfDelimitingOn.flatMap_stop`) or by the end of the text
(`SelfDelimitingOn.flatMap_injOn`).
-/

namespace Rstream.Library

universe u v w

variable {α : Type u} {β : Type v} {γ : Type w}

/-- The codes of values of a domain can be told from what follows them. -/
def SelfDelimitingOn (domain : Set α) (code : α → List β) : Prop :=
  ∀ first ∈ domain, ∀ second ∈ domain, ∀ rest more : List β,
    code first ++ rest = code second ++ more → first = second ∧ rest = more

/-- The lists over a domain. -/
def listsOver (domain : Set α) : Set (List α) := {values | ∀ value ∈ values, value ∈ domain}

namespace SelfDelimitingOn

variable {domain : Set α} {code : α → List β}

section

variable (delimited : SelfDelimitingOn domain code)

include delimited

/-- What is written in front of every code does not matter. -/
theorem append_left (front : List β) :
    SelfDelimitingOn domain fun value => front ++ code value := by
  intro first mem second mem' rest more same
  simp only [List.append_assoc] at same
  exact delimited first mem second mem' rest more (List.append_cancel_left same)

/-- Two codes one after the other. -/
theorem prod {others : Set γ} {code' : γ → List β}
    (delimited' : SelfDelimitingOn others code') :
    SelfDelimitingOn (domain ×ˢ others) fun pair => code pair.1 ++ code' pair.2 := by
  rintro ⟨first, first'⟩ ⟨mem, mem'⟩ ⟨second, second'⟩ ⟨also, also'⟩ rest more same
  simp only [List.append_assoc] at same
  obtain ⟨rfl, inner⟩ := delimited first mem second also _ _ same
  obtain ⟨rfl, outer⟩ := delimited' first' mem' second' also' _ _ inner
  exact ⟨rfl, outer⟩

/-- A sequence that is ended by a symbol with which no code begins. -/
theorem flatMap_stop {stop : β}
    (inside : ∀ value ∈ domain, ∀ rest more, code value ++ rest ≠ stop :: more) :
    SelfDelimitingOn (listsOver domain) fun values => values.flatMap code ++ [stop] := by
  intro values
  induction values with
  | nil =>
    intro _ others mem' rest more same
    cases others with
    | nil => exact ⟨rfl, List.cons_inj_right stop |>.mp same⟩
    | cons value others =>
      simp only [List.flatMap_nil, List.nil_append, List.flatMap_cons, List.append_assoc,
        List.cons_append] at same
      exact absurd same.symm (inside value (mem' value List.mem_cons_self) _ _)
  | cons value values ih =>
    intro mem others mem' rest more same
    have known := mem value List.mem_cons_self
    cases others with
    | nil =>
      simp only [List.flatMap_nil, List.nil_append, List.flatMap_cons, List.append_assoc,
        List.cons_append] at same
      exact absurd same (inside value known _ _)
    | cons other others =>
      simp only [List.flatMap_cons, List.append_assoc] at same
      obtain ⟨rfl, later⟩ :=
        delimited value known other (mem' other List.mem_cons_self) _ _ same
      rw [← List.append_assoc, ← List.append_assoc] at later
      obtain ⟨rfl, ended⟩ := ih (fun value inner => mem value (List.mem_cons_of_mem _ inner))
        others (fun value inner => mem' value (List.mem_cons_of_mem _ inner)) rest more later
      exact ⟨rfl, ended⟩

/-- A sequence of nonempty codes that is ended by the end of the text. -/
theorem flatMap_injOn
    (nonempty : ∀ value ∈ domain, code value ≠ []) :
    Set.InjOn (fun values => values.flatMap code) (listsOver domain) := by
  intro values
  induction values with
  | nil =>
    intro _ others mem' same
    cases others with
    | nil => rfl
    | cons value others =>
      have empty := (List.append_eq_nil_iff.mp same.symm).1
      exact absurd empty (nonempty value (mem' value List.mem_cons_self))
  | cons value values ih =>
    intro mem others mem' same
    cases others with
    | nil =>
      have empty := (List.append_eq_nil_iff.mp same).1
      exact absurd empty (nonempty value (mem value List.mem_cons_self))
    | cons other others =>
      simp only [List.flatMap_cons] at same
      obtain ⟨rfl, later⟩ := delimited value (mem value List.mem_cons_self) other
        (mem' other List.mem_cons_self) _ _ same
      rw [ih (fun value inner => mem value (List.mem_cons_of_mem _ inner))
        (fun value inner => mem' value (List.mem_cons_of_mem _ inner)) later]

end

end SelfDelimitingOn

/-- Texts over some symbols are told from what follows, if that begins with another symbol. -/
theorem append_inj_of_head? {p : β → Bool} {first second rest more : List β}
    (all : ∀ char ∈ first, p char = true) (all' : ∀ char ∈ second, p char = true)
    (ends : ∀ char ∈ rest.head?, p char = false) (ends' : ∀ char ∈ more.head?, p char = false)
    (same : first ++ rest = second ++ more) : first = second ∧ rest = more := by
  have stops : ∀ text : List β, (∀ char ∈ text.head?, p char = false) →
      text.takeWhile p = [] := by
    intro text ends
    cases text with
    | nil => rfl
    | cons char text => rw [List.takeWhile_cons, ends char rfl, if_neg Bool.false_ne_true]
  have taken := congrArg (List.takeWhile p) same
  rw [List.takeWhile_append_of_pos all, List.takeWhile_append_of_pos all', stops rest ends,
    stops more ends', List.append_nil, List.append_nil] at taken
  exact ⟨taken, List.append_cancel_left (taken ▸ same)⟩

end Rstream.Library
