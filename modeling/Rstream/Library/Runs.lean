import Mathlib.Logic.Relation

/-!
# Runs of a partial step function

A system is a step function `σ → ε → Option σ`: an event is either refused in a
state or leads to exactly one next state. A run is a finite sequence of steps.
Some results hold only along runs all of whose steps meet a side condition on
the state before the step and the event, so a run carries that condition
(`Run step good`); the runs without a condition are the case `Any`.

`Run.invariant` is the induction principle every safety statement uses: what
holds at the start and is kept by a good step holds in every state reached.
`Run.of_exec` and `Reaches.of_exec` turn the execution of an explicit list of
events into a run.
-/

namespace Rstream.Library

universe u v

variable {σ : Type u} {ε : Type v}

/-- `Run step good s t`: from `s`, finitely many steps whose state and event are
`good` lead to `t`. -/
inductive Run (step : σ → ε → Option σ) (good : σ → ε → Prop) (start : σ) : σ → Prop where
  | refl : Run step good start start
  | tail {middle last : σ} {event : ε} : Run step good start middle → good middle event →
      step middle event = some last → Run step good start last

/-- The side condition that every step meets. -/
def Any (_ : σ) (_ : ε) : Prop := True

/-- The states reached by runs without a side condition. -/
abbrev Reaches (step : σ → ε → Option σ) (start last : σ) : Prop := Run step Any start last

namespace Run

variable {step : σ → ε → Option σ} {good better : σ → ε → Prop} {start middle last : σ}

/-- **The invariant rule.** A property of the start that every good step keeps
holds in every state of the run. -/
theorem invariant {p : σ → Prop} (run : Run step good start last)
    (initially : p start)
    (kept : ∀ s e t, p s → good s e → step s e = some t → p t) :
    p last := by
  induction run with
  | refl => exact initially
  | tail _ meets taken ih => exact kept _ _ _ ih meets taken

theorem trans (first : Run step good start middle) (second : Run step good middle last) :
    Run step good start last := by
  induction second with
  | refl => exact first
  | tail _ meets taken ih => exact .tail ih meets taken

/-- A weaker side condition admits more runs. -/
theorem mono (weaker : ∀ s e, better s e → good s e) (run : Run step better start last) :
    Run step good start last := by
  induction run with
  | refl => exact .refl
  | tail _ meets taken ih => exact .tail ih (weaker _ _ meets) taken

theorem reaches (run : Run step good start last) : Reaches step start last :=
  run.mono fun _ _ _ => trivial

end Run

/-- Execute a list of events, refusing as soon as one of them is refused. -/
def exec (step : σ → ε → Option σ) : σ → List ε → Option σ
  | s, [] => some s
  | s, event :: events => (step s event).bind fun t => exec step t events

/-- The side condition holds at every step of an execution. -/
def GoodAlong (step : σ → ε → Option σ) (good : σ → ε → Prop) : σ → List ε → Prop
  | _, [] => True
  | s, event :: events => good s event ∧
      match step s event with
      | none => True
      | some t => GoodAlong step good t events

instance GoodAlong.decidable (step : σ → ε → Option σ) (good : σ → ε → Prop)
    [∀ s event, Decidable (good s event)] :
    (s : σ) → (events : List ε) → Decidable (GoodAlong step good s events)
  | _, [] => isTrue trivial
  | s, event :: events =>
    match h : step s event with
    | none => decidable_of_iff (good s event) (by simp [GoodAlong, h])
    | some t =>
      have := GoodAlong.decidable step good t events
      decidable_of_iff (good s event ∧ GoodAlong step good t events) (by simp [GoodAlong, h])

/-- A side condition on the events alone holds along an execution if they all meet it. -/
theorem goodAlong_of_forall (step : σ → ε → Option σ) {good : σ → ε → Prop} {events : List ε}
    (meets : ∀ event ∈ events, ∀ s, good s event) (s : σ) : GoodAlong step good s events := by
  induction events generalizing s with
  | nil => trivial
  | cons event events ih =>
    refine ⟨meets event List.mem_cons_self s, ?_⟩
    cases step s event with
    | none => trivial
    | some t => exact ih (fun later mem => meets later (List.mem_cons_of_mem _ mem)) t

theorem goodAlong_any (step : σ → ε → Option σ) (s : σ) (events : List ε) :
    GoodAlong step Any s events :=
  goodAlong_of_forall step (fun _ _ _ => trivial) s

theorem Run.of_exec {step : σ → ε → Option σ} {good : σ → ε → Prop} {start last : σ}
    {events : List ε} (meets : GoodAlong step good start events)
    (executed : exec step start events = some last) : Run step good start last := by
  induction events generalizing start with
  | nil =>
    cases executed
    exact .refl
  | cons event events ih =>
    obtain ⟨middle, taken, rest⟩ := Option.bind_eq_some_iff.mp executed
    obtain ⟨here, later⟩ := meets
    rw [taken] at later
    exact (Run.refl.tail here taken).trans (ih later rest)

/-- An execution that is not refused is a run without a side condition. -/
theorem Reaches.of_exec {step : σ → ε → Option σ} {start : σ} {events : List ε}
    (executed : (exec step start events).isSome = true) :
    Reaches step start ((exec step start events).get executed) :=
  Run.of_exec (goodAlong_any step start events) (Option.some_get executed).symm

/-- The state at the end of an execution whose steps are good. -/
theorem Run.of_exec_getD {step : σ → ε → Option σ} {good : σ → ε → Prop} {start : σ}
    (events : List ε) (meets : GoodAlong step good start events)
    (executed : (exec step start events).isSome = true) :
    Run step good start ((exec step start events).getD start) := by
  obtain ⟨last, same⟩ := Option.isSome_iff_exists.mp executed
  rw [same]
  exact Run.of_exec meets same

/-- The state at the end of an execution. -/
theorem Reaches.of_exec_getD {step : σ → ε → Option σ} {start : σ} (events : List ε)
    (executed : (exec step start events).isSome = true) :
    Reaches step start ((exec step start events).getD start) :=
  Run.of_exec_getD events (goodAlong_any step start events) executed

end Rstream.Library
