import Rstream.Library.Separators
import Rstream.Webtty.AuthProof

/-!
# The command of an exec session

`split_command` cuts a command into arguments as a POSIX shell does: at white space outside of
quotes, with single quotes, double quotes and backslashes. Whether there is an argument is decided
by its text alone, so an argument that is empty is dropped, in quotes or not (`splitCommand_nonempty`).

Otherwise it undoes quoting. Arguments that are each put in single quotes or written behind
backslashes, and joined with spaces, are split into the same arguments, without the empty ones
(`splitCommand_joinQuoted`).
-/

namespace Rstream.Ncat

open List
open IoRstrm (ErrorCode)
open Webtty (Bytes bytesFromString isSpace)

/-! ## `split_command` -/

/-- The variables of the loop. -/
structure Splitter where
  args : List Bytes := []
  current : Bytes := []
  inSingle : Bool := false
  inDouble : Bool := false
  escape : Bool := false

/-- One character of the command. -/
def Splitter.step (splitter : Splitter) (ch : UInt8) : Splitter :=
  if splitter.escape then
    { splitter with current := splitter.current ++ [ch], escape := false }
  else if ch = 92 ∧ !splitter.inSingle then
    { splitter with escape := true }
  else if ch = 39 ∧ !splitter.inDouble then
    { splitter with inSingle := !splitter.inSingle }
  else if ch = 34 ∧ !splitter.inSingle then
    { splitter with inDouble := !splitter.inDouble }
  else if isSpace ch ∧ !splitter.inSingle ∧ !splitter.inDouble then
    if splitter.current = [] then splitter
    else { splitter with args := splitter.args ++ [splitter.current], current := [] }
  else { splitter with current := splitter.current ++ [ch] }

/-- The arguments after the last character. -/
def Splitter.finish (splitter : Splitter) : List Bytes :=
  if splitter.current = [] then splitter.args else splitter.args ++ [splitter.current]

def splitCommand (command : Bytes) : List Bytes :=
  (command.foldl Splitter.step {}).finish

/-- The command that `start_child` runs, with its arguments: that of the shell, or the one that was
split. -/
def childCommand (shell : Bool) (shellPath : Option Bytes) (cmd : Bytes) :
    Except ErrorCode (Bytes × List Bytes) :=
  if shell then
    .ok (shellPath.getD (bytesFromString "/bin/sh"), [bytesFromString "-c", cmd])
  else
    match splitCommand cmd with
    | [] => .error ⟨22, .other "generic"⟩
    | exe :: args => .ok (exe, args)

/-! ## Quoting -/

/-- How an argument is quoted. -/
inductive Quoting where
  /-- In single quotes, out of which each embedded one is taken. -/
  | single
  /-- Behind a backslash before each character. -/
  | backslash

/-- A character between single quotes. -/
def quoteChar (ch : UInt8) : Bytes := if ch = 39 then [39, 92, 39, 39] else [ch]

/-- An argument with its quotes. -/
def Quoting.quote : Quoting → Bytes → Bytes
  | .single, arg => 39 :: arg.flatMap quoteChar ++ [39]
  | .backslash, arg => arg.flatMap fun ch => [92, ch]

/-- Quoted arguments, with a space between any two. -/
def joinQuoted (words : List (Quoting × Bytes)) : Bytes :=
  [32].intercalate (words.map fun word => word.1.quote word.2)

/-! ## Arguments are not empty -/

/-- No argument that was found is empty. -/
def Splitter.Nonempty (splitter : Splitter) : Prop := ∀ arg ∈ splitter.args, arg ≠ []

theorem Splitter.Nonempty.push {splitter : Splitter} (nonempty : splitter.Nonempty) :
    ∀ arg ∈ splitter.finish, arg ≠ [] := by
  rw [Splitter.finish]
  split
  · exact nonempty
  · rename_i text
    intro arg mem
    rcases mem_append.mp mem with found | last
    · exact nonempty arg found
    · rwa [mem_singleton.mp last]

theorem Splitter.Nonempty.step {splitter : Splitter} (nonempty : splitter.Nonempty) (ch : UInt8) :
    (splitter.step ch).Nonempty := by
  rw [Splitter.step]
  split_ifs with escape backslash single double space blank
  · exact nonempty
  · exact nonempty
  · exact nonempty
  · exact nonempty
  · exact nonempty
  · have pushed := nonempty.push
    rwa [Splitter.finish, if_neg blank] at pushed
  · exact nonempty

theorem Splitter.Nonempty.foldl {splitter : Splitter} (nonempty : splitter.Nonempty)
    (command : Bytes) : (command.foldl Splitter.step splitter).Nonempty := by
  induction command generalizing splitter with
  | nil => exact nonempty
  | cons ch command ih => exact ih (nonempty.step ch)

/-- **No command has an empty argument.** -/
theorem splitCommand_nonempty (command : Bytes) : ∀ arg ∈ splitCommand command, arg ≠ [] :=
  have start : Splitter.Nonempty {} := fun _ mem => absurd mem not_mem_nil
  (start.foldl command).push

/-! ## Quotes -/

section Quotes

variable (args : List Bytes) (current : Bytes)

/-- Between single quotes every character is taken as it is. -/
theorem foldl_quoteChar (arg : Bytes) :
    (arg.flatMap quoteChar).foldl Splitter.step { args, current, inSingle := true } =
      { args, current := current ++ arg, inSingle := true } := by
  induction arg generalizing current with
  | nil => rw [flatMap_nil, foldl_nil, append_nil]
  | cons ch arg ih =>
    have taken : (quoteChar ch).foldl Splitter.step { args, current, inSingle := true } =
        { args, current := current ++ [ch], inSingle := true } := by
      rw [quoteChar]
      split
      · rename_i quote
        subst quote
        rfl
      · rename_i other
        simp [Splitter.step, other]
    rw [flatMap_cons, foldl_append, taken, ih, append_assoc, singleton_append]

/-- Behind backslashes every character is taken as it is. -/
theorem foldl_backslashes (arg : Bytes) :
    (arg.flatMap fun ch => [92, ch]).foldl Splitter.step { args, current } =
      { args, current := current ++ arg } := by
  induction arg generalizing current with
  | nil => rw [flatMap_nil, foldl_nil, append_nil]
  | cons ch arg ih =>
    have taken : [92, ch].foldl Splitter.step { args, current } =
        { args, current := current ++ [ch] } := rfl
    rw [flatMap_cons, foldl_append, taken, ih, append_assoc, singleton_append]

/-- **A quoted argument is added to the text before it.** -/
theorem foldl_quote (quoting : Quoting) (arg : Bytes) :
    (quoting.quote arg).foldl Splitter.step { args, current } =
      { args, current := current ++ arg } := by
  cases quoting with
  | single =>
    have opened : Splitter.step { args, current } 39 = { args, current, inSingle := true } := rfl
    rw [Quoting.quote, cons_append, foldl_cons, opened, foldl_append,
      foldl_quoteChar]
    rfl
  | backslash => exact foldl_backslashes args current arg

/-- A space ends an argument, unless it is empty. -/
theorem step_space :
    Splitter.step { args, current } 32 =
      { args := Splitter.finish { args, current } } := by
  rw [Splitter.finish]
  cases current with
  | nil | cons ch current => rfl

end Quotes

theorem finish_append (args : List Bytes) (current : Bytes) :
    Splitter.finish { args, current } = args ++ [current].filter (· ≠ []) := by
  rw [Splitter.finish]
  cases current with
  | nil | cons ch current => simp

/-- The words are added to the arguments before them, without those that are empty. -/
theorem finish_foldl_joinQuoted (args : List Bytes) (words : List (Quoting × Bytes)) :
    ((joinQuoted words).foldl Splitter.step { args }).finish =
      args ++ (words.map Prod.snd).filter (· ≠ []) := by
  induction words generalizing args with
  | nil => exact (append_nil args).symm
  | cons word words ih =>
    cases words with
    | nil =>
      rw [joinQuoted, map_singleton, intercalate_singleton, foldl_quote,
        nil_append, finish_append]
      rfl
    | cons second words =>
      have split : joinQuoted (word :: second :: words) =
          word.1.quote word.2 ++ 32 :: joinQuoted (second :: words) := by
        simp [joinQuoted, intercalate]
      rw [split, foldl_append, foldl_quote, foldl_cons, nil_append, step_space,
        ih, finish_append, append_assoc, ← filter_append]
      rfl

/-- **Splitting quoted arguments gives them back, but for the empty ones.** -/
theorem splitCommand_joinQuoted (words : List (Quoting × Bytes)) :
    splitCommand (joinQuoted words) = (words.map Prod.snd).filter (· ≠ []) :=
  finish_foldl_joinQuoted [] words

/-- **Splitting undoes quoting exactly when no argument is empty.** -/
theorem splitCommand_joinQuoted_iff (words : List (Quoting × Bytes)) :
    splitCommand (joinQuoted words) = words.map Prod.snd ↔ ∀ word ∈ words, word.2 ≠ [] := by
  rw [splitCommand_joinQuoted, filter_eq_self, forall_mem_map]
  simp only [decide_eq_true_eq]

theorem childCommand_joinQuoted (shellPath : Option Bytes) (exe : Quoting × Bytes)
    (words : List (Quoting × Bytes)) (named : ∀ word ∈ exe :: words, word.2 ≠ []) :
    childCommand false shellPath (joinQuoted (exe :: words)) =
      .ok (exe.2, words.map Prod.snd) := by
  have split := splitCommand_joinQuoted (exe :: words)
  rw [filter_eq_self.mpr] at split
  · rw [childCommand, if_neg Bool.false_ne_true, split, map_cons]
  · rw [forall_mem_map]
    exact fun word mem => decide_eq_true (named word mem)

/-- The empty argument of `printf ''` is dropped. -/
theorem splitCommand_emptyArgument :
    ¬∀ words : List (Quoting × Bytes),
      splitCommand (joinQuoted words) = words.map Prod.snd := by
  intro always
  exact absurd (always [(.single, bytesFromString "printf"), (.single, [])]) (by decide)

end Rstream.Ncat
