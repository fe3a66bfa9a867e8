import Mathlib.Data.List.Basic

/-!
# Texts with separators

A text is cut at the first separator, or split at every separator. Both are inverse to writing the
pieces with the separator between them, for pieces that do not contain it. Every text has such
pieces. Reading lines is splitting, but for a separator at the end (`getlines_of_last`).
-/

namespace Rstream.Library

universe u

variable {α : Type u} [DecidableEq α] {sep : α}

/-- A text before and after the first separator; without a separator there is no rest. -/
def cut (sep : α) : List α → List α × Option (List α)
  | [] => ([], none)
  | char :: text =>
    if char = sep then ([], some text)
    else (char :: (cut sep text).1, (cut sep text).2)

theorem cut_nil : cut sep [] = ([], none) := rfl

theorem cut_cons (char : α) (text : List α) : cut sep (char :: text) =
    if char = sep then ([], some text) else (char :: (cut sep text).1, (cut sep text).2) := rfl

/-- A text and, if there is one, the rest after a separator. -/
def paste (sep : α) (before : List α) (rest : Option (List α)) : List α :=
  before ++ rest.elim [] (sep :: ·)

/-- The text before the first separator does not contain it. -/
theorem notMem_cut (text : List α) : sep ∉ (cut sep text).1 := by
  induction text with
  | nil => exact List.not_mem_nil
  | cons char text ih =>
    rw [cut_cons]
    split
    · exact List.not_mem_nil
    · rename_i other
      rintro (_ | ⟨_, mem⟩)
      · exact other rfl
      · exact ih mem

/-- Every text is what it is cut into. -/
theorem paste_cut (text : List α) : paste sep (cut sep text).1 (cut sep text).2 = text := by
  induction text with
  | nil => rfl
  | cons char text ih =>
    rw [cut_cons]
    split
    · rename_i same
      rw [same]
      rfl
    · exact congrArg (char :: ·) ih

theorem cut_append {before : List α} (absent : sep ∉ before) (text : List α) :
    cut sep (before ++ text) = (before ++ (cut sep text).1, (cut sep text).2) := by
  induction before with
  | nil => rfl
  | cons char before ih =>
    obtain ⟨other, absent⟩ := not_or.mp (List.mem_cons.not.mp absent)
    rw [List.cons_append, cut_cons, if_neg (Ne.symm other), ih absent]
    rfl

variable {text : List α} {char : α}

theorem cut_of_notMem (absent : sep ∉ text) : cut sep text = (text, none) := by
  have cutAll := cut_append absent []
  rwa [List.append_nil, cut_nil, List.append_nil] at cutAll

/-- What follows the first separator is cut off with it. -/
theorem cut_append_of_mem (mem : sep ∈ text) (more : List α) :
    cut sep (text ++ more) = ((cut sep text).1, (cut sep text).2.map (· ++ more)) := by
  induction text with
  | nil => cases mem
  | cons char text ih =>
    rw [List.cons_append, cut_cons, cut_cons]
    split
    · rfl
    · rename_i other
      rw [ih ((List.mem_cons.mp mem).resolve_left (Ne.symm other))]

/-- **What is pasted is cut again.** -/
theorem cut_paste {before : List α} (absent : sep ∉ before) (rest : Option (List α)) :
    cut sep (paste sep before rest) = (before, rest) := by
  rw [paste, cut_append absent]
  cases rest with
  | none => exact congrArg (·, none) (List.append_nil before)
  | some rest =>
    have first : cut sep (sep :: rest) = ([], some rest) := by rw [cut_cons, if_pos rfl]
    rw [Option.elim_some, first, List.append_nil]

/-- A character of a piece is one of the text. -/
theorem mem_of_mem_cut (mem : char ∈ (cut sep text).1) : char ∈ text := by
  rw [← @paste_cut _ _ sep text]
  exact List.mem_append_left _ mem

theorem mem_of_mem_rest {rest : List α} (found : (cut sep text).2 = some rest) (mem : char ∈ rest) :
    char ∈ text := by
  rw [← @paste_cut _ _ sep text, found]
  exact List.mem_append_right _ (List.mem_cons_of_mem _ mem)

/-- The pieces of a split do not contain the separator, and no character that the text does not
contain. -/
theorem mem_of_mem_splitOn {piece : List α} (mem : piece ∈ text.splitOn sep) (within : char ∈ piece)
    : char ≠ sep ∧ char ∈ text := by
  induction text generalizing piece with
  | nil =>
    rw [List.splitOn_nil, List.mem_singleton] at mem
    rw [mem] at within
    contradiction
  | cons head text ih =>
    rw [List.splitOn_cons_eq_if_modifyHead] at mem
    split at mem
    · rcases List.mem_cons.mp mem with rfl | later
      · contradiction
      · exact ⟨(ih later within).1, List.mem_cons_of_mem _ (ih later within).2⟩
    · rename_i other
      obtain ⟨first, rest, pieces⟩ := List.exists_cons_of_ne_nil (List.splitOn_ne_nil sep text)
      rw [pieces, List.modifyHead_cons] at mem
      rcases List.mem_cons.mp mem with rfl | later
      · rcases List.mem_cons.mp within with rfl | within
        · exact ⟨fun same => other (beq_iff_eq.mpr same), List.mem_cons_self⟩
        · have found := ih (pieces ▸ List.mem_cons_self) within
          exact ⟨found.1, List.mem_cons_of_mem _ found.2⟩
      · have found := ih (pieces ▸ List.mem_cons_of_mem _ later) within
        exact ⟨found.1, List.mem_cons_of_mem _ found.2⟩

omit [DecidableEq α] in
theorem notMem_intercalate (other : char ≠ sep) {pieces : List (List α)}
    (absent : ∀ piece ∈ pieces, char ∉ piece) : char ∉ [sep].intercalate pieces := by
  induction pieces with
  | nil => exact List.not_mem_nil
  | cons piece pieces ih =>
    have first := absent piece List.mem_cons_self
    have rest := ih fun later mem => absent later (List.mem_cons_of_mem _ mem)
    by_cases last : pieces = []
    · rwa [last, List.intercalate_singleton]
    · rw [List.intercalate_cons_of_ne_nil last]
      simp [first, other, rest]

omit [DecidableEq α] in
theorem intercalate_cons (piece : List α) (pieces : List (List α)) :
    [sep].intercalate (piece :: pieces) = piece ++ pieces.flatMap (sep :: ·) := by
  induction pieces generalizing piece with
  | nil => simp
  | cons next pieces ih =>
    rw [List.intercalate_cons_of_ne_nil (List.cons_ne_nil next pieces), ih, List.flatMap_cons]
    simp only [List.append_assoc, List.cons_append, List.nil_append]

/-! ## Lines -/

/-- The pieces that `std::getline` reads: a last one that is empty is none. -/
def getlines (sep : α) (text : List α) : List (List α) :=
  let pieces := text.splitOn sep
  if pieces.getLast? = some [] then pieces.dropLast else pieces

/-- A text that ends with a piece is split. -/
theorem getlines_of_last (last : (text.splitOn sep).getLast? ≠ some []) :
    getlines sep text = text.splitOn sep := if_neg last

/-- The last piece of a text is empty only when the text is or ends with the separator. -/
theorem getLast?_splitOn (some_ : text ≠ []) (ends : text.getLast? ≠ some sep) :
    (text.splitOn sep).getLast? ≠ some [] := by
  intro last
  obtain ⟨init, pieces⟩ := List.getLast?_eq_some_iff.mp last
  have joined : [sep].intercalate (text.splitOn sep) = text := List.intercalate_splitOn sep
  rw [pieces] at joined
  cases init with
  | nil => exact some_ joined.symm
  | cons first init =>
    rw [List.cons_append, intercalate_cons, List.flatMap_append] at joined
    refine ends (joined ▸ ?_)
    simp

end Rstream.Library
