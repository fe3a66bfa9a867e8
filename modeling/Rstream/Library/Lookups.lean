import Mathlib.Data.List.Forall2
import Std.Data.TreeMap

/-!
# Lookups in ordered maps with lawful keys, and in lists that correspond

The standard library states what a lookup finds after `erase`, `insertIfNew` and
`modify` in terms of the comparison function of the map. When the comparison
decides equality of keys these become case distinctions on equality of keys,
which is the form that proofs about tables keyed by names use.

A search through one of two lists whose entries correspond one by one finds the
counterpart of what the search through the other finds.
-/

namespace Rstream.Library

open Std

universe u v w

variable {κ : Type u} {β : Type v} {cmp : κ → κ → Ordering} [TransCmp cmp] [LawfulEqCmp cmp]
  [DecidableEq κ]

theorem getElem?_erase (map : TreeMap κ β cmp) (key other : κ) :
    (map.erase key)[other]? = if key = other then none else map[other]? := by
  rw [TreeMap.getElem?_erase]
  simp only [LawfulEqCmp.compare_eq_iff_eq]

theorem getElem?_modify (map : TreeMap κ β cmp) (key other : κ) (change : β → β) :
    (map.modify key change)[other]? =
      if key = other then map[other]?.map change else map[other]? := by
  rw [TreeMap.getElem?_modify]
  simp only [LawfulEqCmp.compare_eq_iff_eq]
  by_cases same : key = other
  · rw [if_pos same, if_pos same, same]
  · rw [if_neg same, if_neg same]

theorem getElem?_insertIfNew (map : TreeMap κ β cmp) (key other : κ) (value : β) :
    (map.insertIfNew key value)[other]? =
      if key = other then some (map[other]?.getD value) else map[other]? := by
  rw [TreeMap.getElem?_insertIfNew]
  simp only [LawfulEqCmp.compare_eq_iff_eq]
  by_cases same : key = other
  · subst same
    rw [if_pos rfl]
    by_cases present : key ∈ map
    · rw [if_neg (fun absent => absent.2 present), TreeMap.getElem?_eq_some_getElem present]
      rfl
    · rw [if_pos ⟨rfl, present⟩, TreeMap.getElem?_eq_none present]
      rfl
  · rw [if_neg same, if_neg (fun both => same both.1)]

/-! ## Sweeping a map

A loop over the entries of a map whose body erases the entry it visits. The map is
part of a larger state, seen through `view`. -/

section Sweep

variable {σ : Type w} (view : σ → TreeMap κ β cmp) (body : σ → κ × β → σ)

omit [TransCmp cmp] [LawfulEqCmp cmp] in
theorem getElem?_foldl_erase
    (erases : ∀ s entry key, (view (body s entry))[key]? =
      if entry.1 = key then none else (view s)[key]?)
    (entries : List (κ × β)) (s : σ) (key : κ) :
    (view (entries.foldl body s))[key]? =
      if key ∈ entries.map Prod.fst then none else (view s)[key]? := by
  induction entries generalizing s with
  | nil => rfl
  | cons entry entries ih =>
    rw [List.foldl_cons, ih, erases, List.map_cons]
    by_cases later : key ∈ entries.map Prod.fst
    · rw [if_pos later, if_pos (List.mem_cons_of_mem _ later)]
    · rw [if_neg later]
      by_cases here : entry.1 = key
      · rw [if_pos here, if_pos (by rw [here]; exact List.mem_cons_self)]
      · rw [if_neg here, if_neg (by
          rw [List.mem_cons]
          exact fun either => either.elim (fun same => here same.symm) later)]

/-- A loop over all entries empties the map. -/
theorem getElem?_sweep
    (erases : ∀ s entry key, (view (body s entry))[key]? =
      if entry.1 = key then none else (view s)[key]?)
    (s : σ) (key : κ) : (view ((view s).toList.foldl body s))[key]? = none := by
  rw [getElem?_foldl_erase view body erases]
  cases found : (view s)[key]? with
  | none => rw [ite_self]
  | some value =>
    have mem : (key, value) ∈ (view s).toList :=
      TreeMap.mem_toList_iff_getElem?_eq_some.mpr found
    rw [if_pos (List.mem_map_of_mem mem)]

end Sweep

/-! ## Lists that correspond -/

theorem find?_of_forall₂ {α : Type u} {γ : Type v} {related : α → γ → Prop} {p : α → Bool}
    {q : γ → Bool} {first : List α} {second : List γ} (all : List.Forall₂ related first second)
    (agree : ∀ x y, related x y → p x = q y) {x : α} (found : first.find? p = some x) :
    ∃ y, second.find? q = some y ∧ related x y ∧ (x, y) ∈ first.zip second := by
  induction all with
  | nil => cases found
  | @cons entry other entries others here _ ih =>
    by_cases matched : p entry = true
    · rw [List.find?_cons_of_pos matched] at found
      cases found
      refine ⟨other, ?_, here, List.mem_cons_self⟩
      rw [List.find?_cons_of_pos (by rw [← agree x other here, matched])]
    · rw [List.find?_cons_of_neg matched] at found
      obtain ⟨y, foundHere, relatedHere, mem⟩ := ih found
      refine ⟨y, ?_, relatedHere, List.mem_cons_of_mem _ mem⟩
      rw [List.find?_cons_of_neg (by rw [← agree entry other here]; exact matched), foundHere]

/-! ## Lists of entries with keys -/

theorem filter_eq_singleton {α : Type u} {γ : Type v} [DecidableEq α] {entries : List (α × γ)}
    (distinct : (entries.map Prod.fst).Nodup) {key : α} {value : γ} (mem : (key, value) ∈ entries) :
    entries.filter (fun entry => decide (entry.1 = key)) = [(key, value)] := by
  induction entries with
  | nil => cases mem
  | cons entry entries ih =>
    obtain ⟨absent, later⟩ := List.nodup_cons.mp distinct
    rcases List.mem_cons.mp mem with same | mem
    · have none : entries.filter (fun entry => decide (entry.1 = key)) = [] := by
        refine List.filter_eq_nil_iff.mpr fun other here => ?_
        rw [decide_eq_true_iff]
        intro isKey
        rw [← same] at absent
        exact absent (List.mem_map.mpr ⟨other, here, isKey⟩)
      rw [← same, List.filter_cons_of_pos (by rw [decide_eq_true_iff]), none]
    · have apart : entry.1 ≠ key := by
        intro isKey
        exact absent (List.mem_map.mpr ⟨_, mem, isKey.symm⟩)
      rw [List.filter_cons_of_neg (by rw [decide_eq_true_iff]; exact apart), ih later mem]

end Rstream.Library
