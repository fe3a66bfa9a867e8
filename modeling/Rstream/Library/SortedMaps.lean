import Mathlib.Data.List.Sort

/-!
# Maps as sorted lists

The entries of an ordered map, in the order of their keys. A map is determined by its entries as a
set, so it does not depend on the order in which distinct keys were inserted
(`SortedMap.ofList_perm`).
-/

namespace Rstream.Library

universe u v

variable {κ : Type u} {β : Type v} [LT κ]

section Entries

variable [DecidableLT κ] [DecidableEq κ]

/-- Insertion into the entries; an entry with the same key is replaced. -/
def insertEntry (key : κ) (value : β) : List (κ × β) → List (κ × β)
  | [] => [(key, value)]
  | entry :: rest =>
    if key < entry.1 then (key, value) :: entry :: rest
    else if key = entry.1 then (key, value) :: rest
    else entry :: insertEntry key value rest

variable {entries : List (κ × β)}

theorem eq_or_mem_of_mem_insertEntry {key : κ} {value : β} {entry : κ × β}
    (mem : entry ∈ insertEntry key value entries) : entry = (key, value) ∨ entry ∈ entries := by
  induction entries with
  | nil => exact Or.inl (List.mem_singleton.mp mem)
  | cons first rest ih =>
    rw [insertEntry] at mem
    split at mem
    · exact List.mem_cons.mp mem
    split at mem
    · exact (List.mem_cons.mp mem).imp_right (List.mem_cons_of_mem _)
    · obtain same | mem := List.mem_cons.mp mem
      · exact Or.inr (same ▸ List.mem_cons_self)
      · exact (ih mem).imp_right (List.mem_cons_of_mem _)

variable [IsTrans κ (· < ·)] [@Std.Trichotomous κ (· < ·)]

/-- The entries stay in the order of their keys. -/
theorem pairwise_insertEntry (key : κ) (value : β)
    (sorted : entries.Pairwise fun first second => first.1 < second.1) :
    (insertEntry key value entries).Pairwise fun first second => first.1 < second.1 := by
  induction entries with
  | nil => exact List.pairwise_singleton _ _
  | cons first rest ih =>
    obtain ⟨above, below⟩ := List.pairwise_cons.mp sorted
    rw [insertEntry]
    split
    · rename_i less
      refine List.pairwise_cons.mpr ⟨?_, sorted⟩
      intro entry mem
      obtain rfl | mem := List.mem_cons.mp mem
      · exact less
      · exact IsTrans.trans _ _ _ less (above entry mem)
    split
    · rename_i same
      exact List.pairwise_cons.mpr ⟨fun entry mem => same ▸ above entry mem, below⟩
    · rename_i notLess other
      refine List.pairwise_cons.mpr ⟨?_, ih below⟩
      intro entry mem
      obtain rfl | mem := eq_or_mem_of_mem_insertEntry mem
      · by_contra notGreater
        exact other (Std.Trichotomous.trichotomous _ _ notLess notGreater)
      · exact above entry mem

variable [@Std.Irrefl κ (· < ·)]

omit [@Std.Trichotomous κ (· < ·)] in
/-- The entries after an insertion. -/
theorem mem_insertEntry {key : κ} {value : β} {entry : κ × β}
    (sorted : entries.Pairwise fun first second => first.1 < second.1) :
    entry ∈ insertEntry key value entries ↔
      entry = (key, value) ∨ entry ∈ entries ∧ entry.1 ≠ key := by
  have past {lower : κ} {entry : κ × β} (less : lower < entry.1) : entry.1 ≠ lower := by
    intro same
    rw [same] at less
    exact Std.Irrefl.irrefl lower less
  induction entries with
  | nil => simp [insertEntry]
  | cons first rest ih =>
    obtain ⟨above, below⟩ := List.pairwise_cons.mp sorted
    rw [insertEntry]
    split
    · rename_i less
      have later : ∀ entry ∈ first :: rest, entry.1 ≠ key := by
        intro entry mem
        obtain rfl | mem := List.mem_cons.mp mem
        · exact past less
        · exact past (IsTrans.trans _ _ _ less (above entry mem))
      rw [List.mem_cons]
      exact or_congr_right (iff_self_and.mpr (later entry))
    split
    · rename_i same
      have later : ∀ entry ∈ rest, entry.1 ≠ key := by
        intro entry mem
        exact past (same ▸ above entry mem)
      rw [List.mem_cons, List.mem_cons, or_and_right]
      refine or_congr_right ⟨fun mem => Or.inr ⟨mem, later entry mem⟩, ?_⟩
      rintro (⟨rfl, other⟩ | ⟨mem, -⟩)
      · exact absurd same.symm other
      · exact mem
    · rename_i _ other
      have kept : entry = first → entry.1 ≠ key := by
        rintro rfl
        exact Ne.symm other
      have inner := ih below
      rw [List.mem_cons, List.mem_cons, or_and_right, and_iff_left_of_imp kept, or_left_comm]
      exact or_congr_right inner

end Entries

/-- The entries of a map in the order of their keys. -/
structure SortedMap (κ : Type u) (β : Type v) [LT κ] where
  entries : List (κ × β)
  sorted : entries.Pairwise fun first second => first.1 < second.1

namespace SortedMap

def empty : SortedMap κ β := ⟨[], List.Pairwise.nil⟩

/-- The map without the entries whose key is refused. -/
def filterKeys (keep : κ → Bool) (map : SortedMap κ β) : SortedMap κ β :=
  ⟨map.entries.filter fun entry => keep entry.1, map.sorted.filter _⟩

/-- A map is determined by its entries as a set. -/
theorem ext_mem [IsTrans κ (· < ·)] [@Std.Irrefl κ (· < ·)] {first second : SortedMap κ β}
    (same : ∀ entry, entry ∈ first.entries ↔ entry ∈ second.entries) : first = second := by
  have irrefl : Std.Irrefl fun left right : κ × β => left.1 < right.1 :=
    ⟨fun entry less => Std.Irrefl.irrefl entry.1 less⟩
  have antisymm : Std.Antisymm fun left right : κ × β => left.1 < right.1 :=
    ⟨fun left right less greater =>
      absurd (IsTrans.trans _ _ _ less greater) (Std.Irrefl.irrefl left.1)⟩
  obtain ⟨entries, sorted⟩ := first
  obtain ⟨others, sorted'⟩ := second
  obtain rfl := sorted.eq_of_mem_iff sorted' same
  rfl

variable {map : SortedMap κ β} {key : κ} {entry : κ × β} {value : β} {entries : List (κ × β)}

theorem value_unique [IsTrans κ (· < ·)] [@Std.Irrefl κ (· < ·)] {first second : β}
    (mem : (key, first) ∈ map.entries) (also : (key, second) ∈ map.entries) : first = second := by
  obtain ⟨entries, sorted⟩ := map
  induction sorted with
  | nil => cases mem
  | cons above _ ih =>
    have irrefl : ¬key < key := Std.Irrefl.irrefl key
    obtain rfl | later := List.mem_cons.mp mem
    · obtain same | later := List.mem_cons.mp also
      · exact (Prod.ext_iff.mp same).2.symm
      · exact absurd (above (key, second) later) irrefl
    · obtain rfl | later' := List.mem_cons.mp also
      · exact absurd (above (key, first) later) irrefl
      · exact ih later later'

theorem nodup_keys [@Std.Irrefl κ (· < ·)] (map : SortedMap κ β) :
    (map.entries.map Prod.fst).Nodup := by
  rw [List.Nodup, List.pairwise_map]
  refine map.sorted.imp ?_
  intro first second less same
  rw [same] at less
  exact Std.Irrefl.irrefl second.1 less

variable [DecidableLT κ] [DecidableEq κ] [IsTrans κ (· < ·)] [@Std.Trichotomous κ (· < ·)]

/-- `map[key] = value`. -/
def insert (map : SortedMap κ β) (key : κ) (value : β) : SortedMap κ β :=
  ⟨insertEntry key value map.entries, pairwise_insertEntry key value map.sorted⟩

/-- The map that results from inserting some entries one after the other. -/
def ofList (entries : List (κ × β)) : SortedMap κ β :=
  entries.foldl (fun map entry => map.insert entry.1 entry.2) empty

variable [@Std.Irrefl κ (· < ·)]

theorem mem_insert :
    entry ∈ (map.insert key value).entries ↔
      entry = (key, value) ∨ entry ∈ map.entries ∧ entry.1 ≠ key :=
  mem_insertEntry map.sorted

/-- Entries with distinct keys are all there in the end, and keep out earlier ones. -/
theorem mem_foldl_insert (distinct : (entries.map Prod.fst).Nodup) (map : SortedMap κ β)
    (entry : κ × β) :
    entry ∈ (entries.foldl (fun map entry => map.insert entry.1 entry.2) map).entries ↔
      entry ∈ entries ∨ entry ∈ map.entries ∧ entry.1 ∉ entries.map Prod.fst := by
  induction entries generalizing map with
  | nil => simp
  | cons first rest ih =>
    rw [List.map_cons, List.nodup_cons] at distinct
    have fresh : entry = first → entry.1 ∉ rest.map Prod.fst := by
      rintro rfl
      exact distinct.1
    rw [List.foldl_cons, ih distinct.2, mem_insert, List.mem_cons, List.map_cons,
      List.mem_cons, not_or]
    constructor
    · rintro (mem | ⟨rfl | ⟨mem, other⟩, absent⟩)
      · exact Or.inl (Or.inr mem)
      · exact Or.inl (Or.inl rfl)
      · exact Or.inr ⟨mem, other, absent⟩
    · rintro ((same | mem) | ⟨mem, other, absent⟩)
      · exact Or.inr ⟨Or.inl same, fresh same⟩
      · exact Or.inl mem
      · exact Or.inr ⟨Or.inr ⟨mem, other⟩, absent⟩

theorem mem_ofList (distinct : (entries.map Prod.fst).Nodup) (entry : κ × β) :
    entry ∈ (ofList entries).entries ↔ entry ∈ entries := by
  rw [ofList, mem_foldl_insert distinct]
  exact or_iff_left fun ⟨mem, _⟩ => List.not_mem_nil mem

/-- **Distinct keys may be inserted in any order.** -/
theorem ofList_perm {first second : List (κ × β)} (distinct : (first.map Prod.fst).Nodup)
    (perm : first.Perm second) : ofList first = ofList second := by
  apply ext_mem
  intro entry
  rw [mem_ofList distinct, mem_ofList ((perm.map Prod.fst).nodup_iff.mp distinct),
    perm.mem_iff]

/-! ### Lookup -/

/-- The value of a key. -/
def find? (map : SortedMap κ β) (key : κ) : Option β :=
  (map.entries.find? fun entry => decide (entry.1 = key)).map Prod.snd

omit [DecidableLT κ] [@Std.Trichotomous κ (· < ·)] in
theorem find?_eq_some_iff : map.find? key = some value ↔ (key, value) ∈ map.entries := by
  constructor
  · intro found
    obtain ⟨entry, within, rfl⟩ := Option.map_eq_some_iff.mp found
    obtain rfl := of_decide_eq_true (List.find?_eq_some_iff_append.mp within).1
    exact List.mem_of_find?_eq_some within
  · intro mem
    cases found : map.entries.find? fun entry => decide (entry.1 = key) with
    | none => exact absurd (decide_eq_true rfl) (List.find?_eq_none.mp found _ mem)
    | some entry =>
      obtain rfl := of_decide_eq_true (List.find?_eq_some_iff_append.mp found).1
      rw [find?, found, Option.map_some,
        value_unique (List.mem_of_find?_eq_some found) mem]

theorem find?_insert (key other : κ) (value : β) :
    (map.insert key value).find? other = if other = key then some value else map.find? other := by
  apply Option.ext
  intro found
  rw [find?_eq_some_iff, mem_insert, Prod.mk.injEq]
  split
  · rename_i same
    simp [same, eq_comm]
  · rename_i different
    simp [different, find?_eq_some_iff]

/-- The last value that a list has for a key. -/
def lastValue (key : κ) : List (κ × β) → Option β
  | [] => none
  | entry :: rest => (lastValue key rest).or (if entry.1 = key then some entry.2 else none)

omit [LT κ] [DecidableLT κ] [IsTrans κ (· < ·)] [@Std.Trichotomous κ (· < ·)]
  [@Std.Irrefl κ (· < ·)] in
theorem lastValue_cons (key : κ) (entry : κ × β) (rest : List (κ × β)) :
    lastValue key (entry :: rest) =
      (lastValue key rest).or (if entry.1 = key then some entry.2 else none) := rfl

/-- **The last assignment wins.** -/
theorem find?_foldl_insert (entries : List (κ × β)) (map : SortedMap κ β) (key : κ) :
    (entries.foldl (fun map entry => map.insert entry.1 entry.2) map).find? key =
      (lastValue key entries).or (map.find? key) := by
  induction entries generalizing map with
  | nil => rfl
  | cons entry rest ih =>
    rw [List.foldl_cons, ih, find?_insert, lastValue_cons, Option.or_assoc]
    by_cases same : entry.1 = key
    · rw [if_pos same.symm, if_pos same, Option.some_or]
    · rw [if_neg (Ne.symm same), if_neg same, Option.none_or]

theorem find?_ofList (entries : List (κ × β)) (key : κ) :
    (ofList entries).find? key = lastValue key entries :=
  (find?_foldl_insert entries empty key).trans (Option.or_none)

omit [LT κ] [DecidableLT κ] [IsTrans κ (· < ·)] [@Std.Trichotomous κ (· < ·)]
  [@Std.Irrefl κ (· < ·)] in
theorem mem_of_lastValue (found : lastValue key entries = some value) : (key, value) ∈ entries := by
  induction entries with
  | nil => cases found
  | cons entry rest ih =>
    rw [lastValue_cons, Option.or_eq_some_iff] at found
    obtain later | ⟨-, first⟩ := found
    · exact List.mem_cons_of_mem _ (ih later)
    · split at first
      · rename_i same
        cases first
        exact same ▸ List.mem_cons_self
      · cases first

omit [LT κ] [DecidableLT κ] [IsTrans κ (· < ·)] [@Std.Trichotomous κ (· < ·)]
  [@Std.Irrefl κ (· < ·)] in
theorem exists_lastValue (mem : entry ∈ entries) :
    ∃ value, lastValue entry.1 entries = some value := by
  induction entries with
  | nil => cases mem
  | cons first rest ih =>
    rw [lastValue_cons]
    obtain rfl | later := List.mem_cons.mp mem
    · rw [if_pos rfl]
      cases lastValue entry.1 rest with
      | none => exact ⟨entry.2, rfl⟩
      | some value => exact ⟨value, rfl⟩
    · obtain ⟨value, found⟩ := ih later
      exact ⟨value, by rw [found, Option.some_or]⟩

/-- An entry of the map is one of those that were inserted. -/
theorem mem_of_mem_ofList (mem : entry ∈ (ofList entries).entries) : entry ∈ entries := by
  rw [← Prod.mk.eta (p := entry), ← find?_eq_some_iff, find?_ofList] at mem
  exact mem_of_lastValue mem

/-- A key that was inserted is one of the map. -/
theorem exists_mem_ofList (mem : entry ∈ entries) :
    ∃ value, (entry.1, value) ∈ (ofList entries).entries := by
  obtain ⟨value, found⟩ := exists_lastValue mem
  exact ⟨value, find?_eq_some_iff.mp ((find?_ofList entries entry.1).trans found)⟩

theorem ofList_entries (map : SortedMap κ β) : ofList map.entries = map :=
  ext_mem fun entry => mem_ofList map.nodup_keys entry

end SortedMap

instance bytesLtTrans : IsTrans (List UInt8) (· < ·) := inferInstance

instance bytesLtTrichotomous : @Std.Trichotomous (List UInt8) (· < ·) := inferInstance

end Rstream.Library
