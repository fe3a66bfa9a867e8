import Mathlib.Data.List.Sort
import Rstream.Core.Buffer
import Rstream.Library.Runs

/-!
# The quantile sketch

The sketch keeps some of the observed values in order, each with the number of observations it
stands for. New values wait in a buffer. A full buffer is sorted and merged into the sample in
one pass, which walks along the sample with two indices, and then neighbours are joined where
the allowable error admits it.

How many observations an item may stand for is a matter of accuracy only: the sample remains in
order and complete whatever the allowable error is (`exec_represents`).
-/

namespace Rstream.Core

open List Option

/-- The operations of `double` that the sketch uses, with its conversions from and to
`std::size_t`. -/
structure Doubles (D : Type) where
  ofNat : Nat → D
  toNat : D → Nat
  add : D → D → D
  sub : D → D → D
  mul : D → D → D
  div : D → D → D
  floor : D → D
  le : D → D → Bool
  lt : D → D → Bool

structure Quantile (D : Type) where
  quantile : D
  error : D
  u : D
  v : D

/-- The constructor of `quantile`. -/
def Doubles.quantile {D : Type} (doubles : Doubles D) (quantile error : D) : Quantile D :=
  let double := doubles.mul (doubles.ofNat 2) error
  { quantile, error
    u := doubles.div double (doubles.sub (doubles.ofNat 1) quantile)
    v := doubles.div double quantile }

structure Item (V : Type) where
  value : V
  g : Nat
  delta : Nat
  deriving DecidableEq, Repr

/-- `ckms_quantiles`: the sample, `m_count`, and the values that wait in `m_buffer`. -/
structure CkmsQuantiles (V : Type) where
  sample : List (Item V) := []
  count : Nat := 0
  pending : List V := []
  deriving DecidableEq, Repr

/-- The size of `m_buffer`. -/
abbrev bufferSize : Nat := 500

namespace CkmsQuantiles

variable {V D : Type}

def allowableError (doubles : Doubles D) (quantiles : List (Quantile D)) (sample : List (Item V))
    (rank : Nat) : D :=
  let size := doubles.ofNat sample.length
  let rankValue := doubles.ofNat rank
  quantiles.foldl (fun minError q =>
    let error :=
      if doubles.le rankValue (doubles.mul q.quantile size) then
        doubles.mul q.u (doubles.sub size rankValue)
      else doubles.mul q.v rankValue
    if doubles.lt error minError then error else minError) (doubles.add size (doubles.ofNat 1))

variable [LinearOrder V]

section

-- what `allowable_error` returns for a sample and a rank
variable (doubles : Doubles D) (error : List (Item V) → Nat → D)

/-- `m_sample.emplace(m_sample.begin() + idx, …)`. -/
def emplace (sample : List (Item V)) (idx : Nat) (item : Item V) : Option (List (Item V)) :=
  if idx ≤ sample.length then some (sample.take idx ++ item :: sample.drop idx) else none

/-- The inner loop of `insert_batch`: `item` and `idx` afterwards. There are no more rounds than
`fuel`. -/
def seek (sample : List (Item V)) (v : V) : Nat → Nat → Nat → Option (Nat × Nat)
  | 0, _, _ => none
  | fuel + 1, item, idx =>
    if idx < sample.length then do
      let current ← sample[item]?
      if current.value < v then seek sample v fuel idx (idx + 1) else some (item, idx)
    else some (item, idx)

/-- The outer loop of `insert_batch`: the sample and `m_count` afterwards. -/
def insertLoop : List V → List (Item V) → Nat → Nat → Nat → Option (List (Item V) × Nat)
  | [], sample, count, _, _ => some (sample, count)
  | v :: values, sample, count, item, idx => do
      let (item, idx) ← seek sample v (sample.length + 1) item idx
      let current ← sample[item]?
      let idx := if v < current.value then idx - 1 else idx
      -- `idx - 1` wraps around when `idx` is 0
      let delta := if idx = 1 ∨ idx + 1 = sample.length then 0
        else (doubles.toNat (doubles.floor (error sample (idx + 1))) + 1) % sizeRange
      let sample ← emplace sample idx ⟨v, 1, delta⟩
      insertLoop values sample (count + 1) idx (idx + 1)

def insertBatch (sketch : CkmsQuantiles V) : Option (CkmsQuantiles V) :=
  match sketch.pending.insertionSort (· ≤ ·) with
  | [] => some sketch
  | first :: rest => do
      let (sample, count) ←
        if sketch.sample.isEmpty then
          insertLoop doubles error rest [⟨first, 1, 0⟩] (sketch.count + 1) 0 1
        else insertLoop doubles error (first :: rest) sketch.sample sketch.count 0 1
      some { sample, count, pending := [] }

def compressLoop : Nat → List (Item V) → Nat → Nat → Option (List (Item V))
  | 0, _, _, _ => none
  | fuel + 1, sample, next, idx =>
    if idx < sample.length then do
      let prev := next
      let next := idx
      let idx := idx + 1
      let before ← sample[prev]?
      let after ← sample[next]?
      if doubles.le (doubles.ofNat ((before.g + after.g + after.delta) % sizeRange))
          (error sample (idx - 1)) then
        compressLoop fuel
          ((sample.set next { after with g := after.g + before.g }).eraseIdx prev) next idx
      else compressLoop fuel sample next idx
    else some sample

def compress (sketch : CkmsQuantiles V) : Option (CkmsQuantiles V) :=
  if sketch.sample.length < 2 then some sketch
  else do
    let sample ← compressLoop doubles error (sketch.sample.length + 1) sketch.sample 0 1
    some { sketch with sample }

def insert (sketch : CkmsQuantiles V) (value : V) : Option (CkmsQuantiles V) :=
  if sketch.pending.length < bufferSize then do
    let sketch := { sketch with pending := sketch.pending ++ [value] }
    if sketch.pending.length = bufferSize then
      let sketch ← sketch.insertBatch doubles error
      sketch.compress doubles error
    else some sketch
  else none

/-- The loop of `get`, at the item `prev` and before the items behind it. -/
def getLoop (bound : D) : Nat → Item V → List (Item V) → Option V
  | _, _, [] => none
  | rankMin, prev, cur :: rest =>
    let rankMin := (rankMin + prev.g) % sizeRange
    if doubles.lt bound (doubles.ofNat ((rankMin + cur.g + cur.delta) % sizeRange)) then
      some prev.value
    else getLoop bound rankMin cur rest

/-- `get`; without a value it is a NaN. -/
def get (sketch : CkmsQuantiles V) (q : D) : Option (CkmsQuantiles V × Option V) := do
  let sketch ← sketch.insertBatch doubles error
  let sketch ← sketch.compress doubles error
  match sketch.sample with
  | [] => some (sketch, none)
  | first :: rest =>
    let desired := doubles.toNat (doubles.mul q (doubles.ofNat sketch.count))
    let bound := doubles.add (doubles.ofNat desired)
      (doubles.div (error sketch.sample desired) (doubles.ofNat 2))
    match getLoop doubles bound 0 first rest with
    | some value => some (sketch, some value)
    | none => some (sketch, some ((first :: rest).getLast (List.cons_ne_nil _ _)).value)

def reset (_ : CkmsQuantiles V) : CkmsQuantiles V := {}

end

/-! ## The sample -/

/-- The sample is in order, has values of `inserted` only, and its items stand for `count`
observations, each for one at least. -/
structure Sound (inserted : List V) (sample : List (Item V)) (count : Nat) : Prop where
  sorted : sample.Pairwise fun first second => first.value ≤ second.value
  positive : ∀ item ∈ sample, 1 ≤ item.g
  mass : (sample.map (·.g)).sum = count
  values : ∀ item ∈ sample, item.value ∈ inserted

variable {inserted : List V} {sample : List (Item V)} {count : Nat}

theorem sound_nil (inserted : List V) : Sound inserted [] 0 :=
  ⟨List.Pairwise.nil, by simp, rfl, by simp⟩

theorem Sound.mono (sound : Sound inserted sample count) {more : List V}
    (subset : ∀ v ∈ inserted, v ∈ more) : Sound more sample count :=
  ⟨sound.sorted, sound.positive, sound.mass, fun item mem => subset _ (sound.values item mem)⟩

/-- A new item between the smaller and the larger ones. -/
theorem Sound.emplace (sound : Sound inserted sample count) {idx : Nat}
    {v : V} (member : v ∈ inserted) (delta : Nat) (below : ∀ item ∈ sample.take idx, item.value ≤ v)
    (above : ∀ item ∈ sample.drop idx, v ≤ item.value) :
    Sound inserted (sample.take idx ++ ⟨v, 1, delta⟩ :: sample.drop idx) (count + 1) := by
  have split := take_append_drop idx sample
  refine ⟨?_, ?_, ?_, ?_⟩
  · refine pairwise_append.mpr ⟨sound.sorted.take, ?_, ?_⟩
    · exact pairwise_cons.mpr ⟨above, sound.sorted.drop⟩
    · intro first mem second mem'
      rcases mem_cons.mp mem' with rfl | later
      · exact below first mem
      · exact (below first mem).trans (above second later)
  · intro item mem
    rcases mem_append.mp mem with front | back
    · exact sound.positive item (mem_of_mem_take front)
    · rcases mem_cons.mp back with rfl | back
      · exact Nat.le_refl 1
      · exact sound.positive item (mem_of_mem_drop back)
  · have mass := sound.mass
    rw [← split, map_append, sum_append] at mass
    rw [map_append, map_cons, sum_append, sum_cons]
    show _ + (1 + _) = _
    omega
  · intro item mem
    rcases mem_append.mp mem with front | back
    · exact sound.values item (mem_of_mem_take front)
    · rcases mem_cons.mp back with rfl | back
      · exact member
      · exact sound.values item (mem_of_mem_drop back)

/-- An item takes over the observations of the one before it. -/
theorem Sound.join {front back : List (Item V)} {before after : Item V}
    (sound : Sound inserted (front ++ before :: after :: back) count) :
    Sound inserted (front ++ { after with g := after.g + before.g } :: back) count := by
  obtain ⟨sorted, positive, mass, values⟩ := sound
  obtain ⟨first, second, cross⟩ := pairwise_append.mp sorted
  obtain ⟨-, second⟩ := pairwise_cons.mp second
  obtain ⟨least, rest⟩ := pairwise_cons.mp second
  refine ⟨?_, ?_, ?_, ?_⟩
  · refine pairwise_append.mpr ⟨first, pairwise_cons.mpr ⟨least, rest⟩, ?_⟩
    intro item mem item' mem'
    rcases mem_cons.mp mem' with rfl | later
    · exact cross item mem after (by simp)
    · exact cross item mem item' (by simp [later])
  · intro item mem
    rcases mem_append.mp mem with inFront | behind
    · exact positive item (by simp [inFront])
    · rcases mem_cons.mp behind with rfl | behind
      · exact (positive after (by simp)).trans (Nat.le_add_right _ _)
      · exact positive item (by simp [behind])
  · rw [← mass]
    simp only [map_append, map_cons, sum_append, sum_cons]
    omega
  · intro item mem
    rcases mem_append.mp mem with inFront | behind
    · exact values item (by simp [inFront])
    · rcases mem_cons.mp behind with rfl | behind
      · exact values after (by simp)
      · exact values item (by simp [behind])

/-! ## The walk along the sample -/

/-- The inner loop stops at the last item, or at an item that is not smaller than `v`; the items
before it are not greater. -/
theorem seek_spec {v : V} {fuel item : Nat} (inside : item < sample.length)
    (enough : sample.length < fuel + item + 1) (below : ∀ x ∈ sample.take item, x.value ≤ v) :
    ∃ (last : Nat) (current : Item V), seek sample v fuel item (item + 1) = some (last, last + 1) ∧
      sample[last]? = some current ∧ (∀ x ∈ sample.take last, x.value ≤ v) ∧
      (last + 1 < sample.length → v ≤ current.value) := by
  induction fuel generalizing item with
  | zero => omega
  | succ fuel ih =>
    have here := getElem?_eq_getElem inside
    rw [seek]
    by_cases more : item + 1 < sample.length
    · rw [if_pos more, here]
      by_cases less : sample[item].value < v
      · have further : ∀ x ∈ sample.take (item + 1), x.value ≤ v := by
          intro x mem
          rw [take_succ_eq_append_getElem inside] at mem
          rcases mem_append.mp mem with front | last
          · exact below x front
          · rw [mem_singleton.mp last]
            exact less.le
        obtain ⟨last, current, found⟩ := ih more (by omega) further
        refine ⟨last, current, ?_, found.2⟩
        rw [← found.1]
        exact if_pos less
      · exact ⟨item, sample[item], if_neg less, here, below, fun _ => not_lt.mp less⟩
    · rw [if_neg more]
      exact ⟨item, sample[item], rfl, here, below, fun later => absurd later more⟩

/-- A place where a value belongs, next to the item where the walk has stopped. -/
theorem above_of_stopped {v : V} {last : Nat} {current : Item V} (sound : Sound inserted sample count)
    (here : sample[last]? = some current) (stopped : last + 1 < sample.length → v ≤ current.value) :
    (v < current.value → ∀ x ∈ sample.drop last, v ≤ x.value) ∧
      ∀ x ∈ sample.drop (last + 1), v ≤ x.value := by
  obtain ⟨inside, same⟩ := List.getElem?_eq_some_iff.mp here
  have split := drop_eq_getElem_cons inside
  rw [same] at split
  have least : ∀ x ∈ sample.drop (last + 1), current.value ≤ x.value := by
    have sorted : (sample.drop last).Pairwise _ := sound.sorted.drop
    rw [split] at sorted
    exact (pairwise_cons.mp sorted).1
  constructor
  · intro less x mem
    rw [split] at mem
    rcases mem_cons.mp mem with rfl | later
    · exact less.le
    · exact less.le.trans (least x later)
  · intro x mem
    have more : last + 1 < sample.length := by
      by_contra atEnd
      rw [drop_of_length_le (Nat.le_of_not_lt atEnd)] at mem
      exact not_mem_nil mem
    exact (stopped more).trans (least x mem)

section

variable {doubles : Doubles D} {error : List (Item V) → Nat → D}

/-- **The batch loop** does not leave the sample, and inserts every value at its place. -/
theorem insertLoop_spec {values : List V} (sorted : values.Pairwise (· ≤ ·))
    (members : ∀ v ∈ values, v ∈ inserted) (sound : Sound inserted sample count) {item : Nat}
    (inside : item < sample.length)
    (below : ∀ v ∈ values, ∀ x ∈ sample.take item, x.value ≤ v) :
    ∃ (sample' : List (Item V)),
      insertLoop doubles error values sample count item (item + 1) =
        some (sample', count + values.length) ∧
      Sound inserted sample' (count + values.length) := by
  induction values generalizing sample count item with
  | nil => exact ⟨sample, rfl, sound⟩
  | cons v values ih =>
    obtain ⟨least, rest⟩ := pairwise_cons.mp sorted
    obtain ⟨last, current, found, here, smaller, stopped⟩ :=
      seek_spec inside (by omega : sample.length < sample.length + 1 + item + 1)
        (below v mem_cons_self)
    obtain ⟨above, above'⟩ := above_of_stopped sound here stopped
    obtain ⟨bound, same⟩ := List.getElem?_eq_some_iff.mp here
    -- the place is the item where the walk has stopped, or the next one
    obtain ⟨idx, place, inRange, front, back⟩ : ∃ idx,
        (if v < current.value then last + 1 - 1 else last + 1) = idx ∧ idx ≤ sample.length ∧
        (∀ x ∈ sample.take idx, x.value ≤ v) ∧ ∀ x ∈ sample.drop idx, v ≤ x.value := by
      by_cases less : v < current.value
      · exact ⟨last, if_pos less, bound.le, smaller, above less⟩
      · refine ⟨last + 1, if_neg less, bound, ?_, above'⟩
        intro x mem
        rw [take_succ_eq_append_getElem bound, same] at mem
        rcases mem_append.mp mem with earlier | this
        · exact smaller x earlier
        · rw [mem_singleton.mp this]
          exact not_lt.mp less
    let delta := if idx = 1 ∨ idx + 1 = sample.length then 0
      else (doubles.toNat (doubles.floor (error sample (idx + 1))) + 1) % sizeRange
    have taken : (sample.take idx).length = idx := length_take_of_le inRange
    have next : (sample.take idx ++ ⟨v, 1, delta⟩ :: sample.drop idx).take idx =
        sample.take idx := by
      rw [take_append_of_le_length taken.ge, take_of_length_le taken.le]
    obtain ⟨sample', more, sound'⟩ := ih rest
      (fun w mem => members w (mem_cons_of_mem _ mem))
      (sound.emplace (members v mem_cons_self) delta front back)
      (by rw [length_append, taken, length_cons]; omega : idx < _)
      (fun w mem x inFront => by
        rw [next] at inFront
        exact (front x inFront).trans (least w mem))
    have total : count + 1 + values.length = count + (v :: values).length := by
      rw [length_cons]
      omega
    rw [total] at more sound'
    refine ⟨sample', ?_, sound'⟩
    rw [insertLoop, found]
    simp only [bind_eq_bind, bind_some]
    rw [here, bind_some, place, emplace, if_pos inRange]
    exact more

theorem insertBatch_spec (sketch : CkmsQuantiles V) (members : ∀ v ∈ sketch.pending, v ∈ inserted)
    (sound : Sound inserted sketch.sample sketch.count) :
    ∃ sample', sketch.insertBatch doubles error =
        some ⟨sample', sketch.count + sketch.pending.length, []⟩ ∧
      Sound inserted sample' (sketch.count + sketch.pending.length) := by
  have length := length_insertionSort (· ≤ ·) sketch.pending
  have sorted := pairwise_insertionSort (· ≤ ·) sketch.pending
  have members' : ∀ v ∈ sketch.pending.insertionSort (· ≤ ·), v ∈ inserted :=
    fun v mem => members v ((mem_insertionSort _).mp mem)
  rw [insertBatch]
  cases batch : sketch.pending.insertionSort (· ≤ ·) with
  | nil =>
    rw [batch, length_nil] at length
    obtain ⟨sample, count, pending⟩ := sketch
    obtain rfl : pending = [] := length_eq_zero_iff.mp length.symm
    exact ⟨sample, rfl, sound⟩
  | cons first rest =>
    rw [batch] at length sorted members'
    dsimp only
    by_cases empty : sketch.sample = []
    · obtain ⟨least, sorted'⟩ := pairwise_cons.mp sorted
      have none : sketch.count = 0 := by
        rw [← sound.mass, empty]
        rfl
      have fresh : Sound inserted ([].take 0 ++ ⟨first, 1, 0⟩ :: [].drop 0) (0 + 1) :=
        (sound_nil inserted).emplace (members' first mem_cons_self) 0 (by simp) (by simp)
      have single : Sound inserted [⟨first, 1, 0⟩] (sketch.count + 1) := by
        rw [none]
        exact fresh
      obtain ⟨sample', looped, sound'⟩ := @insertLoop_spec _ _ _ _ _ _ doubles error rest sorted'
        (fun v mem => members' v (mem_cons_of_mem _ mem)) single 0 (by simp) (by simp)
      have total : sketch.count + 1 + rest.length = sketch.count + sketch.pending.length := by
        rw [← length, length_cons]
        omega
      rw [total] at looped sound'
      refine ⟨sample', ?_, sound'⟩
      rw [if_pos (by rw [empty]; rfl), looped]
      rfl
    · obtain ⟨sample', looped, sound'⟩ := @insertLoop_spec _ _ _ _ _ _ doubles error
        (first :: rest) sorted members' sound 0 (length_pos_iff.mpr empty) (by simp)
      rw [length] at looped sound'
      refine ⟨sample', ?_, sound'⟩
      rw [if_neg (by simpa using empty), looped]
      rfl

omit [LinearOrder V] in
/-- The two items at `next` and behind it. -/
theorem split_pair {next : Nat} (more : next + 1 < sample.length) :
    ∃ before after, sample[next]? = some before ∧ sample[next + 1]? = some after ∧
      sample = sample.take next ++ before :: after :: sample.drop (next + 2) := by
  have inside : next < sample.length := by omega
  refine ⟨sample[next], sample[next + 1], getElem?_eq_getElem inside,
    getElem?_eq_getElem more, ?_⟩
  rw [← drop_eq_getElem_cons more, ← drop_eq_getElem_cons inside, take_append_drop]

omit [LinearOrder V] in
/-- Writing the second of two neighbours and erasing the first. -/
theorem eraseIdx_set_pair (front back : List (Item V)) (before after item : Item V) :
    ((front ++ before :: after :: back).set (front.length + 1) item).eraseIdx front.length =
      front ++ item :: back := by
  rw [set_append_right _ _ (Nat.le_add_right _ _), Nat.add_sub_cancel_left,
    eraseIdx_append_of_length_le (Nat.le_refl _), Nat.sub_self]
  rfl

/-- **The loop of `compress`** does not leave the sample, also when it skips an item because
the one before it was erased. -/
theorem compressLoop_spec {fuel next : Nat} (sound : Sound inserted sample count)
    (inside : next ≤ sample.length) (enough : sample.length < fuel + next) :
    ∃ sample', compressLoop doubles error fuel sample next (next + 1) = some sample' ∧
      Sound inserted sample' count := by
  induction fuel generalizing sample next with
  | zero => omega
  | succ fuel ih =>
    rw [compressLoop]
    by_cases more : next + 1 < sample.length
    · obtain ⟨before, after, first, second, split⟩ := split_pair more
      have front : (sample.take next).length = next := length_take_of_le inside
      have joined := eraseIdx_set_pair (sample.take next) (sample.drop (next + 2)) before after
        { after with g := after.g + before.g }
      rw [← split, front] at joined
      rw [if_pos more]
      dsimp only
      rw [first, second]
      simp only [bind_eq_bind, bind_some]
      split
      · have shorter := congrArg length joined
        rw [length_eraseIdx, length_set, if_pos (by omega)] at shorter
        rw [joined]
        rw [split] at sound
        exact ih sound.join (by omega) (by omega)
      · exact ih sound (by omega) (by omega)
    · rw [if_neg more]
      exact ⟨sample, rfl, sound⟩

theorem compress_spec (sketch : CkmsQuantiles V)
    (sound : Sound inserted sketch.sample sketch.count) :
    ∃ sample', sketch.compress doubles error = some { sketch with sample := sample' } ∧
      Sound inserted sample' sketch.count := by
  rw [compress]
  split
  · exact ⟨sketch.sample, rfl, sound⟩
  · obtain ⟨sample', looped, sound'⟩ := @compressLoop_spec _ _ _ _ _ _ doubles error
      (sketch.sample.length + 1) 0 sound (Nat.zero_le _) (by omega)
    refine ⟨sample', ?_, sound'⟩
    rw [looped]
    rfl

omit [LinearOrder V] in
theorem mem_of_getLoop {bound : D} {rankMin : Nat} {prev : Item V} {rest : List (Item V)} {v : V}
    (found : getLoop doubles bound rankMin prev rest = some v) :
    ∃ item ∈ prev :: rest, item.value = v := by
  induction rest generalizing rankMin prev with
  | nil => cases found
  | cons cur rest ih =>
    rw [getLoop] at found
    split at found
    · cases found
      exact ⟨prev, mem_cons_self, rfl⟩
    · obtain ⟨item, mem, same⟩ := ih found
      exact ⟨item, mem_cons_of_mem _ mem, same⟩

end

/-! ## Runs -/

/-- A call of the sketch. -/
inductive Call (V D : Type) where
  | insert (value : V)
  | get (q : D)
  | reset

/-- The sketch after a call. -/
def call (doubles : Doubles D) (error : List (Item V) → Nat → D) (sketch : CkmsQuantiles V) :
    Call V D → Option (CkmsQuantiles V)
  | .insert value => sketch.insert doubles error value
  | .get q => (sketch.get doubles error q).map Prod.fst
  | .reset => some sketch.reset

/-- The values inserted since the last reset, with one call more. -/
def insertedAfter (inserted : List V) : Call V D → List V
  | .insert value => inserted ++ [value]
  | .get _ => inserted
  | .reset => []

/-- **The representation invariant**, between calls: `inserted` are the values inserted since
the last reset. -/
structure Represents (sketch : CkmsQuantiles V) (inserted : List V) : Prop where
  sound : Sound inserted sketch.sample sketch.count
  total : sketch.count + sketch.pending.length = inserted.length
  below : sketch.pending.length < bufferSize
  pending : ∀ v ∈ sketch.pending, v ∈ inserted

theorem represents_initial : Represents ({} : CkmsQuantiles V) [] :=
  ⟨sound_nil _, rfl, Nat.succ_pos _, by simp⟩

section

variable {doubles : Doubles D} {error : List (Item V) → Nat → D} {sketch : CkmsQuantiles V}

section

variable (represents : Represents sketch inserted)

include represents

theorem Represents.insert (value : V) :
    ∃ after, sketch.insert doubles error value = some after ∧
      Represents after (inserted ++ [value]) := by
  have more : ∀ v ∈ inserted, v ∈ inserted ++ [value] := fun v mem => mem_append_left _ mem
  have sound := represents.sound.mono more
  have total := represents.total
  have members : ∀ v ∈ sketch.pending ++ [value], v ∈ inserted ++ [value] := by
    intro v mem
    rcases mem_append.mp mem with waiting | new
    · exact more v (represents.pending v waiting)
    · exact mem_append_right _ new
  have length : (sketch.pending ++ [value]).length = sketch.pending.length + 1 := by simp
  rw [CkmsQuantiles.insert, if_pos represents.below]
  dsimp only
  split
  · obtain ⟨batch, merged, sound'⟩ := @insertBatch_spec _ _ _ _ doubles error
      { sketch with pending := sketch.pending ++ [value] } members sound
    obtain ⟨sample, compressed, sound'⟩ := @compress_spec _ _ _ _ doubles error
      ⟨batch, sketch.count + (sketch.pending ++ [value]).length, []⟩ sound'
    refine ⟨⟨sample, sketch.count + (sketch.pending ++ [value]).length, []⟩, ?_, sound', ?_,
      Nat.succ_pos _, by simp⟩
    · rw [merged, bind_eq_bind, bind_some, compressed]
    · show sketch.count + (sketch.pending ++ [value]).length + 0 = _
      rw [length_append, length_append, ← total]
      omega
  · rename_i full
    have below := represents.below
    refine ⟨_, rfl, sound, ?_, ?_, members⟩
    · show sketch.count + (sketch.pending ++ [value]).length = _
      rw [length_append, length_append, ← total]
      omega
    · show (sketch.pending ++ [value]).length < bufferSize
      omega

/-- `get` leaves a sketch of the same values, and returns one of them if there is one. -/
theorem Represents.get (q : D) :
    ∃ after result, sketch.get doubles error q = some (after, result) ∧
      Represents after inserted ∧ (inserted = [] ∧ result = none ∨
        ∃ v ∈ inserted, result = some v) := by
  obtain ⟨batch, merged, sound⟩ := @insertBatch_spec _ _ _ _ doubles error sketch
    represents.pending represents.sound
  obtain ⟨sample, compressed, sound⟩ := @compress_spec _ _ _ _ doubles error
    ⟨batch, sketch.count + sketch.pending.length, []⟩ sound
  have after : Represents ⟨sample, sketch.count + sketch.pending.length, []⟩ inserted :=
    ⟨sound, represents.total, Nat.succ_pos _, by simp⟩
  rw [CkmsQuantiles.get, merged, bind_eq_bind, bind_some, compressed,
    bind_some]
  dsimp only
  cases sample with
  | nil =>
    have none : inserted.length = 0 := by
      rw [← represents.total]
      exact sound.mass.symm
    exact ⟨_, _, rfl, after, .inl ⟨length_eq_zero_iff.mp none, rfl⟩⟩
  | cons first rest =>
    dsimp only
    split
    · rename_i v found
      obtain ⟨item, mem, same⟩ := mem_of_getLoop found
      exact ⟨_, _, rfl, after, .inr ⟨v, same ▸ sound.values item mem, rfl⟩⟩
    · exact ⟨_, _, rfl, after, .inr ⟨_, sound.values _ (getLast_mem _), rfl⟩⟩

theorem Represents.call (call : Call V D) :
    ∃ after, sketch.call doubles error call = some after ∧
      Represents after (insertedAfter inserted call) := by
  cases call with
  | insert value => exact represents.insert value
  | get q =>
    obtain ⟨after, result, got, represents', -⟩ :=
      @Represents.get _ _ _ _ doubles error _ represents q
    exact ⟨after, congrArg (Option.map Prod.fst) got, represents'⟩
  | reset => exact ⟨_, rfl, represents_initial⟩

end

/-- **The sketch.** Whatever the allowable error is, no call reads or writes outside of the
sample or the buffer, the sample stays in order and complete, and `get` returns a value that was
inserted since the last reset, or a NaN if there is none. -/
theorem exec_represents (doubles : Doubles D) (error : List (Item V) → Nat → D)
    (calls : List (Call V D)) :
    ∃ sketch, Library.exec (call doubles error) {} calls = some sketch ∧
      Represents sketch (calls.foldl insertedAfter []) ∧
      ∀ q, ∃ after result, sketch.get doubles error q = some (after, result) ∧
        (calls.foldl insertedAfter [] = [] ∧ result = none ∨
          ∃ v ∈ calls.foldl insertedAfter [], result = some v) := by
  have run (calls : List (Call V D)) {sketch : CkmsQuantiles V} {inserted : List V}
      (represents : Represents sketch inserted) :
      ∃ after, Library.exec (call doubles error) sketch calls = some after ∧
        Represents after (calls.foldl insertedAfter inserted) := by
    induction calls generalizing sketch inserted with
    | nil => exact ⟨sketch, rfl, represents⟩
    | cons next calls ih =>
      obtain ⟨middle, called, represents'⟩ := represents.call next
      obtain ⟨after, rest, represents''⟩ := ih represents'
      refine ⟨after, ?_, represents''⟩
      rw [Library.exec, called]
      exact rest
  obtain ⟨sketch, reached, represents⟩ := run calls represents_initial
  refine ⟨sketch, reached, represents, fun q => ?_⟩
  obtain ⟨after, result, got, -, value⟩ := represents.get q
  exact ⟨after, result, got, value⟩

end

end CkmsQuantiles

end Rstream.Core
