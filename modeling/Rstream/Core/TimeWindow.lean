import Rstream.Core.Quantiles

/-!
# Quantiles of a time window

Every bucket of the ring receives every observation. A rotation resets the current bucket and
goes on to the next one, so the current bucket is the one that was reset longest ago: it holds
what was observed since the last rotations but one for each further bucket.

The rotations catch up with the clock in a loop, by one interval a round. The interval is the
time window divided by the number of buckets in whole milliseconds. With more buckets than
milliseconds it is 0, and the loop does not end (`rotate_none`).
-/

namespace Rstream.Core

open Library List

/-- A number of 64 bits with a sign. -/
def int64 (value : Int) : Int := Int.bmod value (2 ^ 64)

theorem int64_of_fits {value : Int} (low : -2 ^ 63 ≤ value) (high : value < 2 ^ 63) :
    int64 value = value := by
  rw [int64, Int.bmod_def]
  omega

structure TimeWindowQuantiles (V : Type) where
  buckets : List (CkmsQuantiles V)
  currentBucket : Nat
  lastRotation : Int
  rotationInterval : Int

/-- An observation or a query, with what the clock reads. -/
inductive Reading (V D : Type) where
  | insert (now : Int) (value : V)
  | get (now : Int) (q : D)

/-- What the clock reads. -/
def Reading.now {V D : Type} : Reading V D → Int
  | .insert now _ => now
  | .get now _ => now

namespace TimeWindowQuantiles

variable {V D : Type}

/-- `time_window_s / age_buckets` in nanoseconds: the division is one of `std::uint64_t`. -/
def intervalOf (timeWindow : Int) (ageBuckets : Nat) : Int :=
  int64 (((timeWindow % 2 ^ 64).toNat / ageBuckets : Nat) * 1000000)

/-- The constructor. -/
def make (timeWindow : Int) (ageBuckets : Nat) (now : Int) : TimeWindowQuantiles V where
  buckets := List.replicate ageBuckets {}
  currentBucket := 0
  lastRotation := now
  rotationInterval := intervalOf timeWindow ageBuckets

theorem rotationInterval_make (timeWindow : Int) (ageBuckets : Nat) (now : Int) :
    (make timeWindow ageBuckets now : TimeWindowQuantiles V).rotationInterval =
      intervalOf timeWindow ageBuckets := by
  rw [make]

section

variable [LinearOrder V] (doubles : Doubles D) (quantiles : List (Quantile D))

/-- A round of the loop of `rotate`. -/
def rotateOnce (window : TimeWindowQuantiles V) : TimeWindowQuantiles V where
  buckets := window.buckets.modify window.currentBucket CkmsQuantiles.reset
  currentBucket :=
    if window.currentBucket + 1 ≥ window.buckets.length then 0 else window.currentBucket + 1
  lastRotation := int64 (window.lastRotation + window.rotationInterval)
  rotationInterval := window.rotationInterval

/-- The loop of `rotate`. There are no more rounds than `fuel`. -/
def rotateLoop : Nat → TimeWindowQuantiles V → Int → Option (TimeWindowQuantiles V)
  | 0, _, _ => none
  | fuel + 1, window, delta =>
    if delta > window.rotationInterval then
      rotateLoop fuel window.rotateOnce (int64 (delta - window.rotationInterval))
    else some window

def rotate (fuel : Nat) (window : TimeWindowQuantiles V) (now : Int) :
    Option (TimeWindowQuantiles V) :=
  rotateLoop fuel window (int64 (now - window.lastRotation))

/-- `insert` into every bucket. -/
def insertAll (value : V) :
    List (CkmsQuantiles V) → Option (List (CkmsQuantiles V))
  | [] => some []
  | bucket :: buckets => do
      let bucket ← bucket.insert doubles (CkmsQuantiles.allowableError doubles quantiles) value
      let buckets ← insertAll value buckets
      some (bucket :: buckets)

def insert (fuel : Nat) (window : TimeWindowQuantiles V) (now : Int) (value : V) :
    Option (TimeWindowQuantiles V) := do
  let window ← window.rotate fuel now
  let buckets ← insertAll doubles quantiles value window.buckets
  some { window with buckets }

def get (fuel : Nat) (window : TimeWindowQuantiles V) (now : Int) (q : D) :
    Option (TimeWindowQuantiles V × Option V) := do
  let window ← window.rotate fuel now
  let bucket ← window.buckets[window.currentBucket]?
  let (bucket, value) ←
    bucket.get doubles (CkmsQuantiles.allowableError doubles quantiles) q
  some ({ window with buckets := window.buckets.set window.currentBucket bucket }, value)

/-- The window after a call. -/
def call (fuel : Nat) (window : TimeWindowQuantiles V) :
    Reading V D → Option (TimeWindowQuantiles V)
  | .insert now value => window.insert doubles quantiles fuel now value
  | .get now q => (window.get doubles quantiles fuel now q).map Prod.fst

end

/-! ## What a bucket holds -/

/-- Exactly these values were inserted into the bucket since it was new or reset. -/
inductive Holds [LinearOrder V] (doubles : Doubles D) (quantiles : List (Quantile D)) :
    CkmsQuantiles V → List V → Prop where
  | initial : Holds doubles quantiles {} []
  | insert {bucket after : CkmsQuantiles V} {values : List V} {value : V} :
      Holds doubles quantiles bucket values →
      bucket.insert doubles (CkmsQuantiles.allowableError doubles quantiles) value = some after →
        Holds doubles quantiles after (values ++ [value])
  | get {bucket after : CkmsQuantiles V} {values : List V} {q : D} {result : Option V} :
      Holds doubles quantiles bucket values →
      bucket.get doubles (CkmsQuantiles.allowableError doubles quantiles) q =
        some (after, result) → Holds doubles quantiles after values

/-- The number of rotation boundaries before a reading. The boundaries lie a positive number of
intervals behind the start. -/
def passed (start interval now : Int) : Nat := ((now - start - 1) / interval).toNat

theorem le_passed_iff {interval : Int} (positive : 0 < interval) (start now : Int) (r : Nat) :
    r ≤ passed start interval now ↔ r = 0 ∨ start + r * interval < now := by
  rw [passed]
  have bound := Int.le_ediv_iff_mul_le (a := r) (b := now - start - 1) positive
  omega

/-- The observations of a list of readings. -/
def observations : List (Reading V D) → List (Int × V)
  | [] => []
  | .insert now value :: readings => (now, value) :: observations readings
  | .get _ _ :: readings => observations readings

/-- **The content of the window**: what was observed since the boundary that is followed by
`ageBuckets - 1` later ones, or since the start if there were fewer boundaries. -/
def recent (start interval : Int) (ageBuckets : Nat) (now : Int) (history : List (Int × V)) :
    List V :=
  let count := passed start interval now
  if count < ageBuckets then history.map Prod.snd
  else (history.filter fun observation =>
    start + (count - (ageBuckets - 1) : Nat) * interval < observation.1).map Prod.snd

/-- What was observed when at least `r` boundaries had passed. -/
def since (start interval : Int) (r : Nat) (history : List (Int × V)) : List V :=
  (history.filter fun observation => r ≤ passed start interval observation.1).map Prod.snd

theorem since_eq_recent {interval : Int} (positive : 0 < interval) (start now : Int)
    {ageBuckets : Nat} (nonempty : 1 ≤ ageBuckets) (history : List (Int × V)) :
    since start interval (passed start interval now + 1 - ageBuckets) history =
      recent start interval ageBuckets now history := by
  rw [since, recent]
  have bound (observation : Int × V) := le_passed_iff positive start observation.1
    (passed start interval now + 1 - ageBuckets)
  split
  · rename_i few
    have all : passed start interval now + 1 - ageBuckets = 0 := by omega
    rw [all]
    simp
  · rename_i many
    have same : passed start interval now - (ageBuckets - 1) =
        passed start interval now + 1 - ageBuckets := by
      omega
    rw [same]
    congr 1
    apply filter_congr
    intro observation _
    rw [decide_eq_decide, bound observation]
    have some : passed start interval now + 1 - ageBuckets ≠ 0 := by omega
    simp [some]

section

variable [LinearOrder V] {doubles : Doubles D} {quantiles : List (Quantile D)}

variable {bucket : CkmsQuantiles V} {values : List V} {now : Int} {fuel : Nat}

section

variable (holds : Holds doubles quantiles bucket values)

include holds

theorem Holds.represents :
    bucket.Represents values := by
  induction holds with
  | initial => exact CkmsQuantiles.represents_initial
  | insert _ inserted ih =>
    obtain ⟨after, inserted', represents⟩ := ih.insert _
    cases inserted.symm.trans inserted'
    exact represents
  | get _ got ih =>
    obtain ⟨after, result, got', represents, -⟩ := ih.get _
    cases got.symm.trans got'
    exact represents

theorem Holds.exists_insert (value : V) :
    ∃ after, bucket.insert doubles (CkmsQuantiles.allowableError doubles quantiles) value =
      some after ∧ Holds doubles quantiles after (values ++ [value]) := by
  obtain ⟨after, inserted, -⟩ := holds.represents.insert value
  exact ⟨after, inserted, holds.insert inserted⟩

theorem Holds.exists_get (q : D) :
    ∃ after result, bucket.get doubles (CkmsQuantiles.allowableError doubles quantiles) q =
      some (after, result) ∧ Holds doubles quantiles after values := by
  obtain ⟨after, result, got, -⟩ := holds.represents.get q
  exact ⟨after, result, got, holds.get got⟩

end

/-! ## The ring -/

/-- How many rotations later than the current bucket a bucket was reset. -/
def lead (ageBuckets current index : Nat) : Nat :=
  if current ≤ index then index - current else index + ageBuckets - current

variable (doubles quantiles) in
/-- **The ring after `count` rotations.** A bucket holds what was observed since the rotation
that reset it, or since the start. -/
structure Ring (start interval : Int) (ageBuckets count : Nat) (history : List (Int × V))
    (window : TimeWindowQuantiles V) : Prop where
  length : window.buckets.length = ageBuckets
  current : window.currentBucket < ageBuckets
  last : window.lastRotation = start + count * interval
  paced : window.rotationInterval = interval
  past : ∀ observation ∈ history, passed start interval observation.1 ≤ count
  holds : ∀ index < ageBuckets, ∃ bucket, window.buckets[index]? = some bucket ∧
    Holds doubles quantiles bucket
      (since start interval (count + lead ageBuckets window.currentBucket index + 1 - ageBuckets)
        history)

variable {start interval : Int} {ageBuckets count : Nat} {history : List (Int × V)}
  {window : TimeWindowQuantiles V}

omit [LinearOrder V] in
theorem since_of_past (past : ∀ observation ∈ history, passed start interval observation.1 ≤ count) :
    since start interval (count + 1) history = [] := by
  rw [since, map_eq_nil_iff, filter_eq_nil_iff]
  intro observation mem
  have before := past observation mem
  simp only [decide_eq_true_eq]
  omega

/-- One rotation. -/
theorem Ring.rotateOnce (ring : Ring doubles quantiles start interval ageBuckets count history window)
    (low : -2 ^ 63 ≤ start + (count + 1 : Nat) * interval)
    (high : start + (count + 1 : Nat) * interval < 2 ^ 63) :
    Ring doubles quantiles start interval ageBuckets (count + 1) history window.rotateOnce := by
  obtain ⟨length, current, last, same, past, holds⟩ := ring
  have step : window.lastRotation + window.rotationInterval =
      start + (count + 1 : Nat) * interval := by
    rw [last, same, Int.natCast_add, Int.add_mul, Int.natCast_one, Int.one_mul, Int.add_assoc]
  have next : window.rotateOnce.currentBucket =
      if window.currentBucket + 1 ≥ ageBuckets then 0 else window.currentBucket + 1 := by
    rw [← length]
    rfl
  refine ⟨?_, ?_, ?_, same, fun observation mem => (past observation mem).trans (Nat.le_succ _), ?_⟩
  · exact (length_modify _ _ _).trans length
  · rw [next]
    split <;> omega
  · show int64 (window.lastRotation + window.rotationInterval) = _
    rw [step, int64_of_fits low high]
  · intro index inside
    obtain ⟨bucket, here, held⟩ := holds index inside
    rw [next]
    by_cases reset : window.currentBucket = index
    · -- the bucket is reset, and there is no observation since
      refine ⟨{}, ?_, ?_⟩
      · show (window.buckets.modify window.currentBucket CkmsQuantiles.reset)[index]? = _
        rw [getElem?_modify, here]
        simp [reset, CkmsQuantiles.reset]
      · have latest : count + 1 + lead ageBuckets
            (if window.currentBucket + 1 ≥ ageBuckets then 0 else window.currentBucket + 1) index +
              1 - ageBuckets = count + 1 := by
          unfold lead
          split <;> split <;> omega
        rw [latest, since_of_past past]
        exact .initial
    · refine ⟨bucket, ?_, ?_⟩
      · show (window.buckets.modify window.currentBucket CkmsQuantiles.reset)[index]? = _
        rw [getElem?_modify, here]
        simp [reset]
      · have kept : count + 1 + lead ageBuckets
            (if window.currentBucket + 1 ≥ ageBuckets then 0 else window.currentBucket + 1) index +
              1 - ageBuckets =
            count + lead ageBuckets window.currentBucket index + 1 - ageBuckets := by
          unfold lead
          split <;> split <;> split <;> omega
        rw [kept]
        exact held

/-- The loop of `rotate`, `count` intervals behind the start: it ends when no boundary lies
before the clock any more. -/
theorem Ring.rotateLoop {delta : Int} (positive : 0 < interval) (low : -2 ^ 63 ≤ start)
    (high : now < 2 ^ 63)
    (ring : Ring doubles quantiles start interval ageBuckets count history window)
    (elapsed : delta = now - (start + count * interval)) (fits : delta < 2 ^ 63)
    (behind : count ≤ passed start interval now) (later : 0 ≤ delta) (enough : delta < fuel) :
    ∃ after, TimeWindowQuantiles.rotateLoop fuel window delta = some after ∧
      Ring doubles quantiles start interval ageBuckets (passed start interval now) history after := by
  induction fuel generalizing window count delta with
  | zero => omega
  | succ fuel ih =>
    have next : start + (count + 1 : Nat) * interval = start + count * interval + interval := by
      rw [Int.natCast_add, Int.add_mul, Int.natCast_one, Int.one_mul, Int.add_assoc]
    have further := le_passed_iff positive start now (count + 1)
    rw [next] at further
    have nonneg : 0 ≤ (count : Int) * interval :=
      Int.mul_nonneg (Int.natCast_nonneg _) positive.le
    rw [TimeWindowQuantiles.rotateLoop, ring.paced]
    split
    · rename_i more
      have fits' : int64 (delta - interval) = delta - interval :=
        int64_of_fits (by omega) (by omega)
      rw [fits']
      exact ih (ring.rotateOnce (by omega) (by omega)) (by rw [next]; omega) (by omega) (by omega)
        (by omega) (by omega)
    · have same : passed start interval now = count := by omega
      rw [same]
      exact ⟨window, rfl, ring⟩

/-- **`rotate` catches up with the clock.** -/
theorem Ring.rotate (positive : 0 < interval) (low : -2 ^ 63 ≤ start) (high : now < 2 ^ 63)
    (span : now - start < 2 ^ 63) (enough : now - start < fuel)
    (ring : Ring doubles quantiles start interval ageBuckets count history window)
    (behind : count ≤ passed start interval now) (later : start ≤ now) :
    ∃ after, window.rotate fuel now = some after ∧
      Ring doubles quantiles start interval ageBuckets (passed start interval now) history after := by
  have nonneg : 0 ≤ (count : Int) * interval :=
    Int.mul_nonneg (Int.natCast_nonneg _) positive.le
  have caught : start + count * interval ≤ now := by
    rcases (le_passed_iff positive start now count).mp behind with none | before
    · rw [none]
      omega
    · exact before.le
  have elapsed : int64 (now - window.lastRotation) = now - (start + count * interval) := by
    rw [ring.last]
    exact int64_of_fits (by omega) (by omega)
  rw [TimeWindowQuantiles.rotate, elapsed]
  exact ring.rotateLoop positive low high rfl (by omega) behind (by omega) (by omega)

/-- `insert` into every bucket, one by one. -/
theorem insertAll_spec {value : V} {buckets : List (CkmsQuantiles V)}
    (succeeds : ∀ bucket ∈ buckets, ∃ after, bucket.insert doubles
      (CkmsQuantiles.allowableError doubles quantiles) value = some after) :
    ∃ buckets', insertAll doubles quantiles value buckets = some buckets' ∧
      buckets'.length = buckets.length ∧
      ∀ (index : Nat) (bucket : CkmsQuantiles V), buckets[index]? = some bucket →
        ∃ after, buckets'[index]? = some after ∧ bucket.insert doubles
          (CkmsQuantiles.allowableError doubles quantiles) value = some after := by
  induction buckets with
  | nil => exact ⟨[], rfl, rfl, fun index bucket here => by simp at here⟩
  | cons bucket buckets ih =>
    obtain ⟨after, inserted⟩ := succeeds bucket mem_cons_self
    obtain ⟨buckets', rest, length, each⟩ :=
      ih fun other mem => succeeds other (mem_cons_of_mem _ mem)
    refine ⟨after :: buckets', ?_, by rw [length_cons, length, length_cons], ?_⟩
    · rw [insertAll, inserted, rest]
      rfl
    · intro index other here
      cases index with
      | zero =>
        cases here
        exact ⟨after, rfl, inserted⟩
      | succ index => exact each index other here

/-- An observation reaches every bucket. -/
theorem Ring.insertAll (value : V)
    (ring : Ring doubles quantiles start interval ageBuckets (passed start interval now) history
      window) :
    ∃ buckets, TimeWindowQuantiles.insertAll doubles quantiles value window.buckets = some buckets ∧
      Ring doubles quantiles start interval ageBuckets (passed start interval now)
        (history ++ [(now, value)]) { window with buckets } := by
  obtain ⟨length, current, last, paced, past, holds⟩ := ring
  have succeeds : ∀ bucket ∈ window.buckets, ∃ after, bucket.insert doubles
      (CkmsQuantiles.allowableError doubles quantiles) value = some after := by
    intro bucket mem
    obtain ⟨index, inside, here⟩ := getElem_of_mem mem
    obtain ⟨bucket', here', held⟩ := holds index (length ▸ inside)
    rw [getElem?_eq_getElem inside, here] at here'
    cases here'
    obtain ⟨after, inserted, -⟩ := held.exists_insert value
    exact ⟨after, inserted⟩
  obtain ⟨buckets, all, length', each⟩ := insertAll_spec succeeds
  refine ⟨buckets, all, length'.trans length, current, last, paced, ?_, ?_⟩
  · intro observation mem
    rcases mem_append.mp mem with before | this
    · exact past observation before
    · rw [mem_singleton.mp this]
  · intro index inside
    obtain ⟨bucket, here, held⟩ := holds index inside
    obtain ⟨after, here', inserted⟩ := each index bucket here
    refine ⟨after, here', ?_⟩
    -- the bucket was reset before the observation
    have early : passed start interval now + lead ageBuckets window.currentBucket index + 1 -
        ageBuckets ≤ passed start interval now := by
      unfold lead
      split <;> omega
    show Holds doubles quantiles after (since start interval (passed start interval now +
        lead ageBuckets window.currentBucket index + 1 - ageBuckets) (history ++ [(now, value)]))
    generalize passed start interval now + lead ageBuckets window.currentBucket index + 1 -
        ageBuckets = r at held early ⊢
    have more : since start interval r (history ++ [(now, value)]) =
        since start interval r history ++ [value] := by
      rw [since, since, filter_append, map_append]
      simp [early]
    rw [more]
    exact held.insert inserted

/-- A query leaves in every bucket what it held. -/
theorem Ring.get {q : D}
    (ring : Ring doubles quantiles start interval ageBuckets count history window) :
    ∃ bucket after result, window.buckets[window.currentBucket]? = some bucket ∧
      bucket.get doubles (CkmsQuantiles.allowableError doubles quantiles) q =
        some (after, result) ∧
      Ring doubles quantiles start interval ageBuckets count history
        { window with buckets := window.buckets.set window.currentBucket after } := by
  obtain ⟨length, current, last, paced, past, holds⟩ := ring
  obtain ⟨bucket, here, held⟩ := holds window.currentBucket current
  obtain ⟨after, result, got, held'⟩ := held.exists_get q
  refine ⟨bucket, after, result, here, got, (length_set ..).trans length, current, last, paced,
    past, ?_⟩
  intro index inside
  by_cases queried : window.currentBucket = index
  · subst queried
    exact ⟨after, getElem?_set_self (length ▸ current), held'⟩
  · obtain ⟨other, here', held''⟩ := holds index inside
    exact ⟨other, (getElem?_set_ne queried).trans here', held''⟩

theorem passed_mono {prev : Int} (positive : 0 < interval) (later : prev ≤ now) :
    passed start interval prev ≤ passed start interval now := by
  rcases (le_passed_iff positive start prev _).mp (Nat.le_refl _) with none | before
  · omega
  · exact (le_passed_iff positive start now _).mpr (.inr (before.trans_le later))

/-- The ring along a run whose readings do not decrease. -/
theorem Ring.exec {prev : Int} (positive : 0 < interval) (low : -2 ^ 63 ≤ start)
    (high : now < 2 ^ 63) (span : now - start < 2 ^ 63) (enough : now - start < fuel)
    {readings : List (Reading V D)}
    (ring : Ring doubles quantiles start interval ageBuckets (passed start interval prev) history
      window) (begun : start ≤ prev)
    (ordered : (prev :: (readings.map Reading.now ++ [now])).Pairwise (· ≤ ·)) :
    ∃ middle after, exec (call doubles quantiles fuel) window readings = some middle ∧
      middle.rotate fuel now = some after ∧
      Ring doubles quantiles start interval ageBuckets (passed start interval now)
        (history ++ observations readings) after := by
  induction readings generalizing prev history window with
  | nil =>
    have later : prev ≤ now := (pairwise_cons.mp ordered).1 now (by simp)
    obtain ⟨after, rotated, ring'⟩ := ring.rotate positive low high span enough
      (passed_mono positive later) (begun.trans later)
    exact ⟨window, after, rfl, rotated, by rwa [observations, append_nil]⟩
  | cons reading readings ih =>
    obtain ⟨first, rest⟩ := pairwise_cons.mp ordered
    have later : prev ≤ reading.now := first _ (by simp)
    have final : reading.now ≤ now := (pairwise_cons.mp rest).1 now (by simp)
    obtain ⟨rotated, rotates, ring'⟩ := ring.rotate positive low (by omega) (by omega)
      (by omega : reading.now - start < fuel) (passed_mono positive later) (begun.trans later)
    cases reading with
    | insert time value =>
      obtain ⟨buckets, inserted, ring''⟩ := ring'.insertAll value
      obtain ⟨middle, after, executed, caught, last⟩ := ih ring'' (begun.trans later) rest
      refine ⟨middle, after, ?_, caught, ?_⟩
      · rw [exec, call, TimeWindowQuantiles.insert]
        change (window.rotate fuel time = _) at rotates
        rw [rotates, Option.bind_eq_bind, Option.bind_some, inserted]
        exact executed
      · rwa [observations, ← singleton_append, ← append_assoc]
    | get time q =>
      obtain ⟨bucket, queried, result, here, got, ring''⟩ := ring'.get (q := q)
      obtain ⟨middle, after, executed, caught, last⟩ := ih ring'' (begun.trans later) rest
      refine ⟨middle, after, ?_, caught, last⟩
      rw [exec, call, TimeWindowQuantiles.get]
      change (window.rotate fuel time = _) at rotates
      rw [rotates, Option.bind_eq_bind, Option.bind_some, here]
      simp only [Option.bind_eq_bind, Option.bind_some]
      rw [got]
      exact executed

variable (doubles quantiles) in
theorem ring_make {timeWindow start : Int} {ageBuckets : Nat} (nonempty : 1 ≤ ageBuckets)
    (paced : intervalOf timeWindow ageBuckets = interval) :
    Ring doubles quantiles start interval ageBuckets 0 []
      (make timeWindow ageBuckets start : TimeWindowQuantiles V) := by
  refine ⟨length_replicate, nonempty, ?_, (rotationInterval_make _ _ _).trans paced, by simp,
    ?_⟩
  · show start = _
    rw [Int.natCast_zero, Int.zero_mul, Int.add_zero]
  · intro index inside
    exact ⟨{}, getElem?_replicate_of_lt inside, .initial⟩

/-- **The time window.** If a bucket gets a whole millisecond or more, and at most as many as fit
into the nanoseconds of the clock, then along every run whose readings do not decrease every
rotation ends, with a current bucket inside of the ring that holds what was observed in the
window. -/
theorem rotate_recent (doubles : Doubles D) (quantiles : List (Quantile D)) {timeWindow : Int}
    {ageBuckets : Nat} {start now : Int} {readings : List (Reading V D)} {fuel : Nat}
    (representable : timeWindow < 2 ^ 63) (nonempty : 1 ≤ ageBuckets)
    (positive : ageBuckets ≤ timeWindow) (fits : timeWindow / ageBuckets * 1000000 < 2 ^ 63)
    (low : -2 ^ 63 ≤ start) (high : now < 2 ^ 63) (span : now - start < 2 ^ 63)
    (ordered : (start :: (readings.map Reading.now ++ [now])).Pairwise (· ≤ ·))
    (enough : now - start < fuel) :
    ∃ window after bucket,
      exec (call doubles quantiles fuel) (make timeWindow ageBuckets start) readings =
        some window ∧
      window.rotate fuel now = some after ∧ after.currentBucket < after.buckets.length ∧
      after.buckets[after.currentBucket]? = some bucket ∧
      Holds doubles quantiles bucket (recent start (timeWindow / ageBuckets * 1000000) ageBuckets
        now (observations readings)) := by
  have whole : 1 ≤ timeWindow / ageBuckets :=
    (Int.le_ediv_iff_mul_le (by omega)).mpr (by omega)
  have interval : intervalOf timeWindow ageBuckets = timeWindow / ageBuckets * 1000000 := by
    have window : ((timeWindow % 2 ^ 64).toNat : Int) = timeWindow := by omega
    have exact : (((timeWindow % 2 ^ 64).toNat / ageBuckets : Nat) : Int) =
        timeWindow / ageBuckets := by
      rw [Int.natCast_ediv, window]
    rw [intervalOf, exact]
    exact int64_of_fits (by omega) fits
  have faster : 0 < timeWindow / ageBuckets * 1000000 := by omega
  have initially : passed start (timeWindow / ageBuckets * 1000000) start = 0 := by
    have first := le_passed_iff faster start start 1
    omega
  have ring : Ring doubles quantiles start _ ageBuckets 0 []
      (make timeWindow ageBuckets start : TimeWindowQuantiles V) :=
    ring_make doubles quantiles nonempty interval
  rw [← initially] at ring
  obtain ⟨window, after, executed, rotated, ring'⟩ :=
    ring.exec faster low high span enough (le_refl start) ordered
  obtain ⟨bucket, here, held⟩ := ring'.holds after.currentBucket ring'.current
  have current : lead ageBuckets after.currentBucket after.currentBucket = 0 := by
    rw [lead, if_pos (Nat.le_refl _), Nat.sub_self]
  rw [current, Nat.add_zero, since_eq_recent faster _ _ nonempty, nil_append] at held
  exact ⟨window, after, bucket, executed, rotated, ring'.length ▸ ring'.current, here, held⟩

end

/-- Natural numbers for `double`. -/
def natDoubles : Doubles Nat where
  ofNat := id
  toNat := id
  add := (· + ·)
  sub := (· - ·)
  mul := (· * ·)
  div := (· / ·)
  floor := id
  le first second := first ≤ second
  lt first second := first < second

/-- Ten milliseconds in two buckets: at 12 ms, what was observed at 1 ms has left the window. -/
theorem tenMilliseconds : ∃ window after bucket,
    exec (call natDoubles [] 12000001) (make 10 2 0)
      [.insert 1000000 (7 : Nat), .insert 6000000 8] = some window ∧
    window.rotate 12000001 12000000 = some after ∧
    after.currentBucket < after.buckets.length ∧
    after.buckets[after.currentBucket]? = some bucket ∧
    Holds natDoubles [] bucket [8] := by
  obtain ⟨window, after, bucket, executed, rotated, inside, here, holds⟩ :=
    rotate_recent natDoubles [] (by decide : (10 : Int) < 2 ^ 63) (by decide : 1 ≤ 2) (by decide)
      (by decide) (by decide : -2 ^ 63 ≤ (0 : Int)) (by decide : (12000000 : Int) < 2 ^ 63)
      (by decide) (by decide : (0 :: ([Reading.insert 1000000 (7 : Nat), .insert 6000000 8].map
        Reading.now ++ [12000000])).Pairwise (· ≤ ·)) (by decide : _ < ((12000001 : Nat) : Int))
  exact ⟨window, after, bucket, executed, rotated, inside, here, holds⟩

/-! ## More buckets than milliseconds -/

theorem rotateLoop_none (fuel : Nat) {window : TimeWindowQuantiles V} {delta : Int}
    (still : window.rotationInterval = 0) (moved : 0 < delta) (fits : delta < 2 ^ 63) :
    rotateLoop fuel window delta = none := by
  induction fuel generalizing window with
  | zero => rfl
  | succ fuel ih =>
    have same : int64 (delta - window.rotationInterval) = delta := by
      rw [still, Int.sub_zero]
      exact int64_of_fits (by omega) fits
    rw [rotateLoop, if_pos (by omega), same]
    exact ih still

/-- **`rotate` does not end** for a window of fewer milliseconds than buckets. -/
theorem rotate_none {timeWindow : Int} {ageBuckets : Nat} {start now : Int} (low : 0 ≤ timeWindow)
    (short : timeWindow < ageBuckets) (representable : timeWindow < 2 ^ 63) (moved : start < now)
    (fits : now - start < 2 ^ 63) (fuel : Nat) :
    (make timeWindow ageBuckets start : TimeWindowQuantiles V).rotate fuel now = none := by
  have still : intervalOf timeWindow ageBuckets = 0 := by
    have none : (timeWindow % 2 ^ 64).toNat / ageBuckets = 0 := Nat.div_eq_of_lt (by omega)
    rw [intervalOf, none]
    rfl
  have elapsed : int64 (now - start) = now - start := int64_of_fits (by omega) fits
  rw [rotate]
  show rotateLoop fuel _ (int64 (now - start)) = none
  rw [elapsed]
  exact rotateLoop_none fuel ((rotationInterval_make _ _ _).trans still) (by omega) fits

/-- Four milliseconds in five buckets: the first rotation does not end. -/
theorem fourMilliseconds :
    ¬∃ fuel window, (make 4 5 0 : TimeWindowQuantiles Nat).rotate fuel 1 = some window := by
  rintro ⟨fuel, window, ended⟩
  rw [rotate_none (by decide) (by decide) (by decide) (by decide) (by decide)] at ended
  cases ended

end TimeWindowQuantiles

end Rstream.Core
