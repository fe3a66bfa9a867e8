import Rstream.Library.Decimals
import Rstream.Library.Gregorian
import Rstream.Webtty.Server.ClientProof

/-!
# The times of a proof

The parser of the times of a proof accepts the texts of the dates and times of the years 0 to
9999, and counts the seconds between the epoch and the instant that a text names. The count
starts from a number of days that is computed in eras of 400 years that begin in March, where
the leap day is the last day of a year.

The window of a proof is checked in nanoseconds of 64 bits, which reach 292 years in both
directions only.
-/

namespace Rstream.Webtty.Server

open Library Gregorian Option Nat List

/-! ## The number of a day -/

/-- `days_from_civil` with the wrapping arithmetic of `unsigned`: a month after February is
shifted by adding `2 ^ 32 - 3`. -/
def daysFromCivilUnsigned (year : Int) (month day : Nat) : Int :=
  let year := if month ≤ 2 then year - 1 else year
  let era := (if 0 ≤ year then year else year - 399).tdiv 400
  let yoe : Nat := ((year - era * 400) % 2 ^ 32).toNat
  let shifted : Nat := (month + if 2 < month then 2 ^ 32 - 3 else 9) % 2 ^ 32
  let doy : Nat := ((153 * shifted + 2) % 2 ^ 32 / 5 + day + (2 ^ 32 - 1)) % 2 ^ 32
  let doe : Nat := (yoe * 365 + yoe / 4 - yoe / 100 + doy) % 2 ^ 32
  era * 146097 + doe - 719468

/-- The division that rounds towards zero is made to round down. -/
theorem era_eq {year : Int} (inRange : -1 ≤ year) :
    (if 0 ≤ year then year else year - 399).tdiv 400 = year / 400 := by
  split
  · rename_i nonneg
    exact Int.tdiv_eq_ediv_of_nonneg nonneg
  · have before : year = -1 := by omega
    rw [before]
    decide

variable {month offset : Nat} {value : Bytes}

theorem daysFromCivilUnsigned_eq {year day : Nat} (inYear : 1 ≤ month ∧ month ≤ 12)
    (inMonth : 1 ≤ day ∧ day ≤ 31) :
    daysFromCivilUnsigned year month day = daysFromCivil year month day := by
  rw [daysFromCivilUnsigned, daysFromCivil]
  have shifted : -1 ≤ if month ≤ 2 then (year : Int) - 1 else year := by split <;> omega
  rw [era_eq shifted]
  have moved : (month + if 2 < month then 2 ^ 32 - 3 else 9) % 2 ^ 32 =
      if 2 < month then month - 3 else month + 9 := by
    split <;> omega
  have small : (if 2 < month then month - 3 else month + 9) ≤ 11 := by split <;> omega
  rw [moved]
  generalize (if month ≤ 2 then (year : Int) - 1 else year) = marchYear at *
  generalize (if 2 < month then month - 3 else month + 9) = marchMonth at *
  have rest : (marchYear - marchYear / 400 * 400) % 2 ^ 32 = marchYear - marchYear / 400 * 400 := by
    omega
  have low : (marchYear - marchYear / 400 * 400).toNat < 400 := by omega
  rw [rest]
  generalize (marchYear - marchYear / 400 * 400).toNat = yoe at *
  have product : (153 * marchMonth + 2) % 2 ^ 32 = 153 * marchMonth + 2 :=
    mod_eq_of_lt (by omega)
  have doy : ((153 * marchMonth + 2) / 5 + day + (2 ^ 32 - 1)) % 2 ^ 32 =
      (153 * marchMonth + 2) / 5 + day - 1 := by
    omega
  have doe : (yoe * 365 + yoe / 4 - yoe / 100 + ((153 * marchMonth + 2) / 5 + day - 1)) % 2 ^ 32 =
      yoe * 365 + yoe / 4 - yoe / 100 + ((153 * marchMonth + 2) / 5 + day - 1) :=
    mod_eq_of_lt (by omega)
  rw [product, doy, doe]

theorem dayNumber_epoch : dayNumber 1970 1 1 = 719528 := by
  have years := yearStart_eq 1970
  have months : monthsLength 1970 (1 - 1) = 0 := rfl
  rw [dayNumber, months]
  omega

theorem marchYears_eq (march : Int) :
    march / 400 * 146097 + ((march - march / 400 * 400).toNat * 365 +
        (march - march / 400 * 400).toNat / 4 - (march - march / 400 * 400).toNat / 100 : Nat) =
      365 * march + march / 4 - march / 100 + march / 400 := by
  obtain ⟨yoe, same⟩ := Int.eq_ofNat_of_zero_le (by omega : 0 ≤ march - march / 400 * 400)
  have whole : march = march / 400 * 400 + yoe := by omega
  rw [same, Int.toNat_natCast]
  generalize march / 400 = era at *
  rw [whole]
  have fourth : (era * 400 + yoe : Int) / 4 = era * 100 + (yoe / 4 : Nat) := by omega
  have century : (era * 400 + yoe : Int) / 100 = era * 4 + (yoe / 100 : Nat) := by omega
  have less : yoe / 100 ≤ yoe / 4 := by omega
  rw [fourth, century]
  generalize yoe / 4 = fourths at *
  generalize yoe / 100 = centuries at *
  omega

/-- The days before a year, counted in years that begin in March. -/
theorem yearStart_early (year : Nat) :
    (yearStart year : Int) =
      365 * ((year : Int) - 1) + ((year : Int) - 1) / 4 - ((year : Int) - 1) / 100 +
        ((year : Int) - 1) / 400 + 366 := by
  have years := yearStart_eq year
  have fourth : ((year : Int) - 1) / 4 + 1 = ((year + 3) / 4 : Nat) := by omega
  have century : ((year : Int) - 1) / 100 + 1 = ((year + 99) / 100 : Nat) := by omega
  have era : ((year : Int) - 1) / 400 + 1 = ((year + 399) / 400 : Nat) := by omega
  omega

/-- The days before a year and its leap day, counted in years that begin in March. -/
theorem yearStart_late (year : Nat) :
    (yearStart year : Int) + (if IsLeap year then 1 else 0 : Nat) =
      365 * year + (year : Int) / 4 - (year : Int) / 100 + (year : Int) / 400 + 1 := by
  have next := yearStart_early (year + 1)
  have shift : ((year + 1 : Nat) : Int) - 1 = year := by omega
  rw [yearStart, monthsLength_year, shift] at next
  omega

theorem marchMonths_eq (year : Nat) (late : 2 < month) (inYear : month ≤ 12) :
    monthsLength year (month - 1) =
      (153 * (month - 3) + 2) / 5 + 59 + if IsLeap year then 1 else 0 := by
  have months : (153 * (month - 3) + 2) / 5 + 59 =
      [0, 31, 59, 90, 120, 151, 181, 212, 243, 273, 304, 334, 365].getD (month - 1) 0 := by
    interval_cases month <;> rfl
  have second : 2 ≤ month - 1 := by omega
  rw [monthsLength_eq year (by omega), months]
  simp only [second, true_and]

/-- **`days_from_civil` counts the days** from the epoch on. -/
theorem daysFromCivil_eq (year : Nat) {day : Nat} (inYear : 1 ≤ month ∧ month ≤ 12)
    (first : 1 ≤ day) :
    daysFromCivil year month day = dayNumber year month day - dayNumber 1970 1 1 := by
  have shifted : -1 ≤ if month ≤ 2 then (year : Int) - 1 else year := by split <;> omega
  rw [dayNumber_epoch, daysFromCivil, dayNumber, era_eq shifted]
  by_cases late : 2 < month
  · -- The leap day of the year, if it has one, is over.
    have march := marchYears_eq year
    have years := yearStart_late year
    rw [if_neg (by omega), if_pos late, marchMonths_eq year late inYear.2]
    generalize (153 * (month - 3) + 2) / 5 = months at *
    omega
  · have march := marchYears_eq (year - 1)
    have years := yearStart_early year
    rw [if_pos (by omega), if_neg late]
    obtain rfl | rfl : month = 1 ∨ month = 2 := by omega
    · have months : monthsLength year (1 - 1) = 0 := rfl
      omega
    · have months : monthsLength year (2 - 1) = 31 := rfl
      omega

/-! ## The parser -/

/-- `total_seconds` of `parse_rfc3339_utc`. -/
def totalSeconds (value : Bytes) : Option Int := do
  if value.length ≠ 20 ∨ value[4]? ≠ some 45 ∨ value[7]? ≠ some 45 ∨ value[10]? ≠ some 84 ∨
      value[13]? ≠ some 58 ∨ value[16]? ≠ some 58 ∨ value[19]? ≠ some 90 then none
  let year ← parseFixedDigits value 0 4 0
  let month ← parseFixedDigits value 5 2 0
  let day ← parseFixedDigits value 8 2 0
  let hour ← parseFixedDigits value 11 2 0
  let minute ← parseFixedDigits value 14 2 0
  let second ← parseFixedDigits value 17 2 0
  if month < 1 ∨ 12 < month ∨ day < 1 ∨ daysInMonth year month < day ∨ 23 < hour ∨ 59 < minute ∨
      59 < second then none
  some (daysFromCivilUnsigned year month day * 86400 + hour * 3600 + minute * 60 + second)

/-- A date of the calendar and a time of the day. -/
structure CivilTime where
  year : Nat
  month : Nat
  day : Nat
  hour : Nat
  minute : Nat
  second : Nat
  inRange : year ≤ 9999
  inYear : 1 ≤ month ∧ month ≤ 12
  inMonth : 1 ≤ day ∧ day ≤ monthLength year month
  inDay : hour ≤ 23
  inHour : minute ≤ 59
  inMinute : second ≤ 59

namespace CivilTime

/-- `YYYY-MM-DDTHH:MM:SSZ`. -/
def text (time : CivilTime) : Bytes :=
  decimal 4 time.year ++ 45 :: (decimal 2 time.month ++ 45 :: (decimal 2 time.day ++
    84 :: (decimal 2 time.hour ++ 58 :: (decimal 2 time.minute ++
      58 :: (decimal 2 time.second ++ [90])))))

/-- The seconds from the epoch to the instant. -/
def instant (time : CivilTime) : Int :=
  ((dayNumber time.year time.month time.day : Int) - dayNumber 1970 1 1) * 86400 +
    time.hour * 3600 + time.minute * 60 + time.second

end CivilTime

theorem isLeapYear_iff (year : Nat) : isLeapYear year = true ↔ IsLeap year := by
  simp only [isLeapYear, Bool.or_eq_true, Bool.and_eq_true, beq_iff_eq, bne_iff_ne, IsLeap]
  omega

theorem daysInMonth_eq (year : Nat) (inYear : 1 ≤ month ∧ month ≤ 12) :
    daysInMonth year month = monthLength year month := by
  obtain ⟨low, high⟩ := inYear
  have leap := isLeapYear_iff year
  interval_cases month <;> simp [daysInMonth, monthLength, leap]

theorem monthLength_le (year month : Nat) : monthLength year month ≤ 31 := by
  unfold monthLength
  split
  · split <;> decide
  all_goals decide

theorem parseDigit_eq_some {digit : Nat} :
    parseDigit value offset = some digit ↔
      digit < 10 ∧ value[offset]? = some (UInt8.ofNat (48 + digit)) := by
  rw [parseDigit]
  cases value[offset]? with
  | none => simp
  | some byte =>
    dsimp only
    have bytes : byte = UInt8.ofNat (48 + digit) ↔ byte.toNat = (48 + digit) % 256 := by
      rw [← UInt8.toNat_inj, UInt8.toNat_ofNat']
    have low : 48 ≤ byte ↔ 48 ≤ byte.toNat := UInt8.le_iff_toNat_le
    have high : byte ≤ 57 ↔ byte.toNat ≤ 57 := UInt8.le_iff_toNat_le
    have small := byte.toNat_lt
    simp only [some.injEq, bytes, low, high]
    split
    · rw [some.injEq]
      omega
    · simp only [reduceCtorEq, false_iff]
      omega

/-- **The digits of a field** are those of the number that is read. -/
theorem parseFixedDigits_eq_some {length dst result : Nat} :
    parseFixedDigits value offset length dst = some result ↔
      ∃ number < 10 ^ length, (value.drop offset).take length = decimal length number ∧
        result = dst * 10 ^ length + number := by
  induction length generalizing offset dst with
  | zero =>
    rw [parseFixedDigits, some.injEq, take_zero]
    constructor
    · rintro rfl
      exact ⟨0, one_pos, rfl, by omega⟩
    · rintro ⟨number, small, -, rfl⟩
      omega
  | succ length ih =>
    rw [parseFixedDigits]
    cases read : parseDigit value offset with
    | none =>
      simp only [reduceCtorEq, false_iff]
      rintro ⟨number, small, digits, -⟩
      cases rest : value.drop offset with
      | nil =>
        rw [rest, take_nil, decimal] at digits
        cases digits
      | cons byte tail =>
        rw [rest, take_succ_cons, decimal, cons.injEq] at digits
        have here : value[offset]? = some byte := by
          rw [← add_zero offset, ← getElem?_drop, rest]
          rfl
        have found : parseDigit value offset = some (number / 10 ^ length % 10) := by
          rw [parseDigit_eq_some]
          exact ⟨mod_lt _ (by decide), here.trans (congrArg some digits.1)⟩
        cases read.symm.trans found
    | some digit =>
      rw [parseDigit_eq_some] at read
      obtain ⟨small, here⟩ := read
      have rest : value.drop offset =
          UInt8.ofNat (48 + digit) :: value.drop (offset + 1) := by
        obtain ⟨bound, same⟩ := List.getElem?_eq_some_iff.mp here
        rw [drop_eq_getElem_cons bound, same]
      dsimp only
      rw [ih, rest, take_succ_cons]
      constructor
      · rintro ⟨number, below, digits, rfl⟩
        refine ⟨digit * 10 ^ length + number, ?_, ?_, ?_⟩
        · calc digit * 10 ^ length + number
              < digit * 10 ^ length + 10 ^ length := Nat.add_lt_add_left below _
            _ = (digit + 1) * 10 ^ length := (succ_mul _ _).symm
            _ ≤ 10 * 10 ^ length := mul_le_mul_right _ small
            _ = 10 ^ (length + 1) := by rw [pow_succ, mul_comm]
        · rw [decimal_succ small below, digits]
        · rw [pow_succ, add_mul, mul_assoc, mul_comm 10, add_assoc]
      · rintro ⟨number, below, digits, rfl⟩
        have positive : 0 < 10 ^ length := Nat.pow_pos (by decide)
        have split := div_add_mod number (10 ^ length)
        have lead : number / 10 ^ length < 10 :=
          Nat.div_lt_of_lt_mul (by rwa [Nat.pow_succ] at below)
        rw [decimal, cons.injEq, ofNat_digit_inj small (mod_lt _ (by decide)),
          mod_eq_of_lt lead] at digits
        refine ⟨number % 10 ^ length, mod_lt _ positive, digits.2, ?_⟩
        rw [pow_succ, digits.1, add_mul, mul_assoc, mul_comm 10, add_assoc,
          mul_comm (number / _), split]

theorem parseFixedDigits_zero {length number : Nat} :
    parseFixedDigits value offset length 0 = some number ↔
      number < 10 ^ length ∧ (value.drop offset).take length = decimal length number := by
  rw [parseFixedDigits_eq_some]
  constructor
  · rintro ⟨other, small, digits, same⟩
    rw [zero_mul, zero_add] at same
    exact same ▸ ⟨small, digits⟩
  · rintro ⟨small, digits⟩
    exact ⟨number, small, digits, by omega⟩

/-- What follows an offset, when a separator stands behind a field. -/
theorem drop_eq_field {byte : UInt8} (offset length : Nat)
    (here : value[offset + length]? = some byte) :
    value.drop offset =
      (value.drop offset).take length ++ byte :: value.drop (offset + length + 1) := by
  obtain ⟨bound, same⟩ := List.getElem?_eq_some_iff.mp here
  rw [← same, ← drop_eq_getElem_cons bound, ← drop_drop, take_append_drop]

/-- **The parser accepts the texts of dates and times**, and counts the seconds to the instant. -/
theorem totalSeconds_eq_some {total : Int} :
    totalSeconds value = some total ↔ ∃ time : CivilTime, value = time.text ∧ total = time.instant := by
  constructor
  · intro parsed
    unfold totalSeconds at parsed
    split at parsed
    · cases parsed
    rename_i format
    simp only [not_or, ne_eq, not_not] at format
    obtain ⟨length, dash, dash', letter, colon, colon', zulu⟩ := format
    obtain ⟨year, yearRead, parsed⟩ := bind_eq_some_iff.mp parsed
    obtain ⟨month, monthRead, parsed⟩ := bind_eq_some_iff.mp parsed
    obtain ⟨day, dayRead, parsed⟩ := bind_eq_some_iff.mp parsed
    obtain ⟨hour, hourRead, parsed⟩ := bind_eq_some_iff.mp parsed
    obtain ⟨minute, minuteRead, parsed⟩ := bind_eq_some_iff.mp parsed
    obtain ⟨second, secondRead, parsed⟩ := bind_eq_some_iff.mp parsed
    split at parsed
    · cases parsed
    rename_i valid
    simp only [not_or, not_lt] at valid
    obtain ⟨months, months', days, days', hours, minutes, seconds⟩ := valid
    rw [daysInMonth_eq year ⟨months, months'⟩] at days'
    rw [parseFixedDigits_zero] at yearRead monthRead dayRead hourRead minuteRead secondRead
    have years := yearRead.1
    refine ⟨⟨year, month, day, hour, minute, second, by omega, ⟨months, months'⟩, ⟨days, days'⟩,
      hours, minutes, seconds⟩, ?_, ?_⟩
    · have last : value.drop 20 = [] := drop_of_length_le (le_of_eq length)
      calc value = value.drop 0 := rfl
        _ = _ := by
          rw [drop_eq_field 0 4 dash, yearRead.2, drop_eq_field 5 2 dash', monthRead.2,
            drop_eq_field 8 2 letter, dayRead.2, drop_eq_field 11 2 colon, hourRead.2,
            drop_eq_field 14 2 colon', minuteRead.2, drop_eq_field 17 2 zulu, secondRead.2, last]
          rfl
    · rw [← some.inj parsed, daysFromCivilUnsigned_eq ⟨months, months'⟩
        ⟨days, days'.trans (monthLength_le _ _)⟩, daysFromCivil_eq year ⟨months, months'⟩ days]
      rfl
  · rintro ⟨time, rfl, same⟩
    rw [same]
    have field {offset length number : Nat} (small : number < 10 ^ length)
        (digits : (time.text.drop offset).take length = decimal length number) :=
      Iff.mpr parseFixedDigits_zero ⟨small, digits⟩
    have inRange := time.inRange
    have inYear := time.inYear
    have inMonth := time.inMonth
    have inDay := time.inDay
    have inHour := time.inHour
    have inMinute := time.inMinute
    have short := monthLength_le time.year time.month
    have day := daysInMonth_eq time.year inYear
    unfold totalSeconds
    rw [if_neg (by
        rintro (length | dash | dash' | letter | colon | colon' | zulu)
        · exact length rfl
        · exact dash rfl
        · exact dash' rfl
        · exact letter rfl
        · exact colon rfl
        · exact colon' rfl
        · exact zulu rfl),
      field (by omega : time.year < 10 ^ 4) rfl, field (by omega : time.month < 10 ^ 2) rfl,
      field (by omega : time.day < 10 ^ 2) rfl, field (by omega : time.hour < 10 ^ 2) rfl,
      field (by omega : time.minute < 10 ^ 2) rfl, field (by omega : time.second < 10 ^ 2) rfl]
    simp only [bind_eq_bind, bind_some]
    rw [if_neg (by omega), daysFromCivilUnsigned_eq inYear ⟨inMonth.1, inMonth.2.trans short⟩,
      daysFromCivil_eq _ inYear inMonth.1]
    rfl

/-- The parser gives the seconds in nanoseconds. -/
theorem parseRfc3339Utc_eq (value : Bytes) :
    parseRfc3339Utc value = (totalSeconds value).map fun total => wrap64 (total * 1000000000) := by
  unfold parseRfc3339Utc totalSeconds
  split
  · rfl
  rcases parseFixedDigits value 0 4 0 with _ | year
  · rfl
  rcases parseFixedDigits value 5 2 0 with _ | month
  · rfl
  rcases parseFixedDigits value 8 2 0 with _ | day
  · rfl
  rcases parseFixedDigits value 11 2 0 with _ | hour
  · rfl
  rcases parseFixedDigits value 14 2 0 with _ | minute
  · rfl
  rcases parseFixedDigits value 17 2 0 with _ | second
  · rfl
  simp only [bind_eq_bind, bind_some]
  split
  · rfl
  rename_i valid
  simp only [not_or, not_lt] at valid
  obtain ⟨months, months', days, days', -⟩ := valid
  rw [daysInMonth_eq year ⟨months, months'⟩] at days'
  rw [daysFromCivilUnsigned_eq ⟨months, months'⟩ ⟨days, days'.trans (monthLength_le _ _)⟩]
  rfl

/-! ## The order of times -/

namespace CivilTime

/-- The order of the texts, field by field. -/
theorem text_lt_iff_fields (first second : CivilTime) : first.text < second.text ↔
    first.year < second.year ∨ first.year = second.year ∧
    (first.month < second.month ∨ first.month = second.month ∧
    (first.day < second.day ∨ first.day = second.day ∧
    (first.hour < second.hour ∨ first.hour = second.hour ∧
    (first.minute < second.minute ∨ first.minute = second.minute ∧
      first.second < second.second)))) := by
  have two {number : Nat} (small : number ≤ 59) : number < 10 ^ 2 := by omega
  have years := lt_succ_of_le first.inRange
  have years' := lt_succ_of_le second.inRange
  have month := two (first.inYear.2.trans (by decide))
  have month' := two (second.inYear.2.trans (by decide))
  have day := two ((first.inMonth.2.trans (monthLength_le _ _)).trans (by decide))
  have day' := two ((second.inMonth.2.trans (monthLength_le _ _)).trans (by decide))
  have hour := two (first.inDay.trans (by decide))
  have hour' := two (second.inDay.trans (by decide))
  have minute := two first.inHour
  have minute' := two second.inHour
  have seconds := two first.inMinute
  have seconds' := two second.inMinute
  have field {width number number' : Nat} {rest rest' : Bytes} (small : number < 10 ^ width)
      (small' : number' < 10 ^ width) :
      decimal width number ++ rest < decimal width number' ++ rest' ↔
        number < number' ∨ number = number' ∧ rest < rest' := by
    rw [append_lt_append_iff ((length_decimal _ _).trans (length_decimal _ _).symm),
      decimal_lt_iff small small', decimal_inj small small']
  rw [text, text, field years years', cons_lt_cons_self, field month month',
    cons_lt_cons_self, field day day', cons_lt_cons_self, field hour hour',
    cons_lt_cons_self, field minute minute', cons_lt_cons_self, field seconds seconds']
  simp

theorem text_trichotomy (first second : CivilTime) :
    first.text < second.text ∨ first.text = second.text ∨ second.text < first.text := by
  by_cases same : first.year = second.year ∧ first.month = second.month ∧ first.day = second.day ∧
      first.hour = second.hour ∧ first.minute = second.minute ∧ first.second = second.second
  · obtain ⟨year, month, day, hour, minute, seconds⟩ := same
    refine .inr (.inl ?_)
    rw [text, text, year, month, day, hour, minute, seconds]
  · rw [text_lt_iff_fields, text_lt_iff_fields]
    omega

theorem instant_lt_of_text_lt {first second : CivilTime} (less : first.text < second.text) :
    first.instant < second.instant := by
  have later := @dayNumber_lt first.year first.month first.day second.year second.month second.day
    first.inYear.2 first.inMonth first.inYear.1
  have inDay := first.inDay
  have inHour := first.inHour
  have inMinute := first.inMinute
  rw [instant, instant]
  rcases (text_lt_iff_fields first second).mp less with year | ⟨year, month | ⟨month, day |
    ⟨day, rest⟩⟩⟩
  · have := later (.inl year)
    omega
  · have := later (.inr ⟨year, .inl month⟩)
    omega
  · have := later (.inr ⟨year, .inr ⟨month, day⟩⟩)
    omega
  · rw [year, month, day]
    omega

theorem totalSeconds_text (time : CivilTime) : totalSeconds time.text = some time.instant := by
  rw [totalSeconds_eq_some]
  exact ⟨time, rfl, rfl⟩

theorem instant_eq_of_text_eq {first second : CivilTime} (same : first.text = second.text) :
    first.instant = second.instant := by
  have parsed := totalSeconds_text first
  rw [same, totalSeconds_text] at parsed
  exact (some.inj parsed).symm

/-- **The order of the texts** is the order of the instants. -/
theorem text_lt_iff (first second : CivilTime) :
    first.text < second.text ↔ first.instant < second.instant := by
  refine ⟨instant_lt_of_text_lt, fun less => ?_⟩
  rcases text_trichotomy first second with before | same | behind
  · exact before
  · exact absurd (instant_eq_of_text_eq same) less.ne
  · exact absurd (instant_lt_of_text_lt behind) less.not_gt

end CivilTime

/-- **The parser of times.** It accepts the texts of the dates and times of the years 0 to 9999
and nothing else. `total_seconds` is then the number of seconds from the epoch to the instant,
and the order of accepted texts is the order of the instants. -/
theorem totalSeconds_exact :
    (∀ value, (parseRfc3339Utc value).isSome ↔ ∃ time : CivilTime, value = time.text) ∧
    (∀ value total, totalSeconds value = some total →
      parseRfc3339Utc value = some (wrap64 (total * 1000000000))) ∧
    (∀ time : CivilTime, totalSeconds time.text = some time.instant) ∧
    (∀ value value' total total', totalSeconds value = some total →
      totalSeconds value' = some total' →
        (value < value' ↔ total < total') ∧ (value = value' ↔ total = total')) := by
  refine ⟨fun value => ?_, fun value total parsed => ?_, CivilTime.totalSeconds_text,
    fun value value' total total' parsed parsed' => ?_⟩
  · rw [parseRfc3339Utc_eq, isSome_map, isSome_iff_exists]
    constructor
    · rintro ⟨total, parsed⟩
      rw [totalSeconds_eq_some] at parsed
      obtain ⟨time, text, -⟩ := parsed
      exact ⟨time, text⟩
    · rintro ⟨time, rfl⟩
      exact ⟨_, time.totalSeconds_text⟩
  · rw [parseRfc3339Utc_eq, parsed, map_some]
  · rw [totalSeconds_eq_some] at parsed parsed'
    obtain ⟨time, rfl, same⟩ := parsed
    obtain ⟨time', rfl, same'⟩ := parsed'
    have order := time.text_lt_iff time'
    have order' := time'.text_lt_iff time
    rw [same, same']
    refine ⟨order, CivilTime.instant_eq_of_text_eq, fun equal => ?_⟩
    rcases time.text_trichotomy time' with before | text | behind
    · exact absurd equal (order.mp before).ne
    · exact text
    · exact absurd equal (order'.mp behind).ne'

/-! ## The window of a proof -/

/-- A number that 64 bits hold with a sign. -/
def Fits (value : Int) : Prop := -2 ^ 63 ≤ value ∧ value < 2 ^ 63

instance (value : Int) : Decidable (Fits value) := inferInstanceAs (Decidable (_ ∧ _))

theorem wrap64_of_fits {value : Int} (fits : Fits value) : wrap64 value = value := by
  obtain ⟨low, high⟩ := fits
  rw [wrap64, Int.bmod_def]
  omega

/-- The exact results of the arithmetic on times that `verify_client_proof` performs: the
conversions from seconds, and as far as the window is evaluated the sum and the difference. -/
def windowResults (now issued expires issuedAt expiresAt : Int) : List Int :=
  [seconds issued, seconds expires] ++
    if expiresAt < now then []
    else (now + seconds 5) ::
      if issuedAt > wrap64 (now + seconds 5) then [] else [expiresAt - issuedAt]

/-- In exact arithmetic a proof is within its time, and lives for half a minute at most. -/
structure Timely (now issued expires : Int) : Prop where
  alive : now ≤ seconds expires
  begun : seconds issued ≤ now + seconds 5
  short : expires - issued ≤ 30

/-- The check of the window is sound and does not overflow. -/
structure WindowSound (now issued expires issuedAt expiresAt : Int) : Prop where
  timely : proofTimely now issuedAt expiresAt = true → Timely now issued expires
  fits : ∀ result ∈ windowResults now issued expires issuedAt expiresAt, Fits result

/-- Both times are within 292 years of the epoch. If the proof has not expired, the clock is not
in the last five seconds that it can show; if it is not issued in the future either, it lives
for less than 293 years. -/
structure WindowFits (now issued expires : Int) : Prop where
  begins : -9223372036 ≤ issued ∧ issued ≤ 9223372036
  ends : -9223372036 ≤ expires ∧ expires ≤ 9223372036
  clock : now ≤ seconds expires → now + seconds 5 < 2 ^ 63
  lifetime : now ≤ seconds expires → seconds issued ≤ now + seconds 5 →
    expires - issued ≤ 9223372036

theorem fits_seconds_iff (value : Int) :
    Fits (seconds value) ↔ -9223372036 ≤ value ∧ value ≤ 9223372036 := by
  rw [Fits, seconds]
  omega

theorem proofTimely_iff (now issuedAt expiresAt : Int) :
    proofTimely now issuedAt expiresAt = true ↔ now ≤ expiresAt ∧
      issuedAt ≤ wrap64 (now + seconds 5) ∧ wrap64 (expiresAt - issuedAt) ≤ seconds 30 := by
  simp only [proofTimely, Bool.not_eq_true', Bool.or_eq_false_iff, decide_eq_false_iff_not, gt_iff_lt,
    Int.not_lt, and_assoc]

/-- The results fit exactly when the times are not too far away. -/
theorem windowResults_fit_iff {now : Int} (clock : Fits now) (issued expires : Int) :
    (∀ result ∈ windowResults now issued expires (wrap64 (seconds issued))
      (wrap64 (seconds expires)), Fits result) ↔ WindowFits now issued expires := by
  rw [windowResults, forall_mem_append, forall_mem_cons, forall_mem_singleton]
  constructor
  · rintro ⟨⟨begins, ends⟩, rest⟩
    rw [wrap64_of_fits begins, wrap64_of_fits ends] at rest
    have alive (now_le : now ≤ seconds expires) := by
      rw [if_neg (Int.not_lt.mpr now_le), forall_mem_cons] at rest
      exact rest
    refine ⟨(fits_seconds_iff _).mp begins, (fits_seconds_iff _).mp ends,
      fun now_le => (alive now_le).1.2, fun now_le begun => ?_⟩
    obtain ⟨sum, difference⟩ := alive now_le
    rw [wrap64_of_fits sum, if_neg (Int.not_lt.mpr begun), forall_mem_singleton] at difference
    have high := difference.2
    rw [seconds, seconds] at high
    omega
  · intro fits
    have begins := (fits_seconds_iff _).mpr fits.begins
    have ends := (fits_seconds_iff _).mpr fits.ends
    refine ⟨⟨begins, ends⟩, ?_⟩
    rw [wrap64_of_fits begins, wrap64_of_fits ends]
    split
    · simp
    rename_i now_le
    have now_le := Int.not_lt.mp now_le
    have sum : Fits (now + seconds 5) := ⟨by
      have low := clock.1
      rw [seconds]
      omega, fits.clock now_le⟩
    rw [forall_mem_cons, wrap64_of_fits sum]
    refine ⟨sum, ?_⟩
    split
    · simp
    rename_i begun
    have begun := Int.not_lt.mp begun
    have lifetime := fits.lifetime now_le begun
    rw [forall_mem_singleton, Fits]
    rw [seconds, seconds] at *
    omega

/-- Without an overflow the check decides the window in exact arithmetic. -/
theorem timely_of_fits {now issued expires : Int} (clock : Fits now)
    (fits : WindowFits now issued expires)
    (passed : proofTimely now (wrap64 (seconds issued)) (wrap64 (seconds expires)) = true) :
    Timely now issued expires := by
  have results := (windowResults_fit_iff clock issued expires).mpr fits
  have begins := (fits_seconds_iff _).mpr fits.begins
  have ends := (fits_seconds_iff _).mpr fits.ends
  obtain ⟨alive, begun, short⟩ := (proofTimely_iff _ _ _).mp passed
  rw [windowResults, if_neg (Int.not_lt.mpr alive), if_neg (Int.not_lt.mpr begun)] at results
  have sum : Fits (now + seconds 5) := results _ (by simp)
  have difference := results (wrap64 (seconds expires) - wrap64 (seconds issued)) (by simp)
  rw [wrap64_of_fits ends] at alive
  rw [wrap64_of_fits begins, wrap64_of_fits sum] at begun
  rw [wrap64_of_fits difference, wrap64_of_fits begins, wrap64_of_fits ends] at short
  refine ⟨alive, begun, ?_⟩
  rw [seconds, seconds, seconds] at short
  omega

/-- **The window of a proof.** For two accepted texts and a clock, the check of the window is
sound and free of overflow exactly when the times are not too far away. -/
theorem windowSound_iff {issuedAt expiresAt : Bytes} {now issued expires : Int} (clock : Fits now)
    (issuedRead : totalSeconds issuedAt = some issued)
    (expiresRead : totalSeconds expiresAt = some expires) :
    (∃ issuedTime expiresTime, parseRfc3339Utc issuedAt = some issuedTime ∧
      parseRfc3339Utc expiresAt = some expiresTime ∧
      WindowSound now issued expires issuedTime expiresTime) ↔ WindowFits now issued expires := by
  rw [parseRfc3339Utc_eq, parseRfc3339Utc_eq, issuedRead, expiresRead]
  constructor
  · rintro ⟨_, _, issuedTime, expiresTime, sound⟩
    cases issuedTime
    cases expiresTime
    exact (windowResults_fit_iff clock issued expires).mp sound.fits
  · intro fits
    exact ⟨_, _, rfl, rfl, timely_of_fits clock fits,
      (windowResults_fit_iff clock issued expires).mpr fits⟩

/-- In June 2025, a proof of half a minute. -/
theorem halfMinute_sound : ∃ issuedTime expiresTime,
    parseRfc3339Utc (bytesFromString "2025-06-15T15:06:30Z") = some issuedTime ∧
    parseRfc3339Utc (bytesFromString "2025-06-15T15:07:00Z") = some expiresTime ∧
    WindowSound 1750000000000000000 1749999990 1750000020 issuedTime expiresTime :=
  (windowSound_iff (by decide) (by decide) (by decide)).mpr
    ⟨by decide, by decide, by decide, by decide⟩

/-- **A proof of five centuries passes**: the difference of its times wraps around. -/
theorem fiveCenturies_pass : ∃ issuedTime expiresTime,
    parseRfc3339Utc (bytesFromString "1700-01-01T00:00:00Z") = some issuedTime ∧
    parseRfc3339Utc (bytesFromString "2200-01-01T00:00:00Z") = some expiresTime ∧
    proofTimely 1750000000000000000 issuedTime expiresTime = true ∧
    totalSeconds (bytesFromString "1700-01-01T00:00:00Z") = some (-8520336000) ∧
    totalSeconds (bytesFromString "2200-01-01T00:00:00Z") = some 7258118400 ∧
    ¬ Timely 1750000000000000000 (-8520336000) 7258118400 :=
  ⟨-8520336000000000000, 7258118400000000000, by decide, by decide, by decide, by decide, by decide,
    fun timely => absurd timely.short (by decide)⟩

end Rstream.Webtty.Server
