import CodeAudit.Report.Moment

/-!
# What a stamp tells

A stamp writes the date as eight digits or more and the time of day as six, with a bar between them.
The date tells the day, since the days of a year follow one another month by month, so moments of the
same date and time of day are in the same second.

**Results.**
* `Day.after_injective`: different days have different dates.
* `padded_injective`: a number is told from its digits, zeros in front of it or not.
* `seconds_eq_of_digits`: the digits of a stamp tell the second.
-/

namespace CodeAudit

namespace Day

/-! ## Days -/

/-- How many days of an era come before one of its years. -/
def yearStart (year : Nat) : Nat := 365 * year + year / 4 - year / 100

/-- A day of an era but the last one: its century, the four years and the day in these. -/
theorem exists_cycle
    {inEra : Nat}
    (hlt : inEra < 146096) :
    ∃ century cycle inCycle late, century ≤ 3 ∧ cycle ≤ 24 ∧ inCycle ≤ 1460 ∧ late ≤ 1 ∧
      late ≤ inCycle ∧ (inCycle = 1460 → late = 1) ∧
      inEra = 36524 * century + 1461 * cycle + inCycle ∧ inEra / 36524 = century ∧
      inEra / 1460 = 25 * century + cycle + late := by
  refine ⟨inEra / 36524, inEra % 36524 / 1461, inEra % 36524 % 1461,
    inEra / 1460 - 25 * (inEra / 36524) - inEra % 36524 / 1461, ?_⟩
  omega

/-- The year of an era in which a day is. -/
theorem yearOfEra_spec
    {inEra : Nat}
    (hlt : inEra < eraDays) :
    let year := (inEra - inEra / 1460 + inEra / 36524 - inEra / 146096) / 365
    year ≤ 399 ∧ yearStart year ≤ inEra ∧ inEra - yearStart year ≤ 365 := by
  intro year
  rw [eraDays] at hlt
  rcases Nat.lt_or_ge inEra 146096 with hless | hlast
  · obtain ⟨century, cycle, inCycle, late, hcentury, hcycle, hday, hlate, hle, hend, hsum, hdiv,
      hdiv'⟩ := exists_cycle hless
    have hnone : inEra / 146096 = 0 := by omega
    have hyear : year = 100 * century + 4 * cycle + (inCycle - late) / 365 := by
      simp only [year, hdiv, hdiv', hnone]
      omega
    have hquarter : year / 4 = 25 * century + cycle := by omega
    have hhundredth : year / 100 = century := by omega
    rw [yearStart, hquarter, hhundredth, hyear]
    omega
  · obtain rfl : inEra = 146096 := by omega
    decide

/-- The month that a number of months after March is. -/
def monthOf (fromMarch : Nat) : Nat := if fromMarch < 10 then fromMarch + 3 else fromMarch - 9

/-- A date by its era, the year of the era and the day of the year. -/
theorem after_spec
    (days : Nat) :
    ∃ era year inYear, year ≤ 399 ∧ inYear ≤ 365 ∧
      days + epochOffset = eraDays * era + yearStart year + inYear ∧
      (after days).month = monthOf ((5 * inYear + 2) / 153) ∧
      (after days).year = year + era * 400 + (if (after days).month ≤ 2 then 1 else 0) ∧
      (after days).day = inYear - (153 * ((5 * inYear + 2) / 153) + 2) / 5 + 1 := by
  have hlt : (days + epochOffset) % eraDays < eraDays := Nat.mod_lt _ (by decide)
  obtain ⟨hyear, hstart, hinYear⟩ := yearOfEra_spec hlt
  refine ⟨(days + epochOffset) / eraDays, _, _, hyear, hinYear, ?_, rfl, rfl, rfl⟩
  rw [Nat.add_assoc, Nat.add_sub_cancel' hstart, Nat.div_add_mod]

/-- Different days have different dates. -/
theorem after_injective
    {a b : Nat}
    (hdate : after a = after b) :
    a = b := by
  obtain ⟨era, year, inYear, hyear, hinYear, hsum, hmonth, hdateYear, hday⟩ := after_spec a
  obtain ⟨era', year', inYear', hyear', hinYear', hsum', hmonth', hdateYear', hday'⟩ :=
    after_spec b
  rw [hdate] at hmonth hdateYear hday
  have hmonths : (5 * inYear + 2) / 153 = (5 * inYear' + 2) / 153 := by
    rw [hmonth', monthOf, monthOf] at hmonth
    split at hmonth <;> split at hmonth <;> omega
  have hdays : inYear = inYear' := by omega
  have hyears : year + era * 400 = year' + era' * 400 := by omega
  obtain rfl : year = year' := by omega
  obtain rfl : era = era' := by omega
  omega

end Day

namespace Moment

/-! ## Digits -/

theorem ofDigitChars_padded
    (width number : Nat) :
    Nat.ofDigitChars 10 (padded width number).toList 0 = number := by
  rw [padded, String.toList_append, String.toList_ofList, Nat.ofDigitChars_append,
    Nat.ofDigitChars_replicate_zero, Nat.mul_zero, Nat.toString_eq_ofList_toDigits,
    String.toList_ofList, Nat.ofDigitChars_ten_toDigits]

/-- A number is told from its digits. -/
theorem padded_injective
    {width a b : Nat}
    (hdigits : (padded width a).toList = (padded width b).toList) :
    a = b := by
  rw [← ofDigitChars_padded width a, hdigits, ofDigitChars_padded]

theorem isDigit_of_mem_padded
    {width number : Nat}
    {c : Char}
    (hc : c ∈ (padded width number).toList) :
    c.isDigit := by
  rw [padded, String.toList_append, String.toList_ofList, List.mem_append] at hc
  rcases hc with hzero | hdigit
  · rw [List.eq_of_mem_replicate hzero]
    decide
  · rw [Nat.toString_eq_ofList_toDigits, String.toList_ofList] at hdigit
    exact Nat.isDigit_of_mem_toDigits (by decide) (by decide) hdigit

/-- Two digits are enough for a number below a hundred. -/
theorem length_padded_two
    {number : Nat}
    (hlt : number < 100) :
    (padded 2 number).toList.length = 2 := by
  have hle : (Nat.toDigits 10 number).length ≤ 2 :=
    (Nat.length_toDigits_le_iff (by decide) (by decide)).mpr hlt
  rw [padded, String.toList_append, String.toList_ofList, List.length_append,
    List.length_replicate, Nat.toString_eq_ofList_toDigits, String.length_ofList,
    String.toList_ofList]
  omega

theorem padded_two_append_injective
    {a b : Nat}
    {front back : List Char}
    (ha : a < 100)
    (hb : b < 100)
    (hdigits : front ++ (padded 2 a).toList = back ++ (padded 2 b).toList) :
    front = back ∧ a = b := by
  have hlength : (padded 2 a).toList.length = (padded 2 b).toList.length := by
    rw [length_padded_two ha, length_padded_two hb]
  obtain ⟨hfront, hback⟩ := List.append_inj' hdigits hlength
  exact ⟨hfront, padded_injective hback⟩

/-! ## Stamps -/

/-- The date of a stamp. -/
def dateDigits (moment : Moment) : List Char :=
  (padded 4 moment.day.year).toList ++ (padded 2 moment.day.month).toList
    ++ (padded 2 moment.day.day).toList

/-- The time of day of a stamp. -/
def timeDigits (moment : Moment) : List Char :=
  (padded 2 (moment.seconds % 86400 / 3600)).toList
    ++ (padded 2 (moment.seconds % 86400 / 60 % 60)).toList
    ++ (padded 2 (moment.seconds % 86400 % 60)).toList

theorem toList_stamp
    (moment : Moment) :
    moment.stamp.toList = moment.dateDigits ++ '_' :: moment.timeDigits := by
  simp [stamp, dateDigits, timeDigits]

theorem underscore_not_mem_dateDigits
    (moment : Moment) :
    '_' ∉ moment.dateDigits := by
  have hdigits : ∀ width number, '_' ∉ (padded width number).toList :=
    fun _ _ hc => absurd (isDigit_of_mem_padded hc) (by decide)
  simp [dateDigits, hdigits]

theorem day_bounds
    (moment : Moment) :
    moment.day.month < 100 ∧ moment.day.day < 100 := by
  obtain ⟨era, year, inYear, -, hinYear, -, hmonth, -, hday⟩ :=
    Day.after_spec (moment.seconds / 86400)
  rw [day, hmonth, hday, Day.monthOf]
  constructor
  · split <;> omega
  · omega

theorem time_bounds
    (seconds : Nat) :
    seconds % 86400 / 3600 < 100 ∧ seconds % 86400 / 60 % 60 < 100 ∧
      seconds % 86400 % 60 < 100 := by
  omega

theorem length_timeDigits
    (moment : Moment) :
    moment.timeDigits.length = 6 := by
  obtain ⟨hhour, hminute, hsecond⟩ := time_bounds moment.seconds
  rw [timeDigits, List.length_append, List.length_append, length_padded_two hhour,
    length_padded_two hminute, length_padded_two hsecond]

/-- Moments of the same date and time of day are in the same second. -/
theorem seconds_eq_of_digits
    {a b : Moment}
    (hdate : a.dateDigits = b.dateDigits)
    (htime : a.timeDigits = b.timeDigits) :
    a.seconds = b.seconds := by
  obtain ⟨hmonth, hday⟩ := day_bounds a
  obtain ⟨hmonth', hday'⟩ := day_bounds b
  obtain ⟨hfront, hdays⟩ := padded_two_append_injective hday hday' hdate
  obtain ⟨hyear, hmonths⟩ := padded_two_append_injective hmonth hmonth' hfront
  have hdates : a.day = b.day := by
    have hyears := padded_injective hyear
    generalize a.day = date at hyears hmonths hdays ⊢
    generalize b.day = date' at hyears hmonths hdays ⊢
    obtain ⟨year, month, day⟩ := date
    obtain ⟨year', month', day'⟩ := date'
    obtain rfl : year = year' := hyears
    obtain rfl : month = month' := hmonths
    obtain rfl : day = day' := hdays
    rfl
  have hdivs : a.seconds / 86400 = b.seconds / 86400 := Day.after_injective hdates
  obtain ⟨hhour, hminute, hsecond⟩ := time_bounds a.seconds
  obtain ⟨hhour', hminute', hsecond'⟩ := time_bounds b.seconds
  obtain ⟨hfront, hseconds⟩ := padded_two_append_injective hsecond hsecond' htime
  obtain ⟨hhours, hminutes⟩ := padded_two_append_injective hminute hminute' hfront
  have hhours := padded_injective hhours
  omega

end Moment

end CodeAudit
