import StatusDashboard.Calendar.Division

namespace StatusDashboard.Calendar

/-!
# The Gregorian calendar

Days are counted from the first of January of the year 1, the calendar being
continued before its introduction, as the time package of the language does.
Years and months are counted from the same day, the months without regard to
the year: month `n` is the month `n % 12` of the year `n / 12`, both counted from
zero.
-/

/-! ## Years -/

/-- The days of the years before a year, the year 1 being year 0. -/
def daysBeforeYear (year : Int) : Int := 365 * year + year / 4 - year / 100 + year / 400

/-- The leap day of a year, the year 1 being year 0. -/
def leapDay (year : Int) : Int :=
  if (year + 1) % 4 = 0 ∧ ((year + 1) % 100 ≠ 0 ∨ (year + 1) % 400 = 0) then 1 else 0

/-- The year of a day: whole cycles of 400 years, then centuries, then cycles of
four years, then years.  The last century and the last year of a cycle have one
day more than the others. -/
def yearOfDay (day : Int) : Int :=
  let cycle := day % 146097
  let century := min (cycle / 36524) 3
  let rest := cycle - 36524 * century
  400 * (day / 146097) + 100 * century + 4 * (rest / 1461) + min (rest % 1461 / 365) 3

theorem leapDay_nonneg (year : Int) : 0 ≤ leapDay year := by
  unfold leapDay
  split_ifs <;> decide

theorem daysBeforeYear_succ (year : Int) :
    daysBeforeYear (year + 1) = daysBeforeYear year + 365 + leapDay year := by
  unfold daysBeforeYear leapDay
  split_ifs with leap
  · omega
  · omega

/-- The days before a year, by the cycles it is made of. -/
theorem daysBeforeYear_of_cycles {cycles centuries fours years : Int} (centuryBound : centuries ≤ 3)
    (fourBound : fours ≤ 24) (yearBound : years ≤ 3) (centuryNonneg : 0 ≤ centuries)
    (fourNonneg : 0 ≤ fours) (yearNonneg : 0 ≤ years) :
    daysBeforeYear (400 * cycles + 100 * centuries + 4 * fours + years) =
      146097 * cycles + 36524 * centuries + 1461 * fours + 365 * years := by
  unfold daysBeforeYear
  omega

/-- The year behind the last one of a cycle of four years has a leap day, unless
the century ends there and not the cycle of 400 years. -/
theorem leapDay_of_cycles {cycles centuries fours : Int} (century : fours = 24 → centuries = 3)
    (fourBound : fours ≤ 24) (fourNonneg : 0 ≤ fours) :
    leapDay (400 * cycles + 100 * centuries + 4 * fours + 3) = 1 := by
  unfold leapDay
  rw [if_pos]
  omega

/-- A day is in its year. -/
theorem yearOfDay_spec (day : Int) :
    daysBeforeYear (yearOfDay day) ≤ day ∧ day < daysBeforeYear (yearOfDay day + 1) := by
  rw [daysBeforeYear_succ]
  unfold yearOfDay
  dsimp only
  have cycle : 0 ≤ day % 146097 ∧ day % 146097 < 146097 ∧
      day = 146097 * (day / 146097) + day % 146097 := by omega
  generalize day / 146097 = cycles at cycle ⊢
  generalize day % 146097 = inCycle at cycle ⊢
  have century : 0 ≤ min (inCycle / 36524) 3 ∧ min (inCycle / 36524) 3 ≤ 3 ∧
      0 ≤ inCycle - 36524 * min (inCycle / 36524) 3 ∧
      inCycle - 36524 * min (inCycle / 36524) 3 ≤ 36524 ∧
      (inCycle - 36524 * min (inCycle / 36524) 3 = 36524 → min (inCycle / 36524) 3 = 3) := by
    omega
  generalize min (inCycle / 36524) 3 = centuries at century ⊢
  generalize inCentury : inCycle - 36524 * centuries = left at century ⊢
  have four : 0 ≤ left / 1461 ∧ left / 1461 ≤ 24 ∧ 0 ≤ left % 1461 ∧ left % 1461 < 1461 ∧
      left = 1461 * (left / 1461) + left % 1461 := by omega
  generalize left / 1461 = fours at four ⊢
  generalize left % 1461 = inFour at four ⊢
  have year : 0 ≤ min (inFour / 365) 3 ∧ min (inFour / 365) 3 ≤ 3 ∧
      0 ≤ inFour - 365 * min (inFour / 365) 3 ∧
      (inFour - 365 * min (inFour / 365) 3 < 365 ∨
        min (inFour / 365) 3 = 3 ∧ inFour - 365 * min (inFour / 365) 3 = 365) := by
    omega
  generalize min (inFour / 365) 3 = years at year ⊢
  rw [daysBeforeYear_of_cycles century.2.1 four.2.1 year.2.1 century.1 four.1 year.1]
  rcases year.2.2.2 with ordinary | last
  · have leap := leapDay_nonneg (400 * cycles + 100 * centuries + 4 * fours + years)
    omega
  · -- the last day of a leap year
    have leap : leapDay (400 * cycles + 100 * centuries + 4 * fours + 3) = 1 :=
      leapDay_of_cycles (by omega) four.2.1 four.1
    rw [last.1, leap]
    omega

/-! ## Months -/

/-- The lengths of the months of a year. -/
def monthLengths (leap : Int) : List Int :=
  [31, 28 + leap, 31, 30, 31, 30, 31, 31, 30, 31, 30, 31]

/-- The days of a year before one of its months. -/
def daysBeforeMonth (leap : Int) (month : Nat) : Int := ((monthLengths leap).take month).sum

/-- The month of a day of the year. -/
def monthOfYearDay (leap yearDay : Int) : Nat :=
  Nat.findGreatest (fun month => daysBeforeMonth leap month ≤ yearDay) 11

theorem monthOfYearDay_le (leap yearDay : Int) : monthOfYearDay leap yearDay ≤ 11 :=
  Nat.findGreatest_le 11

theorem daysBeforeMonth_zero (leap : Int) : daysBeforeMonth leap 0 = 0 := rfl

theorem daysBeforeMonth_twelve (leap : Int) : daysBeforeMonth leap 12 = 365 + leap := by
  simp only [daysBeforeMonth, monthLengths, List.take_succ_cons, List.take_zero, List.sum_cons,
    List.sum_nil]
  omega

theorem daysBeforeMonth_lt {leap : Int} (nonneg : 0 ≤ leap) {month : Nat} (inside : month ≤ 11) :
    daysBeforeMonth leap month < daysBeforeMonth leap (month + 1) := by
  have bound : month < (monthLengths leap).length := Nat.lt_succ_of_le inside
  have positive : ∀ length ∈ monthLengths leap, 0 < length := by
    intro length member
    simp only [monthLengths, List.mem_cons, List.not_mem_nil, or_false] at member
    omega
  unfold daysBeforeMonth
  rw [List.sum_take_succ _ _ bound]
  exact Int.lt_add_of_pos_right _ (positive _ (List.getElem_mem bound))

/-- A day is in its month of the year. -/
theorem monthOfYearDay_spec {leap yearDay : Int} (nonneg : 0 ≤ yearDay)
    (inside : yearDay < 365 + leap) :
    daysBeforeMonth leap (monthOfYearDay leap yearDay) ≤ yearDay ∧
      yearDay < daysBeforeMonth leap (monthOfYearDay leap yearDay + 1) := by
  have first : daysBeforeMonth leap 0 ≤ yearDay := nonneg
  refine ⟨?_, ?_⟩
  · exact Nat.findGreatest_spec (P := fun month => daysBeforeMonth leap month ≤ yearDay)
      (Nat.zero_le 11) first
  · rcases Nat.lt_or_eq_of_le (monthOfYearDay_le leap yearDay) with earlier | last
    · exact Int.lt_of_not_ge (Nat.findGreatest_is_greatest (Nat.lt_succ_self _) earlier)
    · rw [last, daysBeforeMonth_twelve]
      exact inside

/-- The days before a month. -/
def daysBefore (month : Int) : Int :=
  daysBeforeYear (month / 12) + daysBeforeMonth (leapDay (month / 12)) (month % 12).toNat

def monthOfDay (day : Int) : Int :=
  let year := yearOfDay day
  12 * year + monthOfYearDay (leapDay year) (day - daysBeforeYear year)

/-- The first day of a month by the year and the month of the year. -/
theorem daysBefore_eq (year : Int) {month : Nat} (inside : month ≤ 12) :
    daysBefore (12 * year + month) =
      daysBeforeYear year + daysBeforeMonth (leapDay year) month := by
  unfold daysBefore
  rcases Nat.lt_or_eq_of_le inside with within | last
  · have quotient : (12 * year + month) / 12 = year := by omega
    have remainder : ((12 * year + month) % 12).toNat = month := by omega
    rw [quotient, remainder]
  · -- the month behind the last is the first of the next year
    subst last
    have quotient : (12 * year + (12 : Nat)) / 12 = year + 1 := by omega
    have remainder : ((12 * year + (12 : Nat)) % 12).toNat = 0 := by omega
    rw [quotient, remainder, daysBeforeYear_succ, daysBeforeMonth_zero, daysBeforeMonth_twelve]
    omega

theorem daysBefore_lt (month : Int) : daysBefore month < daysBefore (month + 1) := by
  have inside : (month % 12).toNat ≤ 11 := by omega
  have sum : 12 * (month / 12) + ((month % 12).toNat : Int) = month := by omega
  have next : 12 * (month / 12) + (((month % 12).toNat + 1 : Nat) : Int) = month + 1 := by omega
  have longer := daysBeforeMonth_lt (leapDay_nonneg (month / 12)) inside
  calc
    daysBefore month = daysBeforeYear (month / 12) +
        daysBeforeMonth (leapDay (month / 12)) (month % 12).toNat := rfl
    _ < daysBeforeYear (month / 12) +
        daysBeforeMonth (leapDay (month / 12)) ((month % 12).toNat + 1) :=
      Int.add_lt_add_left longer _
    _ = daysBefore (month + 1) := by rw [← daysBefore_eq _ (Nat.succ_le_succ inside), next]

/-- A day is in its month. -/
theorem monthOfDay_spec (day : Int) :
    daysBefore (monthOfDay day) ≤ day ∧ day < daysBefore (monthOfDay day + 1) := by
  have year := yearOfDay_spec day
  rw [daysBeforeYear_succ] at year
  unfold monthOfDay
  dsimp only
  generalize yearOfDay day = found at year
  have inside := monthOfYearDay_le (leapDay found) (day - daysBeforeYear found)
  have nonneg : 0 ≤ day - daysBeforeYear found := by omega
  have bound : day - daysBeforeYear found < 365 + leapDay found := by omega
  have month := monthOfYearDay_spec nonneg bound
  generalize monthOfYearDay (leapDay found) (day - daysBeforeYear found) = within at inside month
  have here := daysBefore_eq found (Nat.le_succ_of_le inside)
  have next := daysBefore_eq found (Nat.succ_le_succ inside)
  have shift : 12 * found + ((within + 1 : Nat) : Int) = 12 * found + within + 1 := by omega
  rw [Nat.succ_eq_add_one, shift] at next
  rw [here, next]
  omega

/-! ## Times

A time is a number of nanoseconds from the beginning of the year 1, in universal
time. -/

/-- The months as periods of time. -/
def months : Division where
  start month := 86400000000000 * daysBefore month
  indexOf time := monthOfDay (time / 86400000000000)
  start_le time := by
    have inside := (monthOfDay_spec (time / 86400000000000)).1
    omega
  lt_next time := by
    have inside := (monthOfDay_spec (time / 86400000000000)).2
    omega
  increasing month := by
    have longer := daysBefore_lt month
    omega

def year (time : Int) : Int := months.indexOf time / 12 + 1

/-- The month of the year, from 1 to 12. -/
def month (time : Int) : Int := months.indexOf time % 12 + 1

/-- The beginning of a month.  A month beyond the year counts on into other years. -/
def date (year month : Int) : Int := months.start (12 * (year - 1) + (month - 1))

/-- Add months to a date; days beyond the month count on into the next one. -/
def addMonths (time count : Int) : Int :=
  date (year time) (month time + count) + (time - date (year time) (month time))

theorem date_year_month (time : Int) :
    date (year time) (month time) = months.start (months.indexOf time) := by
  unfold date year month
  congr 1
  omega

theorem addMonths_start (index count : Int) :
    addMonths (months.start index) count = months.start (index + count) := by
  have shifted : 12 * (year (months.start index) - 1) +
      (month (months.start index) + count - 1) = index + count := by
    unfold year month
    rw [months.indexOf_start]
    omega
  unfold addMonths
  rw [date_year_month, months.indexOf_start, date, shifted, Int.sub_self, Int.add_zero]

/-- Years and months of the year count the months. -/
theorem year_month_sub (first second : Int) :
    (year first - year second) * 12 + (month first - month second) =
      months.indexOf first - months.indexOf second := by
  unfold year month
  omega

end StatusDashboard.Calendar
