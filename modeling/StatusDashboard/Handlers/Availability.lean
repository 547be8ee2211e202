import StatusDashboard.Calendar.Gregorian
import StatusDashboard.Handlers.Render

namespace StatusDashboard.Handlers

open Event Storage Process Calendar

/-!
# Availability of components

For each component the share of the last twelve months in which it was not
affected by an outage is reported.  Hours and percentages are exact here, where
the source has floating point numbers.
-/

structure MonthlyAvailability where
  year : Int
  month : Int
  percentage : ℚ
deriving DecidableEq

/-! ## Outages -/

def monthsInYear : Nat := 12

def availabilityMonths : Int := 11

/-- The impact of an outage. -/
def outageImpact : Int := 3

def minTime (start finish : Time) : Time := if start < finish then start else finish

def maxTime (start finish : Time) : Time := if finish < start then start else finish

def hours (duration : Int) : ℚ := duration / 3600000000000

/-- The part of an incident in the period; an incident outside of it has none. -/
def adjustIncidentPeriod (incidentStart incidentEnd periodStart periodEnd : Time) :
    Option (Time × Time) :=
  if incidentEnd < periodStart ∨ periodEnd < incidentStart then none
  else some (if incidentStart < periodStart then periodStart else incidentStart,
    if periodEnd < incidentEnd then periodEnd else incidentEnd)

/-- The beginning of the month of a time, and of the month after it. -/
def monthStart (current : Time) : Time := date (year current) (month current)

def monthEnd (current : Time) : Time := addMonths (monthStart current) 1

theorem monthStart_eq (current : Time) : monthStart current = months.start (months.indexOf current) :=
  date_year_month current

theorem monthEnd_eq (current : Time) :
    monthEnd current = months.start (months.indexOf current + 1) := by
  rw [monthEnd, monthStart_eq, addMonths_start]

theorem lt_monthEnd (current : Time) : current < monthEnd current := by
  rw [monthEnd_eq]
  exact months.lt_next current

/-- Add to one entry, if there is such an entry. -/
def addDowntime (monthlyDowntime : List ℚ) (monthIndex : Int) (downtime : ℚ) : List ℚ :=
  if 0 ≤ monthIndex ∧ monthIndex < monthlyDowntime.length then
    monthlyDowntime.modify monthIndex.toNat (fun sum => sum + downtime)
  else monthlyDowntime

/-- Walk through the months of an incident and add its part of each month. -/
def walkMonths (periodStartDate incidentStart incidentEnd current : Time)
    (monthlyDowntime : List ℚ) : List ℚ :=
  if _ : current < incidentEnd then
    let downtimeStart := maxTime incidentStart (monthStart current)
    let downtimeEnd := minTime incidentEnd (monthEnd current)
    let downtime := hours (downtimeEnd - downtimeStart)
    let monthIndex := (year downtimeStart - year periodStartDate) * monthsInYear +
      (month downtimeStart - month periodStartDate)
    walkMonths periodStartDate incidentStart incidentEnd (monthEnd current)
      (addDowntime monthlyDowntime monthIndex downtime)
  else monthlyDowntime
termination_by (incidentEnd - current).toNat
decreasing_by
  have remaining : 0 < incidentEnd - current := Int.sub_pos_of_lt ‹current < incidentEnd›
  exact (Int.toNat_lt_toNat remaining).mpr (Int.sub_lt_sub_left (lt_monthEnd current) incidentEnd)

/-- Add the outage of one incident.  Incidents without an end and those of
another impact are skipped. -/
def addIncident (periodStartDate periodEndDate : Time) (monthlyDowntime : List ℚ)
    (inc : Incident) : Option (List ℚ) :=
  match inc.endDate with
  | none => some monthlyDowntime
  | some endDate => do
      let impact ← inc.impact
      if impact ≠ outageImpact then
        return monthlyDowntime
      else
        let startDate ← inc.startDate
        match adjustIncidentPeriod startDate endDate periodStartDate periodEndDate with
        | none => return monthlyDowntime
        | some (incidentStart, incidentEnd) =>
          return walkMonths periodStartDate incidentStart incidentEnd incidentStart
            monthlyDowntime

/-- The first of the months that are reported at a time. -/
def periodStart (periodEndDate : Time) : Time :=
  addMonths (date (year periodEndDate) (month periodEndDate)) (-availabilityMonths)

def monthlyDowntime (now : Time) (incidents : List Incident) : Option (List ℚ) :=
  incidents.foldlM (addIncident (periodStart now) now) (List.replicate monthsInYear 0)

/-! ## Percentages -/

def hoursInMonth (year month : Int) : ℚ :=
  hours (addMonths (date year month) 1 - date year month)

/-- The conversion to an integer cuts off the fraction. -/
def truncate (value : ℚ) : Int := if 0 ≤ value then ⌊value⌋ else ⌈value⌉

def fullPercentage : ℚ := 100

def precisionFactor : ℚ := 100000

/-- The percentage of a month without downtime. -/
def percentageOf (downtime totalHours : ℚ) : ℚ :=
  fullPercentage - downtime / totalHours * fullPercentage

def roundPercentage (availability : ℚ) : ℚ :=
  truncate (availability * precisionFactor + 1 / 2) / precisionFactor

/-- The percentage of a month before it is rounded. -/
def monthlyPercentage (periodStartDate : Time) (downtime : List ℚ) (index : Nat) : ℚ :=
  let monthDate := addMonths periodStartDate index
  let totalHours := hoursInMonth (year monthDate) (month monthDate)
  percentageOf (downtime.getD index 0) totalHours

def monthlyReport (periodStartDate : Time) (downtime : List ℚ) (index : Nat) :
    MonthlyAvailability :=
  let monthDate := addMonths periodStartDate index
  { year := year monthDate
    month := month monthDate
    percentage := roundPercentage (monthlyPercentage periodStartDate downtime index) }

/-- The months of a component with incidents, the oldest first; a component
without incidents has no report. -/
def calculateAvailability (now : Time) (incidents : List Incident) :
    Option (List MonthlyAvailability) :=
  if incidents = [] then some []
  else do
    let downtime ← monthlyDowntime now incidents
    return (List.range monthsInYear).map (monthlyReport (periodStart now) downtime)

/-- The newest month first. -/
def sortComponentAvailability (availabilities : List MonthlyAvailability) :
    List MonthlyAvailability :=
  availabilities.insertionSort (fun first second =>
    if first.year = second.year then second.month ≤ first.month else second.year < first.year)

end StatusDashboard.Handlers
