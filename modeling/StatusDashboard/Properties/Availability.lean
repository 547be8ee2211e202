import StatusDashboard.Handlers.Availability
import StatusDashboard.Properties.Chunking
import StatusDashboard.Properties.Rendering

namespace StatusDashboard.Properties

open Event Storage Handlers Process Calendar

/-!
# Availability

The walk through the months of an outage adds to each month the length of its
common part with the outage.  The reported percentages follow.
-/

/-! ## One outage -/

theorem hours_add (first second : Int) : hours (first + second) = hours first + hours second := by
  unfold hours
  push_cast
  ring

theorem hours_zero : hours 0 = 0 := by
  unfold hours
  norm_num

theorem minTime_eq (first second : Time) : minTime first second = min first second := by
  unfold minTime
  split_ifs with before
  · exact (min_eq_left (le_of_lt before)).symm
  · exact (min_eq_right (not_lt.mp before)).symm

theorem maxTime_eq (first second : Time) : maxTime first second = max first second := by
  unfold maxTime
  split_ifs with before
  · exact (max_eq_left (le_of_lt before)).symm
  · exact (max_eq_right (not_lt.mp before)).symm

theorem addDowntime_length (sums : List ℚ) (index : Int) (downtime : ℚ) :
    (addDowntime sums index downtime).length = sums.length := by
  unfold addDowntime
  split_ifs
  · exact List.length_modify _ _ _
  · rfl

/-- One entry is added to, the others stay. -/
theorem addDowntime_getD {sums : List ℚ} {index : Int} {place : Nat} (downtime : ℚ)
    (nonneg : 0 ≤ index) (inside : index < sums.length) (within : place < sums.length) :
    (addDowntime sums index downtime).getD place 0 =
      sums.getD place 0 + if (place : Int) = index then downtime else 0 := by
  unfold addDowntime
  rw [if_pos ⟨nonneg, inside⟩, List.getD_eq_getElem?_getD, List.getElem?_modify,
    List.getD_eq_getElem?_getD, List.getElem?_eq_getElem within]
  by_cases here : (place : Int) = index
  · have same : index.toNat = place := by omega
    simp [here, same]
  · have other : index.toNat ≠ place := by omega
    simp [here, other]

theorem walkMonths_length (periodStartDate incidentStart incidentEnd current : Time)
    (sums : List ℚ) :
    (walkMonths periodStartDate incidentStart incidentEnd current sums).length = sums.length := by
  fun_induction walkMonths periodStartDate incidentStart incidentEnd current sums with
  | case1 current sums running downtimeStart downtimeEnd downtime monthIndex ih =>
    rw [ih, addDowntime_length]
  | case2 current sums ended => rfl

/-- The walk adds to each month its common part with the rest of the outage. -/
theorem walkMonths_getD {periodStartDate incidentStart incidentEnd current : Time} {sums : List ℚ}
    (started : incidentStart ≤ current)
    (boundary : current = incidentStart ∨ current = monthStart current)
    (after : months.indexOf periodStartDate ≤ months.indexOf incidentStart)
    (before : ∀ time < incidentEnd,
      months.indexOf time < months.indexOf periodStartDate + sums.length)
    {place : Nat} (within : place < sums.length) :
    (walkMonths periodStartDate incidentStart incidentEnd current sums).getD place 0 =
      sums.getD place 0 + hours (common current incidentEnd
        (months.start (months.indexOf periodStartDate + place))
        (months.start (months.indexOf periodStartDate + place + 1))) := by
  fun_induction walkMonths periodStartDate incidentStart incidentEnd current sums with
  | case1 current sums running downtimeStart downtimeEnd downtime monthIndex ih =>
    have reached : downtimeStart = current := by
      change maxTime incidentStart (monthStart current) = current
      rw [maxTime_eq]
      rcases boundary with first | later
      · rw [← first]
        apply max_eq_left
        rw [monthStart_eq]
        exact months.start_le current
      · rw [← later]
        exact max_eq_right started
    have number : monthIndex = months.indexOf current - months.indexOf periodStartDate := by
      rw [← year_month_sub, ← reached]
      rfl
    have length : downtime =
        hours (min incidentEnd (months.start (months.indexOf current + 1)) - current) := by
      change hours (minTime incidentEnd (monthEnd current) - downtimeStart) = _
      rw [reached, minTime_eq, monthEnd_eq]
    have nonneg : 0 ≤ monthIndex := by
      have ordered := months.indexOf_mono started
      omega
    have inside : monthIndex < sums.length := by
      have bounded := before current running
      omega
    have next : months.start (months.indexOf (monthEnd current)) = monthEnd current := by
      rw [monthEnd_eq, months.indexOf_start]
    rw [ih (started.trans (le_of_lt (lt_monthEnd current)))
      (Or.inr (by rw [monthStart_eq, next])) (by rwa [addDowntime_length])
      (by rwa [addDowntime_length]), addDowntime_getD downtime nonneg inside within,
      common_split months running, hours_add, add_assoc]
    have same : months.indexOf periodStartDate + place = months.indexOf current ↔
        (place : Int) = monthIndex := by
      omega
    congr 2
    · by_cases here : (place : Int) = monthIndex
      · rw [if_pos here, if_pos (same.mpr here), length, same.mpr here]
      · rw [if_neg here, if_neg (fun equal => here (same.mp equal)), hours_zero]
    · rw [monthEnd_eq]
  | case2 current sums ended =>
    rw [common_of_le (not_lt.mp ended), hours_zero, add_zero]

/-! ## All outages -/

/-- The number of the month that is reported at a place, the oldest being at 0. -/
def reportedMonth (now : Time) (place : Nat) : Int :=
  months.indexOf now - availabilityMonths + place

/-- The length of the common part of an outage, a reported month and the time
from the first reported month until now. -/
def outagePart (now : Time) (place : Nat) (start finish : Time) : Int :=
  common (max start (periodStart now)) (min finish now)
    (months.start (reportedMonth now place)) (months.start (reportedMonth now place + 1))

variable {now : Time} {sums : List ℚ} {incidents : List Incident}

/-- The outage of an incident: only incidents of the highest impact that have
ended count. -/
def outageInterval (inc : Incident) : Option (Time × Time) :=
  match inc.endDate, inc.impact, inc.startDate with
  | some finish, some impact, some start =>
    if impact = outageImpact then some (start, finish) else none
  | _, _, _ => none

/-- The part of an incident in a reported month. -/
def outageOf (now : Time) (place : Nat) (inc : Incident) : Int :=
  match outageInterval inc with
  | some (start, finish) => outagePart now place start finish
  | none => 0

/-- The sum of the parts of all incidents in a reported month. -/
def outageLength (now : Time) (incidents : List Incident) (place : Nat) : Int :=
  (incidents.map (outageOf now place)).sum

theorem periodStart_eq (now : Time) : periodStart now = months.start (reportedMonth now 0) := by
  unfold periodStart
  rw [date_year_month, addMonths_start]
  congr 1
  unfold reportedMonth
  omega

theorem indexOf_periodStart (now : Time) :
    months.indexOf (periodStart now) = reportedMonth now 0 := by
  rw [periodStart_eq, months.indexOf_start]

theorem adjustIncidentPeriod_eq (start finish periodStart periodEnd : Time) :
    adjustIncidentPeriod start finish periodStart periodEnd =
      if finish < periodStart ∨ periodEnd < start then none
      else some (max start periodStart, min finish periodEnd) := by
  have clippedStart : (if start < periodStart then periodStart else start) =
      max start periodStart := by
    split_ifs with before
    · exact (max_eq_right (le_of_lt before)).symm
    · exact (max_eq_left (not_lt.mp before)).symm
  have clippedEnd : (if periodEnd < finish then periodEnd else finish) = min finish periodEnd := by
    split_ifs with after
    · exact (min_eq_right (le_of_lt after)).symm
    · exact (min_eq_left (not_lt.mp after)).symm
  unfold adjustIncidentPeriod
  rw [clippedStart, clippedEnd]

/-- The outage of an incident in the period is added to each month. -/
theorem walkMonths_outage (whole : sums.length = monthsInYear) (start finish : Time) {place : Nat}
    (within : place < monthsInYear) :
    (walkMonths (periodStart now) (max start (periodStart now)) (min finish now)
        (max start (periodStart now)) sums).getD place 0 =
      sums.getD place 0 + hours (outagePart now place start finish) := by
  have after : months.indexOf (periodStart now) ≤ months.indexOf (max start (periodStart now)) :=
    months.indexOf_mono (le_max_right _ _)
  have before : ∀ time < min finish now,
      months.indexOf time < months.indexOf (periodStart now) + sums.length := by
    intro time early
    have bounded := months.indexOf_mono (le_of_lt (early.trans_le (min_le_right finish now)))
    rw [indexOf_periodStart, whole]
    unfold reportedMonth availabilityMonths monthsInYear
    omega
  have number : months.indexOf (periodStart now) + place = reportedMonth now place := by
    rw [indexOf_periodStart]
    unfold reportedMonth
    omega
  rw [walkMonths_getD (le_refl _) (Or.inl rfl) after before (whole ▸ within), number]
  rfl

/-- The outage of one incident is added to each month. -/
theorem addIncident_eq (whole : sums.length = monthsInYear) {inc : Incident} (filled : Filled inc) :
    ∃ added, addIncident (periodStart now) now sums inc = some added ∧
      added.length = monthsInYear ∧ ∀ place < monthsInYear,
        added.getD place 0 = sums.getD place 0 + hours (outageOf now place inc) := by
  have skipped : (∀ place, outageOf now place inc = 0) → ∀ place < monthsInYear,
      sums.getD place 0 = sums.getD place 0 + hours (outageOf now place inc) := by
    intro none place _
    rw [none place, hours_zero, add_zero]
  rcases Option.isSome_iff_exists.mp filled.impact with ⟨impact, impactEq⟩
  rcases Option.isSome_iff_exists.mp filled.startDate with ⟨start, startEq⟩
  cases ended : inc.endDate with
  | none =>
    refine ⟨sums, by simp [addIncident, ended], whole, skipped ?_⟩
    intro place
    simp [outageOf, outageInterval, ended]
  | some finish =>
    have part : ∀ place, outageOf now place inc =
        if impact = outageImpact then outagePart now place start finish else 0 := by
      intro place
      unfold outageOf outageInterval
      rw [ended, impactEq, startEq]
      by_cases outage : impact = outageImpact
      · simp [outage]
      · simp [outage]
    have unfolded : addIncident (periodStart now) now sums inc =
        if impact ≠ outageImpact then some sums
        else (adjustIncidentPeriod start finish (periodStart now) now).elim (some sums)
          (fun period => some (walkMonths (periodStart now) period.1 period.2 period.1 sums)) := by
      unfold addIncident
      rw [ended, impactEq, startEq]
      dsimp only [Option.bind_eq_bind, Option.bind_some]
      cases adjustIncidentPeriod start finish (periodStart now) now <;> rfl
    rw [unfolded]
    by_cases outage : impact = outageImpact
    · rw [if_neg (not_not.mpr outage), adjustIncidentPeriod_eq]
      by_cases outside : finish < periodStart now ∨ now < start
      · rw [if_pos outside]
        refine ⟨sums, rfl, whole, skipped ?_⟩
        intro place
        rw [part, if_pos outage]
        apply common_of_le
        rcases outside with early | late
        · exact (min_le_left _ _).trans ((le_of_lt early).trans (le_max_right _ _))
        · exact (min_le_right _ _).trans ((le_of_lt late).trans (le_max_left _ _))
      · rw [if_neg outside]
        refine ⟨_, rfl, (walkMonths_length _ _ _ _ _).trans whole, ?_⟩
        intro place within
        rw [part, if_pos outage, walkMonths_outage whole start finish within]
    · rw [if_pos outage]
      refine ⟨sums, rfl, whole, skipped ?_⟩
      intro place
      rw [part, if_neg outage]

/-- The downtime of each month is the sum of the parts of all outages in it. -/
theorem foldlM_addIncident (whole : sums.length = monthsInYear)
    (filled : ∀ inc ∈ incidents, Filled inc) :
    ∃ added, incidents.foldlM (addIncident (periodStart now) now) sums = some added ∧
      added.length = monthsInYear ∧ ∀ place < monthsInYear,
        added.getD place 0 = sums.getD place 0 + hours (outageLength now incidents place) := by
  induction incidents generalizing sums with
  | nil =>
    refine ⟨sums, rfl, whole, ?_⟩
    intro place _
    change _ = _ + hours 0
    rw [hours_zero, add_zero]
  | cons inc incidents ih =>
    rcases addIncident_eq whole (filled inc List.mem_cons_self) with
      ⟨first, firstAdded, firstWhole, firstSums⟩
    rcases ih firstWhole (fun other member => filled other (List.mem_cons_of_mem _ member)) with
      ⟨added, rest, length, sumsAll⟩
    refine ⟨added, ?_, length, ?_⟩
    · rw [List.foldlM_cons, firstAdded]
      exact rest
    · intro place within
      rw [sumsAll place within, firstSums place within, add_assoc, ← hours_add]
      rfl

theorem monthlyDowntime_eq (now : Time) (filled : ∀ inc ∈ incidents, Filled inc) :
    ∃ downtime, monthlyDowntime now incidents = some downtime ∧
      downtime.length = monthsInYear ∧ ∀ place < monthsInYear,
        downtime.getD place 0 = hours (outageLength now incidents place) := by
  rcases foldlM_addIncident (List.length_replicate) filled with ⟨downtime, found, length, sums⟩
  refine ⟨downtime, found, length, ?_⟩
  intro place within
  rw [sums place within, List.getD_replicate, zero_add]
  exact within

/-! ## The report -/

/-- The length of a reported month. -/
def monthLength (now : Time) (place : Nat) : Int :=
  months.start (reportedMonth now place + 1) - months.start (reportedMonth now place)

/-- The percentage of a reported month before it is rounded. -/
def exactPercentage (now : Time) (downtime : List ℚ) (place : Nat) : ℚ :=
  percentageOf (downtime.getD place 0) (hours (monthLength now place))

/-- What is reported of a month. -/
def reportOf (now : Time) (downtime : List ℚ) (place : Nat) : MonthlyAvailability where
  year := reportedMonth now place / 12 + 1
  month := reportedMonth now place % 12 + 1
  percentage := roundPercentage (exactPercentage now downtime place)

/-- The months of a report, the newest first. -/
def reports (now : Time) (downtime : List ℚ) : List MonthlyAvailability :=
  ((List.range monthsInYear).map (reportOf now downtime)).reverse

theorem monthDate_eq (now : Time) (place : Nat) :
    addMonths (periodStart now) place = months.start (reportedMonth now place) := by
  have number : reportedMonth now 0 + place = reportedMonth now place := by
    unfold reportedMonth
    omega
  rw [periodStart_eq, addMonths_start, number]

theorem monthlyPercentage_eq (now : Time) (downtime : List ℚ) (place : Nat) :
    monthlyPercentage (periodStart now) downtime place = exactPercentage now downtime place := by
  unfold monthlyPercentage hoursInMonth
  dsimp only
  rw [monthDate_eq, date_year_month, months.indexOf_start, addMonths_start]
  rfl

theorem monthlyReport_eq (now : Time) (downtime : List ℚ) (place : Nat) :
    monthlyReport (periodStart now) downtime place = reportOf now downtime place := by
  unfold monthlyReport
  rw [monthlyPercentage_eq, monthDate_eq]
  unfold year month reportOf
  dsimp only
  rw [months.indexOf_start]

/-- Sorting turns a list around whose members are all in the wrong order. -/
theorem insertionSort_eq_reverse {α : Type} (before : α → α → Prop) [DecidableRel before]
    {items : List α} (wrong : items.Pairwise (fun first second => ¬ before first second)) :
    items.insertionSort before = items.reverse := by
  have last : ∀ (item : α) (others : List α), (∀ other ∈ others, ¬ before item other) →
      others.orderedInsert before item = others ++ [item] := by
    intro item others later
    induction others with
    | nil => rfl
    | cons other others ih =>
      rw [List.orderedInsert, if_neg (later other List.mem_cons_self),
        ih (fun next member => later next (List.mem_cons_of_mem _ member))]
      rfl
  induction items with
  | nil => rfl
  | cons item items ih =>
    rw [List.pairwise_cons] at wrong
    rw [List.insertionSort_cons, ih wrong.2, List.reverse_cons]
    apply last
    intro other member
    exact wrong.1 other (List.mem_reverse.mp member)

/-- The months are reported with the newest first. -/
theorem sortComponentAvailability_reports (now : Time) (downtime : List ℚ) :
    sortComponentAvailability ((List.range monthsInYear).map (reportOf now downtime)) =
      reports now downtime := by
  apply insertionSort_eq_reverse
  rw [List.pairwise_map]
  apply List.pairwise_lt_range.imp
  intro first second earlier
  have counted : reportedMonth now first < reportedMonth now second := by
    unfold reportedMonth
    omega
  intro newer
  by_cases sameYear : (reportOf now downtime first).year = (reportOf now downtime second).year
  · rw [if_pos sameYear] at newer
    dsimp only [reportOf] at newer sameYear
    omega
  · rw [if_neg sameYear] at newer
    dsimp only [reportOf] at newer sameYear
    omega

theorem calculateAvailability_eq {downtime : List ℚ} (nonempty : incidents ≠ [])
    (found : monthlyDowntime now incidents = some downtime) :
    calculateAvailability now incidents =
      some ((List.range monthsInYear).map (reportOf now downtime)) := by
  unfold calculateAvailability
  rw [if_neg nonempty, found]
  change some _ = some _
  apply congrArg
  apply List.map_congr_left
  intro place _
  exact monthlyReport_eq now downtime place

/-- The sums of a report are the lengths of the outages in its months, and its
months are the current one and those before it. -/
structure SplitsDowntime (now : Time) (incidents : List Incident) (downtime : List ℚ)
    (report : List MonthlyAvailability) : Prop where
  sums : ∀ back < monthsInYear, downtime[monthsInYear - 1 - back]? =
    some (hours (outageLength now incidents (monthsInYear - 1 - back)))
  calendar : report.map (fun entry => (entry.year, entry.month)) =
    (List.range monthsInYear).map (fun back : Nat =>
      ((months.indexOf now - back) / 12 + 1, (months.indexOf now - back) % 12 + 1))
  percentages : report.map MonthlyAvailability.percentage =
    (List.range monthsInYear).map (fun back =>
      roundPercentage (exactPercentage now downtime (monthsInYear - 1 - back)))

theorem range_reverse_eq (count : Nat) :
    (List.range count).reverse = (List.range count).map (fun back => count - 1 - back) := by
  apply List.ext_getElem
  · simp
  · intro place first second
    simp

theorem splitsDowntime_reports {downtime : List ℚ} (length : downtime.length = monthsInYear)
    (sums : ∀ place < monthsInYear,
      downtime.getD place 0 = hours (outageLength now incidents place)) :
    SplitsDowntime now incidents downtime (reports now downtime) where
  sums back inside := by
    have within : monthsInYear - 1 - back < monthsInYear := by
      unfold monthsInYear
      omega
    have sum := sums _ within
    rw [List.getD_eq_getElem?_getD, List.getElem?_eq_getElem (length ▸ within),
      Option.getD_some] at sum
    rw [List.getElem?_eq_getElem (length ▸ within), sum]
  calendar := by
    unfold reports
    rw [← List.map_reverse, range_reverse_eq, List.map_map, List.map_map]
    apply List.map_congr_left
    intro back listed
    have inside := List.mem_range.mp listed
    have number : reportedMonth now (monthsInYear - 1 - back) = months.indexOf now - back := by
      unfold monthsInYear at inside
      unfold reportedMonth availabilityMonths monthsInYear
      omega
    change (_, _) = (_, _)
    rw [← number]
    rfl
  percentages := by
    unfold reports
    rw [← List.map_reverse, range_reverse_eq, List.map_map, List.map_map]
    rfl

/-- The downtime is split over the months, and the months are reported with the
newest first. -/
theorem availability_split (now : Time) {incidents : List Incident} (nonempty : incidents ≠ [])
    (filled : ∀ inc ∈ incidents, Filled inc) :
    ∃ downtime report, monthlyDowntime now incidents = some downtime ∧
      (calculateAvailability now incidents).map sortComponentAvailability = some report ∧
      SplitsDowntime now incidents downtime report := by
  rcases monthlyDowntime_eq now filled with ⟨downtime, found, length, sums⟩
  refine ⟨downtime, reports now downtime, found, ?_, splitsDowntime_reports length sums⟩
  rw [calculateAvailability_eq nonempty found, Option.map_some, sortComponentAvailability_reports]

/-- An outage over a time. -/
def outageIncident (start finish : Time) : Incident where
  id := 1
  text := some "Outage"
  description := none
  startDate := some start
  endDate := some finish
  impact := some outageImpact
  statuses := []
  status := .resolved
  system := false
  type := .incident
  components := []
  createdAt := none
  modifiedAt := none
  deletedAt := none
  createdBy := none
  contactEmail := none
  version := none

/-- An outage around the turn of a year is split over two months. -/
theorem availability_split_turn : ∃ downtime report,
    monthlyDowntime (date 2024 3) [outageIncident (date 2023 12) (date 2024 2)] = some downtime ∧
      (calculateAvailability (date 2024 3) [outageIncident (date 2023 12) (date 2024 2)]).map
        sortComponentAvailability = some report ∧
      SplitsDowntime (date 2024 3) [outageIncident (date 2023 12) (date 2024 2)] downtime report := by
  apply availability_split
  · exact List.cons_ne_nil _ _
  · intro inc member
    rw [List.mem_singleton.mp member]
    exact ⟨rfl, rfl, rfl⟩

/-! ## Percentages -/

/-- All percentages of a report are between 0 and 100, before rounding and after it. -/
def StaysPercentage (now : Time) (incidents : List Incident) : Prop :=
  ∃ downtime report, monthlyDowntime now incidents = some downtime ∧
    (calculateAvailability now incidents).map sortComponentAvailability = some report ∧
    (∀ place < monthsInYear,
      monthlyPercentage (periodStart now) downtime place ∈ Set.Icc 0 100) ∧
    ∀ entry ∈ report, entry.percentage ∈ Set.Icc 0 100

/-- In each reported month the parts of the outages add up to no more than the
month. -/
def FitsMonths (now : Time) (incidents : List Incident) : Prop :=
  ∀ place < monthsInYear, outageLength now incidents place ≤ monthLength now place

instance (now : Time) (incidents : List Incident) : Decidable (FitsMonths now incidents) :=
  inferInstanceAs (Decidable (∀ place < monthsInYear, _ ≤ _))

theorem monthLength_pos (now : Time) (place : Nat) : 0 < monthLength now place :=
  Int.sub_pos_of_lt (months.increasing _)

theorem outageOf_nonneg (now : Time) (place : Nat) (inc : Incident) : 0 ≤ outageOf now place inc := by
  unfold outageOf
  split
  · exact common_nonneg _ _ _ _
  · exact le_refl 0

theorem outageLength_nonneg (now : Time) (incidents : List Incident) (place : Nat) :
    0 ≤ outageLength now incidents place := by
  apply List.sum_nonneg
  intro length member
  rcases List.mem_map.mp member with ⟨inc, _, rfl⟩
  exact outageOf_nonneg now place inc

/-- A percentage is one exactly if the downtime is between nothing and the whole. -/
theorem percentageOf_hours {downtime total : Int} (positive : 0 < total) :
    percentageOf (hours downtime) (hours total) ∈ Set.Icc 0 100 ↔
      0 ≤ downtime ∧ downtime ≤ total := by
  have ratio : percentageOf (hours downtime) (hours total) =
      100 - (downtime : ℚ) / total * 100 := by
    unfold percentageOf hours fullPercentage
    rw [div_div_div_cancel_right₀ (by norm_num)]
  have wholes : (0 : ℚ) < total := by exact_mod_cast positive
  rw [ratio, Set.mem_Icc]
  constructor
  · intro bounds
    have low : (0 : ℚ) ≤ downtime / total := by linarith [bounds.2]
    have high : (downtime : ℚ) / total ≤ 1 := by linarith [bounds.1]
    rw [div_le_one wholes] at high
    have lower : (0 : ℚ) ≤ downtime := by
      have product := mul_nonneg low (le_of_lt wholes)
      rwa [div_mul_cancel₀ _ (ne_of_gt wholes)] at product
    exact ⟨by exact_mod_cast lower, by exact_mod_cast high⟩
  · intro bounds
    have lower : (0 : ℚ) ≤ downtime := by exact_mod_cast bounds.1
    have upper : (downtime : ℚ) ≤ total := by exact_mod_cast bounds.2
    have low := div_nonneg lower (le_of_lt wholes)
    have high := (div_le_one wholes).mpr upper
    exact ⟨by linarith, by linarith⟩

/-- Rounding keeps a percentage one. -/
theorem roundPercentage_mem {availability : ℚ} (inside : availability ∈ Set.Icc 0 100) :
    roundPercentage availability ∈ Set.Icc 0 100 := by
  have scaled : 0 ≤ availability * precisionFactor + 1 / 2 ∧
      availability * precisionFactor + 1 / 2 < (10000001 : Int) := by
    unfold precisionFactor
    push_cast
    constructor
    · linarith [inside.1]
    · linarith [inside.2]
  have low : 0 ≤ ⌊availability * precisionFactor + 1 / 2⌋ := Int.floor_nonneg.mpr scaled.1
  have high : ⌊availability * precisionFactor + 1 / 2⌋ ≤ 10000000 :=
    Int.lt_add_one_iff.mp (Int.floor_lt.mpr scaled.2)
  unfold roundPercentage truncate
  rw [if_pos scaled.1]
  generalize ⌊availability * precisionFactor + 1 / 2⌋ = rounded at low high
  have lower : (0 : ℚ) ≤ rounded := by exact_mod_cast low
  have upper : (rounded : ℚ) ≤ 10000000 := by exact_mod_cast high
  unfold precisionFactor
  rw [Set.mem_Icc, le_div_iff₀ (by norm_num), div_le_iff₀ (by norm_num)]
  exact ⟨by linarith, by linarith⟩

section Bounds

variable {now : Time} {incidents : List Incident} (filled : ∀ inc ∈ incidents, Filled inc)

/-- The percentages before rounding are in their bounds exactly if the outages fit
the months. -/
theorem monthlyPercentage_mem_iff {downtime : List ℚ} {place : Nat}
    (sum : downtime.getD place 0 = hours (outageLength now incidents place)) :
    monthlyPercentage (periodStart now) downtime place ∈ Set.Icc 0 100 ↔
      outageLength now incidents place ≤ monthLength now place := by
  rw [monthlyPercentage_eq, exactPercentage, sum, percentageOf_hours (monthLength_pos now place)]
  exact and_iff_right (outageLength_nonneg now incidents place)

include filled

theorem fitsMonths_of_staysPercentage (stays : StaysPercentage now incidents) :
    FitsMonths now incidents := by
  rcases monthlyDowntime_eq now filled with ⟨downtime, found, _, sums⟩
  rcases stays with ⟨_, _, again, _, inside, _⟩
  cases found.symm.trans again
  intro place within
  exact (monthlyPercentage_mem_iff (sums place within)).mp (inside place within)

theorem staysPercentage_of_fitsMonths (fits : FitsMonths now incidents) :
    StaysPercentage now incidents := by
  rcases monthlyDowntime_eq now filled with ⟨downtime, found, _, sums⟩
  have bounds : ∀ place < monthsInYear,
      monthlyPercentage (periodStart now) downtime place ∈ Set.Icc 0 100 :=
    fun place within => (monthlyPercentage_mem_iff (sums place within)).mpr (fits place within)
  by_cases none : incidents = []
  · subst none
    exact ⟨downtime, [], found, rfl, bounds, nofun⟩
  · refine ⟨downtime, _, found,
      by rw [calculateAvailability_eq none found, Option.map_some], bounds, ?_⟩
    intro entry member
    rw [sortComponentAvailability_reports, reports, List.mem_reverse] at member
    rcases List.mem_map.mp member with ⟨place, within, rfl⟩
    have inside := bounds place (List.mem_range.mp within)
    rw [monthlyPercentage_eq] at inside
    exact roundPercentage_mem inside

/-- The percentages are in their bounds exactly if in each month the outages add
up to no more than the month. -/
theorem availability_percentage_iff :
    StaysPercentage now incidents ↔ FitsMonths now incidents :=
  ⟨fitsMonths_of_staysPercentage filled, staysPercentage_of_fitsMonths filled⟩

end Bounds

/-- Two outages over a whole month make its percentage negative. -/
theorem availability_percentage_fails :
    ¬ ∀ (now : Time) (incidents : List Incident), (∀ inc ∈ incidents, Filled inc) →
      StaysPercentage now incidents := by
  intro stays
  have filled : ∀ inc ∈ List.replicate 2 (outageIncident (date 2024 2) (date 2024 3)),
      Filled inc := by
    intro inc member
    rw [List.eq_of_mem_replicate member]
    exact ⟨rfl, rfl, rfl⟩
  have overlap : ¬ FitsMonths (date 2024 4)
      (List.replicate 2 (outageIncident (date 2024 2) (date 2024 3))) := by
    decide +kernel
  exact overlap (fitsMonths_of_staysPercentage filled (stays (date 2024 4) _ filled))

/-- One outage over a whole month makes its percentage 0. -/
theorem availability_percentage_month :
    FitsMonths (date 2024 4) [outageIncident (date 2024 2) (date 2024 3)] ∧
      StaysPercentage (date 2024 4) [outageIncident (date 2024 2) (date 2024 3)] := by
  have fits : FitsMonths (date 2024 4) [outageIncident (date 2024 2) (date 2024 3)] := by
    decide +kernel
  refine ⟨fits, (availability_percentage_iff ?_).mpr fits⟩
  intro inc member
  rw [List.mem_singleton.mp member]
  exact ⟨rfl, rfl, rfl⟩

end StatusDashboard.Properties
