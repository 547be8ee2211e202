import StatusDashboard.Checker.Info
import StatusDashboard.Handlers.Activity

namespace StatusDashboard.Properties

open Event Storage Notification Handlers Process Checker

/-!
# The clock law of the checkers

Both checkers compute the status of an event from its dates and the clock with
two strict comparisons and a default.  At the very instant an event starts
neither comparison holds, and the default calls the event completed.  At every
other instant the computed status is the one the dates call for.
-/

/-- The status the dates of an event call for, the end included and the start included. -/
structure FollowsClock (running : Status) (now startDate : Time) (endDate : Option Time)
    (computed : Status) : Prop where
  planned : computed = .planned ↔ now < startDate
  running : computed = running ↔ startDate ≤ now ∧ ∀ date ∈ endDate, now < date
  completed : computed = .completed ↔ startDate ≤ now ∧ ∃ date ∈ endDate, date ≤ now

/-- The instant is not the start of an event that goes on afterwards. -/
def OffStart (now startDate : Time) (endDate : Option Time) : Prop :=
  now = startDate → ∃ date ∈ endDate, date ≤ startDate

/-- The place of a status in the life of an event. -/
def lifeStage : Status → Nat
  | .planned => 0
  | .inProgress | .active => 1
  | _ => 2

section Law

variable {running : Status} {now later startDate : Time} {endDate : Option Time}

/-- The comparisons both checkers make. -/
def comparedStatus (running : Status) (now startDate : Time) (endDate : Option Time) : Status :=
  if now < startDate then .planned
  else if startDate < now && endDate.all (fun date => now < date) then running
  else .completed

theorem ended_iff : (∃ date ∈ endDate, date ≤ now) ↔ ¬ ∀ date ∈ endDate, now < date := by
  push Not
  rfl

theorem not_ended : (∀ date ∈ endDate, now < date) → ¬ ∃ date ∈ endDate, date ≤ now :=
  fun ongoing ended => ended_iff.mp ended ongoing

/-- Away from the start the comparisons tell the three cases apart. -/
theorem comparedStatus_eq (off : OffStart now startDate endDate) :
    comparedStatus running now startDate endDate =
      if now < startDate then .planned
      else if ∀ date ∈ endDate, now < date then running
      else .completed := by
  unfold comparedStatus
  split_ifs with before both ongoing ongoing
  · rfl
  · rfl
  · simp only [Bool.and_eq_true, Option.all_eq_true, decide_eq_true_eq] at both
    exact absurd both.2 ongoing
  · simp only [Bool.and_eq_true, Option.all_eq_true, decide_eq_true_eq, not_and] at both
    -- Only the instant of the start passes both comparisons without being ahead of the end.
    have start : now = startDate := by
      rcases eq_or_lt_of_le (not_lt.mp before) with same | passed
      · exact same.symm
      · exact absurd ongoing (both passed)
    rcases off start with ⟨date, member, early⟩
    exact absurd (ongoing date member) (not_lt.mpr (start ▸ early))
  · rfl

/-- The comparisons follow the clock exactly away from the start. -/
theorem comparedStatus_follows (notPlanned : running ≠ .planned)
    (notCompleted : running ≠ .completed) :
    FollowsClock running now startDate endDate (comparedStatus running now startDate endDate) ↔
      OffStart now startDate endDate := by
  constructor
  · intro follows start
    by_contra ongoing
    rw [start] at follows
    have computed : comparedStatus running startDate startDate endDate = .completed := by
      unfold comparedStatus
      simp
    exact ongoing (follows.completed.mp computed).2
  · intro off
    rw [comparedStatus_eq off]
    split_ifs with before ongoing
    · have early : ¬ startDate ≤ now := not_le.mpr before
      exact ⟨by simp [before], by simp [Ne.symm notPlanned, early], by simp [early]⟩
    · have passed : startDate ≤ now := not_lt.mp before
      exact ⟨by simp [notPlanned, before], iff_of_true rfl ⟨passed, ongoing⟩,
        iff_of_false notCompleted fun ended => not_ended ongoing ended.2⟩
    · have passed : startDate ≤ now := not_lt.mp before
      exact ⟨by simp [before], iff_of_false (Ne.symm notCompleted) fun going => ongoing going.2,
        iff_of_true rfl ⟨passed, ended_iff.mpr ongoing⟩⟩

/-- A status computed later is not an earlier one. -/
theorem comparedStatus_advances (stage : lifeStage running = 1)
    (off : OffStart now startDate endDate) (laterOff : OffStart later startDate endDate)
    (order : now ≤ later) :
    lifeStage (comparedStatus running now startDate endDate) ≤
      lifeStage (comparedStatus running later startDate endDate) := by
  have completed : lifeStage .completed = 2 := rfl
  rw [comparedStatus_eq off, comparedStatus_eq laterOff]
  by_cases before : now < startDate
  · rw [if_pos before]
    exact Nat.zero_le _
  have laterBefore : ¬ later < startDate := fun early => before (lt_of_le_of_lt order early)
  rw [if_neg before, if_neg laterBefore]
  by_cases laterOngoing : ∀ date ∈ endDate, later < date
  · have ongoing : ∀ date ∈ endDate, now < date := by
      intro date member
      exact lt_of_le_of_lt order (laterOngoing date member)
    rw [if_pos ongoing, if_pos laterOngoing]
  · rw [if_neg laterOngoing, completed]
    split_ifs
    · omega
    · omega

end Law

/-! ## The checkers -/

section Checkers

variable {event : Incident} {startDate : Time}

theorem evaluate_mntStatus (started : event.startDate = some startDate)
    (uncancelled : hasUpdate event .cancelled = false) (submitted : event.status ≠ .reviewed)
    (choice : Choice) (store : Store) :
    (calculateCurrentMntStatus (calculateMntStatusHistory event) event).evaluate database choice
      store = (.ok (comparedStatus .inProgress choice.now startDate event.endDate), store) := by
  unfold calculateCurrentMntStatus calculateMntStatusHistory
  rw [if_neg (by simp [uncancelled]), if_neg submitted]
  unfold mntStatusAt comparedStatus
  rw [started]
  rfl

theorem evaluate_infoStatus (started : event.startDate = some startDate)
    (uncancelled : hasUpdate event .cancelled = false) (choice : Choice) (store : Store) :
    (calculateCurrentInfoStatus (calculateInfoStatusHistory event) event).evaluate database choice
      store = (.ok (comparedStatus .active choice.now startDate event.endDate), store) := by
  unfold calculateCurrentInfoStatus calculateInfoStatusHistory
  rw [if_neg (by simp [uncancelled])]
  unfold infoStatusAt comparedStatus
  rw [started]
  rfl

end Checkers

/-- A status computed from the clock follows it exactly away from the start,
and there it never goes back and never completes an event without an end. -/
structure ClockLaw (running : Status) (startDate : Time) (endDate : Option Time)
    (computed : Time → Status) : Prop where
  follows : ∀ now,
    FollowsClock running now startDate endDate (computed now) ↔ OffStart now startDate endDate
  advances : ∀ now later, now ≤ later → OffStart now startDate endDate →
    OffStart later startDate endDate → lifeStage (computed now) ≤ lifeStage (computed later)
  ended : ∀ now, OffStart now startDate endDate → computed now = .completed → endDate.isSome

theorem comparedStatus_law {running : Status} (stage : lifeStage running = 1) (startDate : Time)
    (endDate : Option Time) :
    ClockLaw running startDate endDate
      fun now => comparedStatus running now startDate endDate := by
  have notPlanned : running ≠ .planned := by
    rintro rfl
    cases stage
  have notCompleted : running ≠ .completed := by
    rintro rfl
    cases stage
  constructor
  case follows =>
    intro now
    exact comparedStatus_follows notPlanned notCompleted
  case advances =>
    intro now later order off laterOff
    exact comparedStatus_advances stage off laterOff order
  case ended =>
    intro now off completed
    have follows := (comparedStatus_follows notPlanned notCompleted).mpr off
    obtain ⟨-, date, member, -⟩ := follows.completed.mp completed
    exact Option.isSome_of_mem member

/-- Both checkers obey the clock law of their own running status. -/
theorem checkers_clockLaw (event : Incident) (startDate : Time)
    (started : event.startDate = some startDate)
    (uncancelled : hasUpdate event .cancelled = false) :
    (event.status ≠ .reviewed → ∃ computed,
      (∀ choice store,
        (calculateCurrentMntStatus (calculateMntStatusHistory event) event).evaluate database
          choice store = (.ok (computed choice.now), store)) ∧
      ClockLaw .inProgress startDate event.endDate computed) ∧
    ∃ computed,
      (∀ choice store,
        (calculateCurrentInfoStatus (calculateInfoStatusHistory event) event).evaluate database
          choice store = (.ok (computed choice.now), store)) ∧
      ClockLaw .active startDate event.endDate computed := by
  refine ⟨fun submitted => ⟨_, ?_, comparedStatus_law rfl _ _⟩, _, ?_,
    comparedStatus_law rfl _ _⟩
  · exact evaluate_mntStatus started uncancelled submitted
  · exact evaluate_infoStatus started uncancelled

/-- A planned event of a type that starts at a given instant. -/
def startingAt (type : EventType) (startDate : Time) (endDate : Option Time) : Incident where
  text := some "Event"
  description := none
  startDate := some startDate
  endDate := endDate
  impact := some 0
  status := .planned
  system := false
  type := type
  components := []

/-- At the instant of their start an open-ended maintenance and an info event that
ends later are both computed as completed, and the next instant as running. -/
theorem checkers_clockLaw_fails :
    (calculateCurrentMntStatus (calculateMntStatusHistory (startingAt .maintenance 5 none))
      (startingAt .maintenance 5 none)).evaluate database (atTime 5) Store.empty =
        (.ok .completed, Store.empty) ∧
    ¬ FollowsClock .inProgress 5 5 none .completed ∧
    (calculateCurrentMntStatus (calculateMntStatusHistory (startingAt .maintenance 5 none))
      (startingAt .maintenance 5 none)).evaluate database (atTime 6) Store.empty =
        (.ok .inProgress, Store.empty) ∧
    (calculateCurrentInfoStatus (calculateInfoStatusHistory (startingAt .information 5 (some 9)))
      (startingAt .information 5 (some 9))).evaluate database (atTime 5) Store.empty =
        (.ok .completed, Store.empty) ∧
    ¬ FollowsClock .active 5 5 (some 9) .completed := by
  refine ⟨rfl, ?_, rfl, rfl, ?_⟩
  · intro follows
    obtain ⟨-, date, missing, -⟩ := follows.completed.mp rfl
    cases missing
  · intro follows
    obtain ⟨-, date, present, early⟩ := follows.completed.mp rfl
    cases present
    exact absurd early (by decide)

theorem checkers_clockLaw_window :
    (calculateCurrentMntStatus
      (calculateMntStatusHistory (startingAt .maintenance 5 (some 9)))
      (startingAt .maintenance 5 (some 9))).evaluate database (atTime 7) Store.empty =
        (.ok .inProgress, Store.empty) ∧
    OffStart 7 5 (some 9) ∧ FollowsClock .inProgress 7 5 (some 9) .inProgress := by
  have off : OffStart 7 5 (some 9) := fun same => absurd same (by decide)
  obtain ⟨computed, runs, law⟩ :=
    (checkers_clockLaw (startingAt .maintenance 5 (some 9)) 5 rfl rfl).1 (by decide)
  have now : computed 7 = .inProgress := by
    have result := (runs (atTime 7) Store.empty).symm
    injection result with value
    injection value
  exact ⟨rfl, off, now ▸ (law.follows 7).mpr off⟩

end StatusDashboard.Properties
