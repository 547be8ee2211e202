import Mathlib

namespace StatusDashboard.Calendar

/-!
# Divisions of the time line

Time is counted in units from some origin.  A division cuts the time line into
consecutive periods, numbered by the integers; `indexOf` finds the period of a
time.  Nothing is assumed about the lengths of the periods but that they are
positive.
-/

structure Division where
  start : Int → Int
  indexOf : Int → Int
  start_le : ∀ time, start (indexOf time) ≤ time
  lt_next : ∀ time, time < start (indexOf time + 1)
  increasing : ∀ index, start index < start (index + 1)

namespace Division

variable (division : Division)

theorem start_strictMono : StrictMono division.start :=
  strictMono_int_of_lt_succ division.increasing

theorem start_le_iff {first second : Int} :
    division.start first ≤ division.start second ↔ first ≤ second :=
  division.start_strictMono.le_iff_le

theorem start_lt_iff {first second : Int} :
    division.start first < division.start second ↔ first < second :=
  division.start_strictMono.lt_iff_lt

/-- A time is in the period whose bounds are around it. -/
theorem indexOf_eq_iff {time index : Int} :
    division.indexOf time = index ↔
      division.start index ≤ time ∧ time < division.start (index + 1) := by
  constructor
  · intro same
    subst same
    exact ⟨division.start_le time, division.lt_next time⟩
  · intro inside
    have below : division.indexOf time < index + 1 :=
      division.start_lt_iff.mp ((division.start_le time).trans_lt inside.2)
    have above : index < division.indexOf time + 1 :=
      division.start_lt_iff.mp (inside.1.trans_lt (division.lt_next time))
    omega

@[simp] theorem indexOf_start (index : Int) : division.indexOf (division.start index) = index :=
  division.indexOf_eq_iff.mpr ⟨le_refl _, division.increasing index⟩

theorem indexOf_mono {first second : Int} (before : first ≤ second) :
    division.indexOf first ≤ division.indexOf second := by
  have reached : division.start (division.indexOf first) <
      division.start (division.indexOf second + 1) :=
    (division.start_le first).trans_lt (before.trans_lt (division.lt_next second))
  have ordered := division.start_lt_iff.mp reached
  omega

end Division

/-! ## Common parts -/

/-- The length of the common part of two intervals. -/
def common (start finish otherStart otherFinish : Int) : Int :=
  max 0 (min finish otherFinish - max start otherStart)

theorem common_nonneg (start finish otherStart otherFinish : Int) :
    0 ≤ common start finish otherStart otherFinish :=
  le_max_left _ _

theorem common_of_le {start finish : Int} (empty : finish ≤ start) (otherStart otherFinish : Int) :
    common start finish otherStart otherFinish = 0 := by
  unfold common
  omega

/-- The common part with a period is cut from the front of the interval, and the
rest of the interval has no common part with it. -/
theorem common_split (division : Division) {start finish : Int} (nonempty : start < finish)
    (index : Int) :
    common start finish (division.start index) (division.start (index + 1)) =
      (if index = division.indexOf start
        then min finish (division.start (index + 1)) - start else 0) +
      common (division.start (division.indexOf start + 1)) finish (division.start index)
        (division.start (index + 1)) := by
  have within := division.start_le start
  have next := division.lt_next start
  unfold common
  rcases lt_trichotomy index (division.indexOf start) with before | here | after
  · have past : division.start (index + 1) ≤ division.start (division.indexOf start) :=
      division.start_le_iff.mpr before
    rw [if_neg (ne_of_lt before)]
    omega
  · subst here
    rw [if_pos rfl]
    omega
  · have ahead : division.start (division.indexOf start + 1) ≤ division.start index :=
      division.start_le_iff.mpr after
    rw [if_neg (ne_of_gt after)]
    omega

end StatusDashboard.Calendar
