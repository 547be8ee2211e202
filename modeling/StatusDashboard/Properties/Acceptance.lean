import StatusDashboard.Handlers.Patch
import StatusDashboard.Properties.Backfill
import StatusDashboard.Provenance.Completion

namespace StatusDashboard.Properties

open Event Storage Handlers

/-!
# Which changes of an incident are accepted

The documented rules for a PATCH of an incident fix the impact to 1, 2 or 3 and
let an open incident follow the open statuses and `changed`.  The checks of the
source are the same rules with two of them wider: any impact but 0 passes, and
an open incident may also be `reopened`.  Both are stated here as one set of
rules with these two parameters.
-/

section Rules

variable (impacts : Int → Prop) (openStatuses : Status → Prop)
variable (data : PatchIncidentData) (stored : Incident)

/-- The impact after the change. -/
def effectiveImpact : Int := data.impact.getD (stored.impact.getD 0)

/-- A closed incident is reopened or corrected, its dates only by a correction. -/
structure ClosedChange : Prop where
  status : data.status = .reopened ∨ data.status = .changed
  dates : data.startDate ≠ none ∨ data.endDate ≠ none → data.status = .changed

/-- An open incident keeps its start, and its impact unless the status says so. -/
structure OpenChange : Prop where
  status : openStatuses data.status
  impact : ∀ impact ∈ data.impact, impact ≠ stored.impact.getD 0 → data.status = .impactChanged
  startDate : data.startDate = none

structure Allowed : Prop where
  type : ∀ type ∈ data.type, type = stored.type
  description : ∀ text ∈ data.description, text.length ≤ maxDescriptionLength
  impact : impacts (effectiveImpact data stored)
  change : stored.endDate ≠ none ∧ ClosedChange data ∨
    stored.endDate = none ∧ OpenChange openStatuses data stored

end Rules

/-- The rules as they are documented. -/
def Documented : PatchIncidentData → Incident → Prop :=
  Allowed (fun impact => 1 ≤ impact ∧ impact ≤ 3)
    (fun status => isIncidentOpenStatus status = true ∨ status = .changed)

/-- The rules as they are checked. -/
def Checked : PatchIncidentData → Incident → Prop :=
  Allowed (fun impact => impact ≠ 0)
    (fun status => isIncidentOpenStatus status = true ∨ isIncidentClosedStatus status = true)

section Checks

variable {data : PatchIncidentData} {stored : Incident}

theorem isIncidentClosedStatus_iff (status : Status) :
    isIncidentClosedStatus status = true ↔ status = .reopened ∨ status = .changed := by
  cases status <;> simp [isIncidentClosedStatus]

/-- The status is known and fits the state of the incident, and so do the other fields. -/
theorem checkPatchDataForIncident_eq_none_iff (data : PatchIncidentData)
    (incident : stored.type = .incident) :
    (validateStatusesPatch data stored = none ∧ checkPatchDataForIncident data stored = none) ↔
      (stored.endDate ≠ none ∧ ClosedChange data ∨
        stored.endDate = none ∧ OpenChange (fun status => isIncidentOpenStatus status = true ∨
          isIncidentClosedStatus status = true) data stored) := by
  have known : validateStatusesPatch data stored = none ↔
      isIncidentOpenStatus data.status = true ∨ isIncidentClosedStatus data.status = true := by
    unfold validateStatusesPatch
    rw [incident]
    cases isIncidentOpenStatus data.status <;> cases isIncidentClosedStatus data.status <;> simp
  rw [known]
  unfold checkPatchDataForIncident
  cases ended : stored.endDate with
  | some =>
    simp only [Option.isSome_some, if_true, reduceCtorEq, not_false_eq_true, ne_eq, true_and,
      false_and, or_false]
    constructor
    · rintro ⟨_, passed⟩
      split_ifs at passed with status dates
      have closed := (isIncidentClosedStatus_iff data.status).mp (by simpa using status)
      refine ⟨closed, ?_⟩
      intro named
      by_contra other
      exact dates ⟨by simpa [Option.isSome_iff_ne_none] using named, other⟩
    · rintro ⟨status, dates⟩
      have closed := (isIncidentClosedStatus_iff data.status).mpr status
      refine ⟨Or.inr closed, ?_⟩
      rw [if_neg (by simp [closed]), if_neg]
      rintro ⟨named, other⟩
      exact other (dates (by simpa [Option.isSome_iff_ne_none] using named))
  | none =>
    simp only [Option.isSome_none, Bool.false_eq_true, if_false, ne_eq, not_true_eq_false,
      false_and, true_and, false_or]
    constructor
    · rintro ⟨status, passed⟩
      split_ifs at passed with impact start
      refine ⟨status, ?_, by simpa using start⟩
      intro value named different
      by_contra other
      exact impact ⟨by simpa [Option.any_eq_true] using ⟨value, named, different⟩, other⟩
    · rintro ⟨status, impact, start⟩
      refine ⟨status, ?_⟩
      rw [if_neg, if_neg (by simp [start])]
      rintro ⟨changed, other⟩
      rcases (by simpa [Option.any_eq_true] using changed :
        ∃ value, data.impact = some value ∧ value ≠ stored.impact.getD 0) with
        ⟨value, named, different⟩
      exact other (impact value named different)

theorem validateEffectiveTypeAndImpact_eq_none_iff (impact : Int) :
    validateEffectiveTypeAndImpact .incident impact = none ↔ impact ≠ 0 := by
  unfold validateEffectiveTypeAndImpact
  by_cases zero : impact = 0 <;> simp [zero]

/-- The checks of the source accept exactly what the wider rules allow. -/
theorem checkPatchData_eq_none_iff (incident : stored.type = .incident) :
    checkPatchData data stored = none ↔ Checked data stored := by
  have change := checkPatchDataForIncident_eq_none_iff data incident
  constructor
  · intro accepted
    have passed := Provenance.checkPatchData_none accepted
    rw [incident, validateEffectiveTypeAndImpact_eq_none_iff] at passed
    unfold checkPatchData at accepted
    split_ifs at accepted with long type
    refine ⟨?_, ?_, passed.1, change.mp ⟨passed.2.1, passed.2.2 rfl⟩⟩
    · intro named member
      by_contra different
      exact type (by simpa [Option.any_eq_true] using ⟨named, member, different⟩)
    · intro text member
      by_contra longer
      exact long (by simpa [Option.any_eq_true] using ⟨text, member, not_le.mp longer⟩)
  · rintro ⟨type, description, impact, fits⟩
    rcases change.mpr fits with ⟨status, rest⟩
    have named : ¬ data.type.any (fun type => type ≠ stored.type) = true := by
      simpa [Option.any_eq_true] using type
    have short : ¬ data.description.any (fun text => maxDescriptionLength < text.length) = true := by
      simpa [Option.any_eq_true] using description
    have effective : validateEffectiveTypeAndImpact .incident
        (data.impact.getD (stored.impact.getD 0)) = none :=
      (validateEffectiveTypeAndImpact_eq_none_iff _).mpr impact
    unfold checkPatchData
    rw [if_neg short, if_neg named, incident, effective, status, if_pos rfl, rest]
    rfl

/-- The documented rules are the checked ones with an impact in range and without
reopening what is open. -/
theorem documented_iff : Documented data stored ↔ Checked data stored ∧
    (1 ≤ effectiveImpact data stored ∧ effectiveImpact data stored ≤ 3) ∧
    ¬ (stored.endDate = none ∧ data.status = .reopened) := by
  constructor
  · rintro ⟨type, description, range, change⟩
    refine ⟨⟨type, description, by omega, ?_⟩, range, ?_⟩
    · refine change.imp_right (And.imp_right fun fits => ⟨?_, fits.impact, fits.startDate⟩)
      rcases fits.status with isOpen | changed
      · exact Or.inl isOpen
      · exact Or.inr ((isIncidentClosedStatus_iff _).mpr (Or.inr changed))
    · rintro ⟨isOpen, reopened⟩
      rcases change with ⟨closed, _⟩ | ⟨_, fits⟩
      · exact closed isOpen
      · have status := fits.status
        rw [reopened] at status
        exact absurd status (by decide)
  · rintro ⟨⟨type, description, _, change⟩, range, kept⟩
    refine ⟨type, description, range, ?_⟩
    rcases change with closed | ⟨isOpen, fits⟩
    · exact Or.inl closed
    · refine Or.inr ⟨isOpen, ?_, fits.impact, fits.startDate⟩
      rcases fits.status with running | closing
      · exact Or.inl running
      · rcases (isIncidentClosedStatus_iff _).mp closing with reopened | changed
        · exact absurd ⟨isOpen, reopened⟩ kept
        · exact Or.inr changed

end Checks

/-- A PATCH of a stored incident is accepted exactly as documented, unless it
passes the wider rules with an impact out of range or reopens an open incident. -/
theorem patch_accepts_iff (store : Store) (id : Nat) (row : IncidentRow)
    (incident : row.type = .incident) (data : PatchIncidentData) :
    (checkPatchData data (storedCopy store (id, row)) = none ↔
        Documented data (storedCopy store (id, row))) ↔
      (Checked data (storedCopy store (id, row)) →
        (1 ≤ effectiveImpact data (storedCopy store (id, row)) ∧
          effectiveImpact data (storedCopy store (id, row)) ≤ 3) ∧
        ¬ ((storedCopy store (id, row)).endDate = none ∧ data.status = .reopened)) := by
  have typed : (storedCopy store (id, row)).type = .incident := incident
  rw [checkPatchData_eq_none_iff typed, documented_iff]
  constructor
  · intro same passed
    exact (same.mp passed).2
  · intro strict
    exact ⟨fun passed => ⟨passed, strict passed⟩, And.left⟩

/-- An incident of impact 2, open or closed. -/
def incidentRow (endDate : Option Time) : IncidentRow :=
  { plannedRow .incident 5 endDate with impact := 2, status := some .analysing }

def plainPatch (status : Status) (impact : Option Int) : PatchIncidentData where
  title := none
  description := none
  impact := impact
  message := "update"
  status := status
  updateDate := 7
  startDate := none
  endDate := none
  type := none
  version := none

/-- An open incident is reopened, and gets an impact that does not exist. -/
theorem patch_accepts_fails :
    (checkPatchData (plainPatch .reopened none)
        (storedCopy Store.empty (1, incidentRow none)) = none ∧
      ¬ Documented (plainPatch .reopened none) (storedCopy Store.empty (1, incidentRow none))) ∧
    checkPatchData (plainPatch .impactChanged (some 7))
        (storedCopy Store.empty (1, incidentRow none)) = none ∧
      ¬ Documented (plainPatch .impactChanged (some 7))
        (storedCopy Store.empty (1, incidentRow none)) := by
  refine ⟨⟨by decide, ?_⟩, by decide, ?_⟩
  · rintro documented
    rcases documented.change with ⟨closed, _⟩ | ⟨_, fits⟩
    · exact closed rfl
    · exact absurd fits.status (by decide)
  · intro documented
    exact absurd documented.impact (by decide)

/-- Resolving an open incident is accepted as documented. -/
theorem patch_accepts_resolved :
    (checkPatchData (plainPatch .resolved none) (storedCopy Store.empty (1, incidentRow none)) =
        none ↔ Documented (plainPatch .resolved none)
          (storedCopy Store.empty (1, incidentRow none))) ∧
      checkPatchData (plainPatch .resolved none) (storedCopy Store.empty (1, incidentRow none)) =
        none :=
  ⟨(patch_accepts_iff _ _ _ rfl _).mpr (fun _ => by decide), by decide⟩

end StatusDashboard.Properties
