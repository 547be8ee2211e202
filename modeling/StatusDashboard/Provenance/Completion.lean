import StatusDashboard.Provenance.Issue

namespace StatusDashboard.Provenance

open Event Storage Tables Handlers Checker

/-!
# What checks and selections imply

Facts about the pure parts of a request: which rows the queries of a system
creation select, which patches pass their checks, and how the checkers complete
the history of an event.
-/

/-! ## Selected rows -/

theorem systemParams_selects {store : Store} {id : Nat} {row : IncidentRow}
    (selected : eventsCondition systemParams authorizedAccess store id row) :
    row.type = .incident ∧ row.system = true := by
  rcases selected with ⟨time, conditions⟩
  rw [List.all_eq_true] at conditions
  have type := conditions (some ([EventType.incident].contains row.type))
    (by simp [applyEventsFilters, systemParams])
  have system := conditions (some (row.system == true))
    (by simp [applyEventsFilters, systemParams])
  simp only [Truth.selects_some, List.contains_eq_mem, List.mem_singleton, decide_eq_true_eq,
    beq_iff_eq] at type system
  exact ⟨type, system⟩

theorem componentParams_selects {componentID : Nat} {store : Store} {id : Nat} {row : IncidentRow}
    (selected : componentCondition componentID componentParams store id row) :
    componentID ∈ store.componentIds id ∧ (row.type = .incident ∨ row.type = .maintenance) := by
  rcases selected with ⟨time, conditions⟩
  rw [List.all_eq_true] at conditions
  have linked := conditions (some ((store.componentIds id).contains componentID))
    (by simp [componentEventConditions])
  have type := conditions (some ([EventType.incident, .maintenance].contains row.type))
    (by simp [componentEventConditions, componentParams])
  simp only [Truth.selects_some, List.contains_eq_mem, List.mem_cons, List.not_mem_nil, or_false,
    decide_eq_true_eq] at linked type
  exact ⟨linked, type⟩

/-! ## Accepted patches -/

/-- What an accepted patch has passed. -/
theorem prepareIncidentPatch_none {caller : Caller} {stored : Incident} {data : PatchIncidentData}
    (allowed : prepareIncidentPatch caller stored data = none) :
    checkPatchData data stored = none ∧
      (stored.type = .maintenance → allowMaintenancePatch caller stored data = none) := by
  unfold prepareIncidentPatch at allowed
  split at allowed
  · cases allowed
  · rename_i checked
    refine ⟨checked, ?_⟩
    intro maintenance
    rwa [if_pos maintenance] at allowed

theorem checkPatchData_none {incoming : PatchIncidentData} {stored : Incident}
    (checked : checkPatchData incoming stored = none) :
    validateEffectiveTypeAndImpact stored.type (incoming.impact.getD (stored.impact.getD 0)) =
        none ∧
      validateStatusesPatch incoming stored = none ∧
      (stored.type = .incident → checkPatchDataForIncident incoming stored = none) := by
  unfold checkPatchData at checked
  split_ifs at checked with long type incident
  · simp only [Option.or_eq_none_iff] at checked
    exact ⟨checked.1.1, checked.1.2, fun _ => checked.2⟩
  · simp only [Option.or_eq_none_iff] at checked
    exact ⟨checked.1.1, checked.1.2, fun same => absurd same incident⟩

/-- Only incidents can be reopened. -/
theorem incident_of_reopened {caller : Caller} {stored : Incident} {data : PatchIncidentData}
    (allowed : prepareIncidentPatch caller stored data = none)
    (reopened : data.status = .reopened) : stored.type = .incident := by
  have statuses := (checkPatchData_none (prepareIncidentPatch_none allowed).1).2.1
  unfold validateStatusesPatch at statuses
  rw [reopened] at statuses
  cases type : stored.type with
  | information => simp [type, isInformationStatus] at statuses
  | incident => rfl
  | maintenance => simp [type, isMaintenanceStatus] at statuses

/-! ## Completed histories -/

/-- A copy that got new updates of its own event, by nobody, and nothing else. -/
def Completes (before after : Incident) : Prop :=
  ∃ added : List IncidentStatus,
    after = { before with statuses := before.statuses ++ added } ∧
      ∀ update ∈ added, (update.id = 0 ∧ update.incidentId = before.id) ∧
        update.createdBy = none ∧ update.modifiedBy = none

theorem Completes.refl (incident : Incident) : Completes incident incident :=
  ⟨[], by rw [List.append_nil], List.forall_mem_nil _⟩

theorem Completes.trans {first second third : Incident} (before : Completes first second)
    (after : Completes second third) : Completes first third := by
  rcases before with ⟨early, rfl, earlyOwn⟩
  rcases after with ⟨late, rfl, lateOwn⟩
  exact ⟨early ++ late, by rw [List.append_assoc], List.forall_mem_append.mpr ⟨earlyOwn, lateOwn⟩⟩

theorem completes_addUpdate (incident : Incident) (status : Status) (text : String)
    (timestamp : Time) : Completes incident (addUpdate incident status text timestamp) := by
  refine ⟨[_], rfl, ?_⟩
  intro update member
  rw [List.mem_singleton] at member
  subst member
  exact ⟨⟨rfl, rfl⟩, rfl, rfl⟩

theorem completes_fixMntPlanned (history : MntStatusHistory) (mn : Incident) :
    Completes mn (fixMntPlanned history mn).2 := by
  unfold fixMntPlanned
  split_ifs
  · exact .refl mn
  · exact completes_addUpdate mn _ _ _

theorem completes_fixMntInProgress (history : MntStatusHistory) (mn : Incident) :
    Completes mn (fixMntInProgress history mn).2 := by
  have planned := completes_fixMntPlanned history mn
  unfold fixMntInProgress
  dsimp only
  split_ifs
  · exact planned
  · exact planned.trans (completes_addUpdate _ _ _ _)

theorem completes_fixMntMissedStatuses {status : Status} {history : MntStatusHistory}
    {mn fixed : Incident} (fixes : fixMntMissedStatuses status history mn = some fixed) :
    Completes mn fixed := by
  unfold fixMntMissedStatuses at fixes
  split at fixes
  · cases fixes
    exact completes_fixMntPlanned history mn
  · cases fixes
    exact completes_fixMntInProgress history mn
  · have progress := completes_fixMntInProgress history mn
    unfold fixMntCompleted at fixes
    dsimp only at fixes
    split_ifs at fixes
    · cases fixes
      exact progress
    · split at fixes
      · cases fixes
      · cases fixes
        exact progress.trans (completes_addUpdate _ _ _ _)
  · split_ifs at fixes
    · cases fixes
      exact completes_fixMntPlanned history mn
    · cases fixes
      exact .refl mn
  · cases fixes
    exact .refl mn

theorem completes_fixInfoPlanned (history : InfoStatusHistory) (info : Incident) :
    Completes info (fixInfoPlanned history info).2 := by
  unfold fixInfoPlanned
  split_ifs
  · exact .refl info
  · exact completes_addUpdate info _ _ _

theorem completes_fixInfoActive (history : InfoStatusHistory) (info : Incident) :
    Completes info (fixInfoActive history info).2 := by
  have planned := completes_fixInfoPlanned history info
  unfold fixInfoActive
  dsimp only
  split_ifs
  · exact planned
  · exact planned.trans (completes_addUpdate _ _ _ _)

theorem completes_fixInfoMissedStatuses {status : Status} {history : InfoStatusHistory}
    {info fixed : Incident} (fixes : fixInfoMissedStatuses status history info = some fixed) :
    Completes info fixed := by
  unfold fixInfoMissedStatuses at fixes
  split at fixes
  · cases fixes
    exact completes_fixInfoPlanned history info
  · cases fixes
    exact completes_fixInfoActive history info
  · have active := completes_fixInfoActive history info
    unfold fixInfoCompleted at fixes
    dsimp only at fixes
    split_ifs at fixes
    · cases fixes
      exact active
    · split at fixes
      · cases fixes
      · cases fixes
        exact active.trans (completes_addUpdate _ _ _ _)
  · cases fixes
    exact completes_fixInfoPlanned history info
  · cases fixes
    exact .refl info

end StatusDashboard.Provenance
