import StatusDashboard.Sequence.Change

namespace StatusDashboard.Properties

open Event Storage Tables Handlers Process Provenance Sequence

/-!
# One open system incident for each impact

A system creation puts an incident on an impact level in three ways: it creates
one, it raises one in place, or it splits one off another.  Each time it has just
listed the active system incidents and found none on that level.  An open
incident is always active, so the list misses none of them.
-/

variable {store : Store} {row : IncidentRow} {impact : Int}

/-- The row of an open system incident of some impact. -/
structure OpenRow (impact : Int) (row : IncidentRow) : Prop where
  type : row.type = .incident
  system : row.system = true
  ongoing : row.endDate = none
  level : row.impact = impact

/-- An open system incident of some impact is stored under an id. -/
def OpenAt (store : Store) (impact : Int) (id : Nat) : Prop :=
  ∃ row, store.incidents.get? id = some row ∧ OpenRow impact row

/-- No two open system incidents have the same impact. -/
def OnePerImpact (store : Store) : Prop :=
  ∀ impact first second, OpenAt store impact first → OpenAt store impact second → first = second

/-- Nothing new is open. -/
theorem onePerImpact_of_subset {later : Store} (one : OnePerImpact store)
    (origin : ∀ impact id, OpenAt later impact id → OpenAt store impact id) :
    OnePerImpact later :=
  fun impact first second openFirst openSecond =>
    one impact first second (origin impact first openFirst) (origin impact second openSecond)

/-- One incident is put on a level that was free. -/
theorem onePerImpact_of_added {later : Store} {level : Int} {new : Nat} (one : OnePerImpact store)
    (free : ∀ id, ¬ OpenAt store level id) (origin : ∀ impact id, OpenAt later impact id →
      OpenAt store impact id ∨ (impact = level ∧ id = new)) : OnePerImpact later := by
  intro impact first second openFirst openSecond
  rcases origin impact first openFirst with old | ⟨rfl, rfl⟩
  · rcases origin impact second openSecond with other | ⟨rfl, rfl⟩
    · exact one impact first second old other
    · exact absurd old (free first)
  · rcases origin impact second openSecond with other | ⟨_, rfl⟩
    · exact absurd other (free second)
    · rfl

/-! ## What the lists show -/

/-- An event is active while it is open; otherwise its end date is later than the
zero time. -/
theorem active_endDate {time : Time} {finished : List Status} (clock : zeroTime < time)
    (active : Truth.selects (activeCondition time finished row) = true) :
    row.endDate ≠ some zeroTime := by
  intro zero
  have early : ¬ time ≤ zeroTime := not_le.mpr clock
  simp [activeCondition, zero, Truth.compare, early] at active

/-- A copy of a system incident that was listed as active: its dates are those of
the row, because the row does not end at the zero time. -/
structure SystemCopy (copy : Incident) (row : IncidentRow) : Prop where
  type : row.type = .incident
  system : row.system = true
  impact : copy.impact = some row.impact
  endDate : copy.endDate = row.endDate

theorem systemCopy_of_stored {copy : Incident} (shape : copy = storedCopy store (copy.id, row))
    (type : row.type = .incident) (system : row.system = true)
    (ending : row.endDate ≠ some zeroTime) : SystemCopy copy row := by
  refine ⟨type, system, by rw [shape]; rfl, ?_⟩
  rw [shape]
  exact optTimePtr_of_ne ending

/-- The system incident found on a level is one. -/
theorem onLevel_some {target : Incident} (level : OnLevel afterZero impact store (some target)) :
    ∃ row, store.incidents.get? target.id = some row ∧ SystemCopy target row := by
  rcases level.target with ⟨time, row, clock, present, selected, shape, _⟩
  have meets : eventsCondition systemParams authorizedAccess store target.id row :=
    ⟨time, selected⟩
  have columns := systemParams_selects meets
  refine ⟨row, present, systemCopy_of_stored shape columns.1 columns.2 ?_⟩
  exact active_endDate clock (active_of_filters rfl selected)

/-- A level on which no system incident was found is free. -/
theorem onLevel_none (level : OnLevel afterZero impact store none) (id : Nat) :
    ¬ OpenAt store impact id := by
  rintro ⟨row, found, opened⟩
  rcases level with ⟨time, incidents, clock, lists, none⟩
  have listed : storedCopy store (id, row) ∈ incidents := by
    apply lists.complete id row found
    simp [applyEventsFilters, systemParams, dateConditions, opened.type, opened.system,
      open_active opened.ongoing, authorizedAccess]
  have unmatched := List.find?_eq_none.mp none _ listed
  have same : (storedCopy store (id, row)).impact = some impact := by
    rw [← opened.level]
    rfl
  rw [same] at unmatched
  exact unmatched (by simp)

/-- The system incident a component is taken out of is one. -/
theorem outranked_stored {data : IncidentData} {component : Component} {source : Incident}
    (outranked : Outranked afterZero data component source store) :
    ∃ row, store.incidents.get? source.id = some row ∧ SystemCopy source row := by
  rcases outranked.source with ⟨time, row, clock, found, selected, shape, type, system⟩
  refine ⟨row, found, systemCopy_of_stored shape ?_ ?_ ?_⟩
  · rw [shape] at type
    exact type
  · rw [shape] at system
    exact system
  · exact active_endDate clock (active_of_component rfl selected)

/-! ## What the transactions open -/

/-- A row that is open after a transaction was there before, or is inserted. -/
theorem openAt_cases {β : Type} {statement : EventWrite β} {choice : Choice} {value : β}
    {final : Store} {id : Nat} (commits : statement.exec choice store = .ok (value, final))
    (opened : OpenAt final impact id) :
    (∃ row, store.incidents.get? id = some row ∧
      OpenRow impact (statement.rewritten choice id row)) ∨
    (id = store.incidents.nextId ∧ ∃ row, statement.inserted choice = some row ∧
      OpenRow impact row) := by
  have footprint := exec_footprint commits
  rcases opened with ⟨row, found, opened⟩
  cases before : store.incidents.get? id with
  | some earlier =>
    rw [footprint.rows id earlier before] at found
    cases found
    exact Or.inl ⟨earlier, rfl, opened⟩
  | none =>
    rw [footprint.fresh id before] at found
    split_ifs at found with new
    exact Or.inr ⟨new, row, found, opened⟩

/-- A full save of a copy opens nothing: the row is open afterwards only if it
was, with the same impact. -/
theorem SystemCopy.openRow {now : Time} {copy saved : Incident} {current : IncidentRow}
    (mirrors : SystemCopy copy row) (sameImpact : saved.impact = copy.impact)
    (ending : saved.endDate = none → copy.endDate = none)
    (opened : OpenRow impact (fullRow now saved current)) : OpenRow impact row := by
  have level : saved.impact.getD 0 = impact := opened.level
  rw [sameImpact, mirrors.impact] at level
  exact ⟨mirrors.type, mirrors.system, mirrors.endDate ▸ ending opened.ongoing, level⟩

section Transactions

variable {choice : Choice} {store final : Store} {impact : Int} {id : Nat}

variable {component : Component} {timeNow : Time}

theorem openAt_create {data : IncidentData} {created : Incident}
    (commits : (EventWrite.createEvent none (systemIncident data component) none).exec choice
      store = .ok (created, final)) (opened : OpenAt final impact id) :
    OpenAt store impact id ∨ (impact = data.impact ∧ id = store.incidents.nextId) := by
  rcases openAt_cases commits opened with ⟨row, found, same⟩ | ⟨new, row, inserted, here⟩
  · exact Or.inl ⟨row, found, same⟩
  · cases inserted
    exact Or.inr ⟨here.level.symm, new⟩

theorem openAt_add {target updated : Incident} {status : IncidentStatus}
    (commits : (EventWrite.addComponent target component status).exec choice store =
      .ok (updated, final)) (opened : OpenAt final impact id) : OpenAt store impact id := by
  rcases openAt_cases commits opened with ⟨row, found, same⟩ | ⟨_, row, inserted, _⟩
  · refine ⟨row, found, ?_⟩
    rw [EventWrite.rewritten] at same
    split_ifs at same
    · exact ⟨same.type, same.system, same.ongoing, same.level⟩
    · exact same
  · cases inserted

theorem openAt_move {source target : Incident} {close : Bool} {copies : Incident × Incident}
    {sourceRow targetRow : IncidentRow}
    (sourceFound : store.incidents.get? source.id = some sourceRow)
    (targetFound : store.incidents.get? target.id = some targetRow)
    (sourceCopy : SystemCopy source sourceRow) (targetCopy : SystemCopy target targetRow)
    (commits : (moveStatement timeNow component source target close).exec choice store =
      .ok (copies, final)) (opened : OpenAt final impact id) : OpenAt store impact id := by
  rcases openAt_cases commits opened with ⟨row, found, same⟩ | ⟨_, row, inserted, _⟩
  · refine ⟨row, found, ?_⟩
    rw [EventWrite.rewritten, writtenRow, movedSource_id] at same
    by_cases isSource : id = source.id
    · rw [if_pos isSource] at same
      rw [isSource, sourceFound] at found
      cases found
      refine sourceCopy.openRow ?_ ?_ same
      · unfold releasedSource releaseComponent
        split_ifs <;> rfl
      · intro ending
        unfold releasedSource at ending
        cases close with
        | true => cases ending
        | false => split_ifs at ending <;> exact ending
    · rw [if_neg isSource] at same
      split_ifs at same with isTarget
      · have here : id = target.id := isTarget
        rw [here, targetFound] at found
        cases found
        exact targetCopy.openRow rfl (fun ending => ending) same
      · exact same
  · cases inserted

theorem openAt_raise {source : Incident} {level : Int} {status : IncidentStatus}
    (commits : (EventWrite.increaseImpact timeNow (raisedIncident timeNow source level)
      status).exec choice store = .ok ((), final)) (opened : OpenAt final impact id) :
    OpenAt store impact id ∨ (impact = level ∧ id = source.id) := by
  rcases openAt_cases commits opened with ⟨row, found, same⟩ | ⟨_, row, inserted, _⟩
  · rw [EventWrite.rewritten] at same
    split_ifs at same with here
    · exact Or.inr ⟨same.level.symm, here⟩
    · exact Or.inl ⟨row, found, same⟩
  · cases inserted

/-- An incident split off is no system incident yet. -/
theorem openAt_save {incident saved : Incident} (regular : incident.system = false)
    (commits : (EventWrite.saveIncident incident).exec choice store = .ok (saved, final))
    (opened : OpenAt final impact id) : OpenAt store impact id := by
  rcases openAt_cases commits opened with ⟨row, found, same⟩ | ⟨_, row, inserted, here⟩
  · exact ⟨row, found, same⟩
  · cases inserted
    exact nomatch regular.symm.trans here.system

theorem openAt_extract {components : List Component} {old saved : Incident}
    {copies : Incident × Incident} {oldRow : IncidentRow} (regular : saved.system = false)
    (oldFound : store.incidents.get? old.id = some oldRow) (oldCopy : SystemCopy old oldRow)
    (commits : (extractStatement timeNow components old saved).exec choice store =
      .ok (copies, final)) (opened : OpenAt final impact id) :
    OpenAt store impact id := by
  rcases openAt_cases commits opened with ⟨row, found, same⟩ | ⟨_, row, inserted, _⟩
  · refine ⟨row, found, ?_⟩
    rw [EventWrite.rewritten, writtenRow, dropIncidentComponents_id] at same
    change OpenRow impact (if id = old.id then _ else _) at same
    by_cases isOld : id = old.id
    · rw [if_pos isOld, dropIncidentComponents_fields] at same
      rw [isOld, oldFound] at found
      cases found
      exact oldCopy.openRow rfl (fun ending => ending) same
    · rw [if_neg isOld] at same
      split_ifs at same with isNew
      · exact absurd (regular.symm.trans same.system) Bool.false_ne_true
      · exact same
  · cases inserted

theorem openAt_mark {incident marked : Incident} {level : Int}
    (impactSet : incident.impact = some level)
    (commits : (EventWrite.modifyIncident incident).exec choice store = .ok (marked, final))
    (opened : OpenAt final impact id) :
    OpenAt store impact id ∨ (impact = level ∧ id = incident.id) := by
  rcases openAt_cases commits opened with ⟨row, found, same⟩ | ⟨_, row, inserted, _⟩
  · rw [EventWrite.rewritten] at same
    split_ifs at same with here
    · have set : incident.impact.getD row.impact = impact := same.level
      rw [impactSet] at set
      exact Or.inr ⟨set.symm, here⟩
    · exact Or.inl ⟨row, found, same⟩
  · cases inserted

end Transactions

/-! ## System creations -/

section Creation

variable {data : IncidentData} {component : Component} {store final : Store}

/-- The incident that is split off keeps its flag and impact when it is saved. -/
theorem saved_level {choice : Choice} {incident saved : Incident}
    (commits : (EventWrite.saveIncident incident).exec choice store = .ok (saved, final)) :
    saved.system = incident.system ∧ saved.impact = incident.impact := by
  rcases saveIncidentTx_ok commits with ⟨_, statuses, _, shape⟩
  rw [shape]
  exact ⟨rfl, rfl⟩

/-- Splitting an incident off opens no system incident. -/
theorem extraction_opens {components : List Component} {old result : Incident} {level : Int}
    {text : String} {description : Option String} (found : store.incidents.get? old.id = some row)
    (copied : SystemCopy old row)
    (extraction : Extraction afterZero components old level text description store result final) :
    result.impact = some level ∧ ∀ impact id, OpenAt final impact id → OpenAt store impact id := by
  cases extraction with
  | intro nonempty clock saves moves =>
    have kept := (exec_footprint saves).rows _ _ found
    rcases saved_level saves with ⟨system, impact⟩
    rcases extractComponentsTx_ok moves with ⟨_, newStatuses, _, shape⟩
    refine ⟨?_, ?_⟩
    · rw [shape]
      exact impact
    · intro impact id opened
      exact openAt_save rfl saves (openAt_extract system kept copied moves opened)

theorem systemStep_onePerImpact {entry : ProcessComponentResp}
    (step : SystemStep afterZero data component store entry final)
    (one : OnePerImpact store) : OnePerImpact final := by
  cases step with
  | kept => exact one
  | added unused level commits =>
    exact onePerImpact_of_subset one (fun _ _ => openAt_add commits)
  | created unused level commits =>
    exact onePerImpact_of_added one (onLevel_none level) (fun _ _ => openAt_create commits)
  | moved outranked level clock same commits =>
    rcases outranked_stored outranked with ⟨sourceRow, sourceFound, sourceCopy⟩
    rcases onLevel_some level with ⟨targetRow, targetFound, targetCopy⟩
    exact onePerImpact_of_subset one (fun _ _ =>
      openAt_move sourceFound targetFound sourceCopy targetCopy commits)
  | raised outranked level clock commits =>
    exact onePerImpact_of_added one (onLevel_none level) (fun _ _ => openAt_raise commits)
  | @split source result marked choice middle final outranked level extraction commits =>
    rcases outranked_stored outranked with ⟨row, found, copied⟩
    rcases extraction_opens found copied extraction with ⟨impactSet, origin⟩
    have flagged : ({ result with system := true } : Incident).impact = some data.impact :=
      impactSet
    have added : ∀ impact id, OpenAt final impact id →
        OpenAt store impact id ∨ (impact = data.impact ∧ id = result.id) := by
      intro impact id opened
      rcases openAt_mark flagged commits opened with before | new
      · exact Or.inl (origin impact id before)
      · exact Or.inr new
    exact onePerImpact_of_added one (onLevel_none level) added

theorem systemSteps_onePerImpact {components : List Component}
    {entries : List ProcessComponentResp}
    (steps : SystemSteps afterZero data components store entries final)
    (one : OnePerImpact store) : OnePerImpact final := by
  induction steps with
  | done => exact one
  | step first rest ih => exact ih (systemStep_onePerImpact first one)

end Creation

/-! ## Runs of system creations -/

/-- A request to create a system incident. -/
def createsSystem : Activity → Bool
  | .post _ _ data => data.system == some true
  | _ => false

/-- Successful system creations, one after another, keep at most one open system
incident for each impact. -/
theorem session_onePerImpact {deployment : Deployment} {store final : Store}
    {entries : List Performed} (session : Session deployment store entries final)
    (requests : ∀ entry ∈ entries, createsSystem entry.activity = true)
    (answered : ∀ entry ∈ entries, entry.outcome.isOk = true)
    (clocked : ∀ entry ∈ entries, ∀ event ∈ entry.events, ClockRuns event)
    (one : OnePerImpact store) : OnePerImpact final := by
  have ticks : ∀ entry ∈ entries, ∀ event ∈ entry.events, Ticks afterZero event := clocked
  have meets : Meets (fun _ activity => createsSystem activity = true) store entries :=
    meets_of_forall requests store
  refine session_invariant session (fun entry member => Or.inl (answered entry member)) ticks
    meets ?_ one
  intro activity current next request effect held
  cases effect with
  | created creation =>
    cases creation with
    | system flag type valid steps => exact systemSteps_onePerImpact steps held
    | regular regular => exact absurd (by simpa [createsSystem] using request) regular
  | patched | extracted => exact nomatch request
  | spared spares =>
    refine onePerImpact_of_subset held ?_
    rintro impact id ⟨row, found, opened⟩
    exact ⟨row, (spares.rows id row opened.type).mp found, opened⟩

/-- Two components are reported on the second level, one of them is raised to the
third, and the other follows it there. -/
def escalations : List (Activity × Choice) :=
  [(.post .events anAdmin (incidentReport true [1, 2] 2), atTime 20),
    (.post .events anAdmin (incidentReport true [1] 3), atTime 30),
    (.post .events anAdmin (incidentReport true [2, 1] 3), atTime 40)]

theorem session_onePerImpact_escalated :
    ((replay quietDeployment escalations (bareStore 2)).2.incidents.get? 2).map
      (fun row => (row.impact, row.endDate)) = some (3, none) ∧
    OnePerImpact (replay quietDeployment escalations (bareStore 2)).2 := by
  have session := replay_session quietDeployment escalations (bareStore 2)
  refine ⟨by decide +kernel,
    session_onePerImpact session (by decide +kernel) (by decide +kernel) (by decide +kernel) ?_⟩
  rintro impact first second ⟨row, found, _⟩
  exact absurd (found.symm.trans (SerialTable.get?_empty _)) (by simp)

end StatusDashboard.Properties
