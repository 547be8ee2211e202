import StatusDashboard.Provenance.Alone

namespace StatusDashboard.Provenance

open Event Storage Tables Notification Handlers Process

/-!
# Type, impact and dates in a session

What one committed write of an undisturbed activity does to the type, the
impact and the dates of an event.  Most writes put back what they have read.
The others are listed in `ColumnChange`: a creation, an extraction, a move that
closes its source, a system creation that raises an impact, and a PATCH.
-/

variable {copy : Incident} {row : IncidentRow}

/-- Type, impact and dates stay; a write may clear the end date of an incident. -/
structure SameColumns (row before : IncidentRow) : Prop where
  type : row.type = before.type
  impact : row.impact = before.impact
  startDate : row.startDate = before.startDate
  endDate : row.endDate = before.endDate ∨ row.type = .incident ∧ row.endDate = none

theorem SameColumns.refl (row : IncidentRow) : SameColumns row row :=
  ⟨rfl, rfl, rfl, Or.inl rfl⟩

/-- How a committed write of an activity leaves the row with an id. -/
inductive ColumnChange (store : Store) (id : Nat) (row : IncidentRow) :
    Activity → {β : Type} → EventWrite β → Prop
  | kept {activity : Activity} {β : Type} {statement : EventWrite β} {before : IncidentRow}
      (found : store.incidents.get? id = some before) (same : SameColumns row before) :
      ColumnChange store id row activity statement
  | posted {route : CreationRoute} {caller : Caller} {data : IncidentData}
      {publisher : Option Publisher} {incident : Incident} {userID : Option String}
      (valid : ValidCreation data)
      (scheduled : data.type = .maintenance →
        ∃ date, data.endDate = some date ∧ data.startDate < date)
      (fresh : store.incidents.get? id = none) (type : row.type = data.type)
      (impact : row.impact = data.impact) (startDate : row.startDate = data.startDate)
      (endDate : row.endDate = data.endDate) :
      ColumnChange store id row (.post route caller data)
        (.createEvent publisher incident userID)
  | extracted {activity : Activity} {incident : Incident}
      (fresh : store.incidents.get? id = none) (type : row.type = .incident)
      (impact : 1 ≤ row.impact ∧ row.impact ≤ 3 ∨ ∃ old before,
        store.incidents.get? old = some before ∧ before.type = .incident ∧
          row.impact = before.impact)
      (endDate : row.endDate = none) :
      ColumnChange store id row activity (.saveIncident incident)
  | closed {activity : Activity} {component : Component} {incOld incNew : Incident}
      {before : IncidentRow} {date : Time} (found : store.incidents.get? id = some before)
      (source : incOld.id = id) (time : incOld.endDate = some date)
      (type : row.type = before.type) (incident : row.type = .incident)
      (impact : row.impact = before.impact) (startDate : row.startDate = before.startDate)
      (endDate : row.endDate = some date) :
      ColumnChange store id row activity (.moveComponent component incOld incNew true)
  | raised {route : CreationRoute} {caller : Caller} {data : IncidentData} {timeNow : Time}
      {copy : Incident} {status : IncidentStatus} {before : IncidentRow}
      (found : store.incidents.get? id = some before)
      (impaired : 1 ≤ data.impact ∧ data.impact ≤ 3) (type : row.type = before.type)
      (incident : row.type = .incident) (impact : row.impact = data.impact)
      (startDate : row.startDate = before.startDate) (endDate : row.endDate = before.endDate) :
      ColumnChange store id row (.post route caller data)
        (.increaseImpact timeNow copy status)
  | patched {caller : Caller} {data : PatchIncidentData} {publisher : Option Publisher}
      {copy : Incident} {oldStatus : Status} {userID : Option String} {before : IncidentRow}
      {now : Time} (found : store.incidents.get? id = some before)
      (reads : copy = storedCopy store (id, before))
      (allowed : prepareIncidentPatch caller copy data = none)
      (written : row = modifiedRow now (patchedIncident data caller.userID copy)
        (nextVersion (patchedIncident data caller.userID copy)) before) :
      ColumnChange store id row (.patch caller id data)
        (.persistPatch publisher (patchedIncident data caller.userID copy) oldStatus userID)

/-! ## Writing back what was read -/

/-- A copy with the type, impact and dates of a row, a missing end date apart. -/
structure Mirrors (copy : Incident) (row : IncidentRow) : Prop where
  type : row.type = copy.type
  impact : copy.impact = some row.impact
  startDate : copy.startDate = some row.startDate
  endDate : copy.endDate = none ∨ copy.endDate = row.endDate

theorem InSync.mirrors {store : Store} (sync : InSync copy store)
    (found : store.incidents.get? copy.id = some row) :
    Mirrors copy row := by
  rcases sync.stored with ⟨stored, present, type, impact, _⟩
  rw [found] at present
  cases present
  exact ⟨type, impact, (sync.dated row found).1, (sync.dated row found).2⟩

theorem mirrors_of_reading {rely : Store → Store → Prop} {load : Store → Nat → List Component}
    {first later : Store} (reading : Reading rely load copy row first later) :
    Mirrors copy row where
  type := reading.type_eq.symm
  impact := reading.impact_eq
  startDate := reading.startDate_eq
  endDate := by
    rw [reading.endDate_eq]
    exact optTimePtr_cases row.endDate

theorem Mirrors.or_endDate (mirrors : Mirrors copy row) :
    copy.endDate.or row.endDate = row.endDate := by
  rcases mirrors.endDate with missing | same
  · rw [missing]
    rfl
  · rw [same, Option.or_self]

theorem Mirrors.modified (mirrors : Mirrors copy row) (now : Time) (version : Int) :
    SameColumns (modifiedRow now copy version row) row where
  type := mirrors.type.symm
  impact := by
    change copy.impact.getD row.impact = row.impact
    rw [mirrors.impact]
    rfl
  startDate := by
    change copy.startDate.getD row.startDate = row.startDate
    rw [mirrors.startDate]
    rfl
  endDate := Or.inl mirrors.or_endDate

/-- Every column is set, so a missing end date is cleared. -/
theorem Mirrors.full (mirrors : Mirrors copy row) (incident : copy.type = .incident) (now : Time) :
    SameColumns (fullRow now copy row) row where
  type := mirrors.type.symm
  impact := by
    change copy.impact.getD 0 = row.impact
    rw [mirrors.impact]
    rfl
  startDate := by
    change copy.startDate.getD row.startDate = row.startDate
    rw [mirrors.startDate]
    rfl
  endDate := mirrors.endDate.elim (fun missing => Or.inr ⟨incident, missing⟩) Or.inl

/-! ## Every write -/

section Alone

variable {invariant : Store → Prop} {property : DbEvent → Prop}
variable {unaffected : Unaffected property} {deployment : Deployment} {activity : Activity}
variable {β : Type} {statement : EventWrite β} {choice : Choice} {value : β}
variable {store final : Store} {id : Nat} {row : IncidentRow}

/-- A row that a committed write leaves was stored before or is inserted. -/
theorem row_origin (commits : statement.exec choice store = .ok (value, final))
    (found : final.incidents.get? id = some row) :
    (∃ before, store.incidents.get? id = some before ∧ row = statement.rewritten choice id before) ∨
      (store.incidents.get? id = none ∧ statement.inserted choice = some row) := by
  have footprint := exec_footprint commits
  cases stored : store.incidents.get? id with
  | some before =>
    have rewritten := footprint.rows id before stored
    rw [found] at rewritten
    exact Or.inl ⟨before, rfl, Option.some.inj rewritten⟩
  | none =>
    have inserted := footprint.fresh id stored
    rw [found] at inserted
    split_ifs at inserted
    exact Or.inr ⟨rfl, inserted.symm⟩

variable {old : Incident} {before : IncidentRow}

/-- Both copies of a move are in sync, so only the source may change: it gets an
end date when it is closed. -/
theorem moved_columns {named : Component} {timeNow : Time} {new : Incident} {close : Bool}
    (oldSync : InSync old store) (newSync : InSync new store) (oldType : old.type = .incident)
    (newType : new.type = .incident) (apart : old.id ≠ new.id)
    (found : store.incidents.get? id = some before)
    (written : row = (moveStatement timeNow named old new close).rewritten choice id before) :
    ColumnChange store id row activity (moveStatement timeNow named old new close) := by
  have sourceId := movedSource_id timeNow named old new close
  have different : (movedSource timeNow named old new close).id ≠
      (receiveComponent timeNow named old new).id := by
    rw [sourceId]
    exact apart
  rw [EventWrite.rewritten] at written
  by_cases source : id = old.id
  · subst source
    have mirrors := oldSync.mirrors found
    rw [← sourceId, writtenRow_second different] at written
    cases close with
    | true =>
      refine .closed found rfl rfl ?_ ?_ ?_ ?_ ?_ <;> rw [written]
      · exact mirrors.type.symm
      · exact oldType
      · exact (mirrors.full oldType choice.now).impact
      · exact (mirrors.full oldType choice.now).startDate
      · rfl
    | false =>
      have same : SameColumns row before := by
        rw [written]
        unfold movedSource releasedSource
        split_ifs <;> exact mirrors.full oldType choice.now
      exact .kept found same
  · by_cases target : id = new.id
    · subst target
      have mirrors := newSync.mirrors found
      have here : new.id = (receiveComponent timeNow named old new).id := rfl
      rw [here, writtenRow_first different] at written
      rw [written]
      exact .kept found (mirrors.full newType choice.now)
    · have same : row = before := by
        rw [written]
        unfold writtenRow
        rw [sourceId, if_neg source]
        exact if_neg target
      rw [same]
      exact .kept found (.refl before)

theorem extracted_columns {components : List Component} {timeNow : Time} {saved : Incident}
    (oldSync : InSync old store) (savedSync : InSync saved store) (oldType : old.type = .incident)
    (savedType : saved.type = .incident) (apart : old.id ≠ saved.id)
    (found : store.incidents.get? id = some before)
    (written : row = (extractStatement timeNow components old saved).rewritten choice id before) :
    ColumnChange store id row activity statement := by
  have sourceId : (extractedSource timeNow components old saved).id = old.id :=
    dropIncidentComponents_id _ _
  have different : (extractedSource timeNow components old saved).id ≠
      (extractionTarget timeNow components old saved).id := by
    rw [sourceId]
    exact apart
  rw [EventWrite.rewritten] at written
  refine .kept found ?_
  by_cases source : id = old.id
  · subst source
    rw [← sourceId, writtenRow_second different, extractedSource, dropIncidentComponents_fields] at written
    rw [written]
    exact (oldSync.mirrors found).full oldType choice.now
  · by_cases target : id = saved.id
    · subst target
      have here : saved.id = (extractionTarget timeNow components old saved).id := rfl
      rw [here, writtenRow_first different] at written
      rw [written]
      exact (savedSync.mirrors found).full savedType choice.now
    · have same : row = before := by
        rw [written]
        unfold writtenRow
        rw [sourceId, if_neg source]
        exact if_neg target
      rw [same]
      exact .refl before

/-- The impact of an extracted incident is a requested one or that of the source. -/
theorem extracts_impact {components : List Component} {impact : Int} {text : String}
    {description : Option String}
    (extracts : (alone invariant property unaffected).Extracts activity store components old impact
      text description) :
    1 ≤ impact ∧ impact ≤ 3 ∨ ∃ source before, store.incidents.get? source = some before ∧
      before.type = .incident ∧ impact = before.impact := by
  cases extracts with
  | system names => exact Or.inl (names.valid.impaired names.type)
  | request fetched type =>
    rcases fetched with ⟨_, _, _, _, reading⟩
    refine Or.inr ⟨_, _, reading.alone.2.1, reading.type_eq.symm.trans type, ?_⟩
    rw [reading.impact_eq]
    rfl

/-- A modification with a copy of the row changes neither type nor impact nor dates. -/
theorem modified_columns {incident : Incident} {version : Int}
    (found : store.incidents.get? id = some before)
    (mirrors : id = incident.id → Mirrors incident before)
    (written : row = if id = incident.id then modifiedRow choice.now incident version before
      else before) : ColumnChange store id row activity statement := by
  split_ifs at written with target
  · rw [written]
    exact .kept found ((mirrors target).modified choice.now version)
  · rw [written]
    exact .kept found (.refl before)

theorem alone_columns
    (issued : (alone invariant property unaffected).Issued deployment activity store statement)
    (commits : statement.exec choice store = .ok (value, final))
    (found : final.incidents.get? id = some row) :
    ColumnChange store id row activity statement := by
  rcases row_origin commits found with ⟨before, stored, written⟩ | ⟨fresh, inserted⟩
  · cases issued with
    | regularCreate | systemCreate | extractSave | editText =>
      rw [written]
      exact .kept stored (.refl before)
    | regularMove regular valid names oldTracked newTracked oldSettled newSettled oldType newType
        newOngoing holds distinct apart =>
        exact moved_columns oldTracked newTracked oldType newType apart stored written
    | systemMove names same sourceFound targetFound =>
      rcases alone_source sourceFound with ⟨sourceSync, sourceType, _⟩
      rcases alone_target targetFound with ⟨targetSync, targetType, _⟩
      exact moved_columns sourceSync targetSync sourceType targetType
        (alone_apart sourceFound targetFound) stored written
    | systemAdd =>
      rw [EventWrite.rewritten] at written
      split_ifs at written <;> rw [written]
      · exact .kept stored ⟨rfl, rfl, rfl, Or.inl rfl⟩
      · exact .kept stored (.refl before)
    | systemRaise names sourceFound single =>
      rename_i route caller data component source timeNow
      rcases alone_source sourceFound with ⟨sync, type, _⟩
      rw [EventWrite.rewritten] at written
      split_ifs at written with target
      · have present : store.incidents.get? source.id = some before := target ▸ stored
        have mirrors := sync.mirrors present
        refine .raised stored (names.valid.impaired names.type) ?_ ?_ ?_ ?_ ?_ <;> rw [written]
        · exact mirrors.type.symm
        · exact type
        · rfl
        · change source.startDate.getD before.startDate = before.startDate
          rw [mirrors.startDate]
          rfl
        · exact mirrors.or_endDate
      · rw [written]
        exact .kept stored (.refl before)
    | extract extracts later inserted oldTracked savedTracked apart =>
      rename_i components old saved impact text description timeNow earlier
      have oldType := alone_evolving.extracts_typed extracts
      have savedType : saved.type = .incident := by
        rw [inserted.same]
        rfl
      exact extracted_columns oldTracked savedTracked oldType savedType apart stored written
    | systemMark type valid inserted tracked fresh =>
      rename_i route caller data components incident timeNow description
      apply modified_columns stored _ written
      intro target
      have present : store.incidents.get? incident.id = some before := target ▸ stored
      have mirrors := tracked.mirrors present
      exact ⟨mirrors.type, mirrors.impact, mirrors.startDate, mirrors.endDate⟩
    | patch bound fetched versioned allowed =>
      rename_i caller target data copy read first earlier
      rcases fetched with ⟨same, _, _, _, reading⟩
      rcases reading.alone with ⟨rfl, present, shape⟩
      rw [EventWrite.rewritten] at written
      split_ifs at written with here
      · have sameId : id = target := here.trans same
        subst sameId
        rw [same, stored] at present
        cases present
        refine .patched stored ?_ allowed written
        rw [shape, same]
        rfl
      · rw [written]
        exact .kept stored (.refl before)
    | reopen status fetched allowed later =>
      rename_i caller target data copy read first seen earlier
      rw [EventWrite.rewritten] at written
      split_ifs at written with here
      · rcases fetched with ⟨same, _, _, _, reading⟩
        have typed : Typed copy store :=
          (alone_evolving.typed_of_reading reading).evolves later
        have type : before.type = .incident :=
          (typed.row_type (by rw [same, ← here]; exact stored)).trans
            (incident_of_reopened allowed status)
        rw [written]
        exact .kept stored ⟨rfl, rfl, rfl, Or.inr ⟨type, rfl⟩⟩
      · rw [written]
        exact .kept stored (.refl before)
    | checkMaintenance kept listed type submitted later fetched fixes =>
      rcases fetched with ⟨_, _, _, _, reading⟩
      rcases completes_fixMntMissedStatuses fixes with ⟨added, rfl, _⟩
      rcases reading.alone with ⟨rfl, present, _⟩
      apply modified_columns stored _ written
      intro target
      have mirrors := mirrors_of_reading reading
      have same := stored.symm.trans (target ▸ present)
      cases same
      exact ⟨mirrors.type, mirrors.impact, mirrors.startDate, mirrors.endDate⟩
    | checkInfo type assumed kept reading later fixes changes unwritten =>
      rcases completes_fixInfoMissedStatuses fixes with ⟨added, rfl, _⟩
      apply modified_columns stored _ written
      intro target
      have mirrors := mirrors_of_reading reading
      have same := stored.symm.trans (target ▸ unwritten)
      cases same
      exact ⟨mirrors.type, mirrors.impact, mirrors.startDate, mirrors.endDate⟩
  · cases issued with
    | regularCreate regular valid prepares =>
      rename_i route caller data prepared
      cases inserted
      have type : prepared.type = data.type := by rw [prepares.same]
      have impact : prepared.impact = data.impact := by rw [prepares.same]
      have start : prepared.startDate = data.startDate := by rw [prepares.same]
      have ending : prepared.endDate = data.endDate := by rw [prepares.same]
      exact .posted valid prepares.scheduled fresh type impact start ending
    | systemCreate names =>
      cases inserted
      refine .posted names.valid ?_ fresh ?_ ?_ ?_ ?_
      · intro maintenance
        rw [names.type] at maintenance
        cases maintenance
      all_goals
        unfold withDefaultDescription
        split_ifs <;> rfl
    | extractSave extracts =>
      cases inserted
      exact .extracted fresh rfl (extracts_impact extracts) rfl
    | _ => cases inserted

end Alone

end StatusDashboard.Provenance
