import StatusDashboard.Properties.Ranges
import StatusDashboard.Sequence.Change

namespace StatusDashboard.Properties

open Event Storage Tables Notification Handlers Process Provenance Sequence

/-!
# Status and end date of an incident

A resolved incident has an end date, and an incident with an end date is
resolved or changed.  Full saves and moves write both columns from one copy, and
a PATCH accepts a status by the end date it has read.  So everything hangs on
one fact: no stored end date is read as none.  The zero time is, and with it the
microsecond that follows, of which the column keeps no more.  A PATCH may store
such a date, as the end it names or as the date of the update that resolves.
-/

/-- Status and end date of one incident fit. -/
def Coherent (row : IncidentRow) : Prop :=
  row.type = .incident →
    (row.status = some .resolved → row.endDate ≠ none) ∧
    (row.endDate ≠ none → row.status = some .resolved ∨ row.status = some .changed)

instance : DecidablePred Coherent := fun row =>
  inferInstanceAs (Decidable (row.type = .incident → _ ∧ _))

/-- A status that fits an end date which is read as it is stored. -/
structure Agree (status : Status) (endDate : Option Time) : Prop where
  nonzero : endDate ≠ some zeroTime
  resolved : status = .resolved → endDate ≠ none
  ended : endDate ≠ none → status = .resolved ∨ status = .changed

/-- The invariant: the columns agree, and the impact is not the one of notices. -/
def Steady (row : IncidentRow) : Prop :=
  row.type = .incident → row.impact ≠ 0 ∧ Agree (row.status.getD .unset) row.endDate

/-- The same of a copy. -/
def SteadyCopy (copy : Incident) : Prop :=
  copy.type = .incident → copy.impact.getD 0 ≠ 0 ∧ Agree copy.status copy.endDate

theorem agree_open {status : Status} (other : status ≠ .resolved) : Agree status none :=
  ⟨nofun, fun same => absurd same other, fun set => absurd rfl set⟩

theorem Steady.coherent {row : IncidentRow} (steady : Steady row) : Coherent row := by
  intro type
  rcases (steady type).2 with ⟨_, resolved, ended⟩
  refine ⟨fun same => resolved (by rw [same]; rfl), ?_⟩
  intro set
  have known := ended set
  cases stored : row.status with
  | none =>
    rw [stored] at known
    rcases known with impossible | impossible <;> cases impossible
  | some =>
    rw [stored] at known
    rcases known with same | same
    · exact Or.inl (congrArg some same)
    · exact Or.inr (congrArg some same)

/-- The end date of a steady incident is read as it is stored. -/
theorem Steady.read {row : IncidentRow} (steady : Steady row) (type : row.type = .incident) :
    optTimePtr row.endDate = row.endDate :=
  optTimePtr_of_ne (steady type).2.nonzero

theorem Steady.copy {store : Store} {copy : Incident} {row : IncidentRow} (steady : Steady row)
    (shape : copy = storedCopy store (copy.id, row)) : SteadyCopy copy := by
  rw [shape]
  intro type
  refine ⟨(steady type).1, ?_⟩
  change Agree (row.status.getD .unset) (optTimePtr row.endDate)
  rw [steady.read type]
  exact (steady type).2

/-- A full save writes both columns from the copy. -/
theorem SteadyCopy.full {copy : Incident} (steady : SteadyCopy copy) (now : Time)
    (row : IncidentRow) : Steady (fullRow now copy row) :=
  fun type => steady type

theorem SteadyCopy.congr {copy other : Incident} (steady : SteadyCopy copy)
    (type : other.type = copy.type) (impact : other.impact = copy.impact)
    (status : other.status = copy.status) (endDate : other.endDate = copy.endDate) :
    SteadyCopy other := by
  intro incident
  rw [impact, status, endDate]
  exact steady (type ▸ incident)

/-! ## Transactions -/

section Transactions

variable {choice : Choice} {store final : Store}

/-- A transaction keeps the invariant if it rewrites steady rows to steady rows and
inserts steady ones. -/
theorem steady_of_commit {β : Type} {statement : EventWrite β} {value : β}
    (commits : statement.exec choice store = .ok (value, final)) (held : Everywhere Steady store)
    (rewrites : ∀ id row, store.incidents.get? id = some row → Steady row →
      Steady (statement.rewritten choice id row))
    (inserts : ∀ row, statement.inserted choice = some row → Steady row) :
    Everywhere Steady final := by
  intro id row found
  rcases row_origin commits found with ⟨before, stored, rfl⟩ | ⟨_, inserted⟩
  · exact rewrites id before stored (held id before stored)
  · exact inserts row inserted

theorem steady_written {now : Time} {first second : Incident} {id : Nat} {row : IncidentRow}
    (one : SteadyCopy first) (two : SteadyCopy second) (steady : Steady row) :
    Steady (writtenRow now first second id row) := by
  unfold writtenRow
  dsimp only
  split_ifs
  · exact two.full now _
  · exact two.full now _
  · exact one.full now _
  · exact steady

/-- A new incident is detected and has no end date. -/
theorem steady_created {publisher : Option Publisher} {incident created : Incident}
    {userID : Option String} (held : Everywhere Steady store)
    (impaired : incident.type = .incident → incident.impact.getD 0 ≠ 0)
    (ongoing : incident.type = .incident → incident.endDate = none)
    (commits : (EventWrite.createEvent publisher incident userID).exec choice store =
      .ok (created, final)) : Everywhere Steady final ∧ SteadyCopy created := by
  have detected : incident.type = .incident → (initialStatus incident).1 = .detected := by
    intro type
    unfold initialStatus
    rw [type]
  constructor
  · refine steady_of_commit commits held (fun _ _ _ steady => steady) ?_
    intro row inserted
    cases inserted
    intro type
    refine ⟨impaired type, ?_⟩
    change Agree (initialStatus incident).1 incident.endDate
    rw [ongoing type, detected type]
    exact agree_open (by decide)
  · rcases created_row commits with ⟨_, type, ending, impact, _, _⟩
    intro incidentType
    rw [type] at incidentType
    rw [impact, ending, ongoing incidentType]
    refine ⟨impaired incidentType, ?_⟩
    rcases createEventTx_ok commits with ⟨saved, _, _, _, savedCommitted, _, ⟨_, _, shape⟩, _⟩
    rcases saveIncidentTx_ok savedCommitted with ⟨_, _, _, rfl⟩
    have status : created.status = (initialStatus incident).1 := by
      rw [shape]
      rfl
    rw [status, detected incidentType]
    exact agree_open (by decide)

/-- A move resolves its source when it closes it. -/
theorem steady_moved {named : Component} {timeNow : Time} {old new : Incident} {close : Bool}
    {copies : Incident × Incident} (clock : zeroTime < timeNow) (held : Everywhere Steady store)
    (oldSteady : SteadyCopy old) (newSteady : SteadyCopy new)
    (commits : (moveStatement timeNow named old new close).exec choice store =
      .ok (copies, final)) :
    Everywhere Steady final ∧ SteadyCopy copies.1 ∧ SteadyCopy copies.2 := by
  have received : SteadyCopy (receiveComponent timeNow named old new) :=
    newSteady.congr rfl rfl rfl rfl
  have released : SteadyCopy (movedSource timeNow named old new close) := by
    cases close with
    | true =>
      intro type
      refine ⟨(oldSteady type).1, ?_, nofun, fun _ => Or.inl rfl⟩
      intro zero
      exact absurd (Option.some.inj zero) (ne_of_gt clock)
    | false =>
      unfold movedSource releasedSource
      split_ifs <;> exact oldSteady.congr rfl rfl rfl rfl
  rcases moveComponentTx_ok commits with ⟨_, ⟨_, _, oldShape⟩, ⟨_, _, newShape⟩⟩
  refine ⟨?_, ?_, ?_⟩
  · apply steady_of_commit commits held
    · intro id row _ steady
      exact steady_written received released steady
    · intro row inserted
      cases inserted
  · rw [oldShape]
    exact released.congr rfl rfl rfl rfl
  · rw [newShape]
    exact received.congr rfl rfl rfl rfl

/-- Splitting an incident off: the new one has no end date, the old one keeps what
its copy has. -/
theorem steady_extracted {components : List Component} {old result : Incident} {impact : Int}
    {text : String} {description : Option String} {oldRow : IncidentRow}
    (held : Everywhere Steady store) (oldFound : store.incidents.get? old.id = some oldRow)
    (oldSteady : SteadyCopy old) (impaired : impact ≠ 0)
    (extraction : Extraction afterZero components old impact text description store result final) :
    Everywhere Steady final ∧ result.impact = some impact ∧ result.status = .outDatedSystem ∧
      result.endDate = none ∧
      ∀ row, final.incidents.get? result.id = some row → row.endDate = none := by
  cases extraction with
  | @intro timeNow saving moving saved copies middle final nonempty clock saves moves =>
    have shape : saved.status = .outDatedSystem ∧ saved.endDate = none ∧
        saved.impact = some impact := by
      rcases saveIncidentTx_ok saves with ⟨_, statuses, _, rfl⟩
      exact ⟨rfl, rfl, rfl⟩
    have outdated : Status.outDatedSystem ≠ .resolved := by decide
    have savedSteady : SteadyCopy saved := by
      intro _
      rw [shape.1, shape.2.1, shape.2.2]
      exact ⟨impaired, agree_open outdated⟩
    have inserted : Everywhere Steady middle := by
      apply steady_of_commit saves held (fun _ _ _ steady => steady)
      intro row new
      cases new
      exact fun _ => ⟨impaired, agree_open outdated⟩
    have source : SteadyCopy (extractedSource timeNow components old saved) := by
      rw [extractedSource, dropIncidentComponents_fields]
      exact oldSteady.congr rfl rfl rfl rfl
    have target : SteadyCopy (extractionTarget timeNow components old saved) :=
      savedSteady.congr rfl rfl rfl rfl
    rcases extractComponentsTx_ok moves with ⟨pair, newStatuses, _, copied⟩
    have sameId : copies.2.id = saved.id := by rw [copied]; rfl
    have apart : saved.id ≠ old.id := by
      rw [(saved_row saves).id]
      exact Ne.symm (Nat.ne_of_lt (SerialTable.lt_nextId_of_get? oldFound))
    refine ⟨?_, ?_, ?_, ?_, ?_⟩
    · apply steady_of_commit moves inserted
      · intro id row _ steady
        exact steady_written target source steady
      · intro row new
        cases new
    · rw [copied]
      exact shape.2.2
    · rw [copied]
      exact shape.1
    · rw [copied]
      exact shape.2.1
    · intro row found
      rw [sameId, pair.get?, Option.map_eq_some_iff] at found
      rcases found with ⟨before, _, rfl⟩
      rw [(writtenRow_fields _ _ _ _ _).2.1, dropIncidentComponents_id]
      change (if saved.id = old.id then _ else if saved.id = saved.id then saved.endDate
        else _) = none
      rw [if_neg apart, if_pos rfl]
      exact shape.2.1

end Transactions

/-! ## Creations -/

section Creation

variable {data : IncidentData} {component : Component} {store final : Store}

/-- Raising an impact writes back the status and end date that were read. -/
theorem steady_raised {timeNow : Time} {source : Incident} {row : IncidentRow} {impact : Int}
    (shape : source = storedCopy store (source.id, row)) (steady : Steady row)
    (impaired : impact ≠ 0) :
    Steady (raisedRow timeNow (raisedIncident timeNow source impact) row) := by
  intro type
  have incident : row.type = .incident := by
    rw [shape] at type
    exact type
  refine ⟨impaired, ?_⟩
  have ending : source.endDate.or row.endDate = row.endDate := by
    rw [shape]
    change (optTimePtr row.endDate).or row.endDate = row.endDate
    rw [steady.read incident, Option.or_self]
  have status : (if source.status = .unset then row.status else some source.status).getD .unset =
      row.status.getD .unset := by
    split_ifs
    · rfl
    · rw [shape]
      rfl
  change Agree ((if source.status = .unset then row.status else some source.status).getD .unset)
    (source.endDate.or row.endDate)
  rw [ending, status]
  exact (steady incident).2

/-- Marking the incident that was split off: its status stays, and so does the
missing end date. -/
theorem steady_marked {now : Time} {version : Int} {incident : Incident} {row : IncidentRow}
    (impact : incident.impact.getD 0 ≠ 0) (known : incident.impact.isSome)
    (status : incident.status = .outDatedSystem) (ongoing : incident.endDate = none)
    (ending : row.endDate = none) : Steady (modifiedRow now incident version row) := by
  intro _
  constructor
  · change incident.impact.getD row.impact ≠ 0
    rcases Option.isSome_iff_exists.mp known with ⟨value, given⟩
    rw [given] at impact ⊢
    exact impact
  · change Agree ((if incident.status = .unset then row.status else some incident.status).getD
      .unset) (incident.endDate.or row.endDate)
    rw [status, ongoing, ending, if_neg (by decide)]
    have other : Status.outDatedSystem ≠ .resolved := by decide
    exact agree_open other

theorem systemStep_steady {entry : ProcessComponentResp} (impaired : data.impact ≠ 0)
    (ongoing : data.endDate = none) (step : SystemStep afterZero data component store entry final)
    (held : Everywhere Steady store) : Everywhere Steady final := by
  cases step with
  | kept => exact held
  | added unused level commits =>
    apply steady_of_commit commits held
    · intro id row _ steady
      rw [EventWrite.rewritten]
      split_ifs <;> exact steady
    · intro row inserted
      cases inserted
  | created unused level commits =>
    have level : (systemIncident data component).impact.getD 0 ≠ 0 := impaired
    exact (steady_created held (fun _ => level) (fun _ => ongoing) commits).1
  | moved outranked level clock same commits =>
    rcases outranked.source with ⟨_, sourceRow, _, sourceFound, _, sourceShape, _⟩
    rcases level.target with ⟨_, targetRow, _, targetFound, _, targetShape, _⟩
    exact (steady_moved clock held ((held _ _ sourceFound).copy sourceShape)
      ((held _ _ targetFound).copy targetShape) commits).1
  | @raised source timeNow choice final outranked level clock commits =>
    rcases outranked.source with ⟨_, sourceRow, _, sourceFound, _, sourceShape, _⟩
    apply steady_of_commit commits held
    · intro id row found steady
      rw [EventWrite.rewritten]
      split_ifs with here
      · have same : row = sourceRow := by
          rw [here] at found
          exact Option.some.inj (found.symm.trans sourceFound)
        rw [same]
        exact steady_raised sourceShape (same ▸ steady) impaired
      · exact steady
    · intro row inserted
      cases inserted
  | @split source result marked choice middle final outranked level extraction commits =>
    rcases outranked.source with ⟨_, sourceRow, _, sourceFound, _, sourceShape, _⟩
    rcases steady_extracted held sourceFound ((held _ _ sourceFound).copy sourceShape) impaired
      extraction with ⟨middleHeld, impact, status, ending, stored⟩
    apply steady_of_commit commits middleHeld
    · intro id row found steady
      rw [EventWrite.rewritten]
      split_ifs with here
      · have ongoing : row.endDate = none := stored row (here ▸ found)
        have level : ({ result with system := true } : Incident).impact = some data.impact :=
          impact
        refine steady_marked ?_ ?_ status ending ongoing
        · rw [level]
          exact impaired
        · rw [level]
          rfl
      · exact steady
    · intro row inserted
      cases inserted

theorem systemSteps_steady {components : List Component} {entries : List ProcessComponentResp}
    (impaired : data.impact ≠ 0) (ongoing : data.endDate = none)
    (steps : SystemSteps afterZero data components store entries final)
    (held : Everywhere Steady store) : Everywhere Steady final := by
  induction steps with
  | done => exact held
  | step first rest ih => exact ih (systemStep_steady impaired ongoing first held)

/-- The loop of a regular creation: the invariant holds of the store, of the new
incident and of every listed copy, and each move keeps all three. -/
theorem relocates_steady {components : List Component} {incIn : Incident}
    {opened : List Incident} (moves : Relocates afterZero components incIn opened store final)
    (held : Everywhere Steady store) (incSteady : SteadyCopy incIn)
    (openedSteady : ∀ copy ∈ opened, SteadyCopy copy) : Everywhere Steady final := by
  induction moves with
  | done => exact held
  | passed passes rest ih => exact ih held incSteady openedSteady
  | moved passes type holds clock same commits rest ih =>
    rw [List.forall_mem_append, List.forall_mem_cons] at openedSteady
    rcases openedSteady with ⟨earlier, oldSteady, others⟩
    rcases steady_moved clock held oldSteady incSteady commits with
      ⟨middleHeld, releasedSteady, receivedSteady⟩
    refine ih middleHeld receivedSteady ?_
    rw [List.forall_mem_append, List.forall_mem_cons]
    exact ⟨earlier, releasedSteady, others⟩

theorem created_steady {deployment : Deployment} {caller : Caller} {response : Response}
    (creation : Created afterZero deployment caller data store response final)
    (held : Everywhere Steady store) : Everywhere Steady final := by
  cases creation with
  | system flag type valid steps =>
    have impaired : (withDefaultDescription data).impact ≠ 0 := by
      rw [Setting.withDefaultDescription_impact]
      have low := (valid.impaired type).1
      omega
    have ongoing : (withDefaultDescription data).endDate = none := by
      unfold withDefaultDescription
      split_ifs <;> exact valid.ongoing type
    exact systemSteps_steady impaired ongoing steps held
  | @regular prepared opened created choice middle final regular valid prepares listed commits
      moves =>
      have sameType : prepared.type = data.type := by rw [prepares.same]
      have impaired : (regularIncident prepared caller.userID).type = .incident →
          (regularIncident prepared caller.userID).impact.getD 0 ≠ 0 := by
        intro type
        have incident : data.type = .incident := sameType ▸ type
        have low := (valid.impaired incident).1
        have impact : prepared.impact = data.impact := by rw [prepares.same]
        change prepared.impact ≠ 0
        omega
      have ongoing : (regularIncident prepared caller.userID).type = .incident →
          (regularIncident prepared caller.userID).endDate = none := by
        intro type
        have ending : prepared.endDate = data.endDate := by rw [prepares.same]
        exact ending.trans (valid.ongoing (sameType ▸ type))
      rcases steady_created held impaired ongoing commits with ⟨middleHeld, createdSteady⟩
      rcases moves with ⟨_, rfl⟩ | ⟨_, moves⟩
      · exact middleHeld
      · rcases listed with ⟨time, _, lists⟩
        refine relocates_steady moves middleHeld createdSteady ?_
        intro copy member
        rcases lists.sound copy member with ⟨row, found, _, shape⟩
        exact (held _ _ found).copy shape

end Creation

/-! ## Changes -/

section Change

variable {caller : Caller} {id : Nat} {data : PatchIncidentData} {store final : Store}
variable {row : IncidentRow} {stored : Incident}

/-- What the checks of a PATCH leave for an incident. -/
structure AcceptedPatch (data : PatchIncidentData) (row : IncidentRow) : Prop where
  impact : data.impact.getD row.impact ≠ 0
  status : data.status ≠ .unset
  closed : row.endDate ≠ none →
    data.status = .reopened ∨ data.status = .changed

theorem acceptedPatch (copied : stored = storedCopy store (id, row)) (steady : Steady row)
    (type : row.type = .incident) (bound : data.bound = true)
    (allowed : prepareIncidentPatch caller stored data = none) : AcceptedPatch data row := by
  have checked := checkPatchData_none (prepareIncidentPatch_none allowed).1
  rw [copied] at checked
  refine ⟨?_, ?_, ?_⟩
  · intro zero
    have mismatch : validateEffectiveTypeAndImpact row.type (data.impact.getD row.impact) = none :=
      checked.1
    simp [validateEffectiveTypeAndImpact, type, zero] at mismatch
  · simp only [PatchIncidentData.bound, Bool.and_eq_true, decide_eq_true_eq] at bound
    exact bound.1.2
  · intro ended
    have patch : checkPatchDataForIncident data (storedCopy store (id, row)) = none :=
      checked.2.2 type
    have known : (storedCopy store (id, row)).endDate.isSome = true := by
      change (optTimePtr row.endDate).isSome = true
      rw [steady.read type]
      exact Option.isSome_iff_ne_none.mpr ended
    unfold checkPatchDataForIncident at patch
    rw [if_pos known] at patch
    split_ifs at patch with other
    cases status : data.status <;> simp_all [isIncidentClosedStatus]

/-- The row a PATCH of an incident writes, in terms of the row it has read. -/
theorem patched_columns (copied : stored = storedCopy store (id, row)) (steady : Steady row)
    (type : row.type = .incident) (accepted : AcceptedPatch data row) (now : Time)
    (userID : Option String) (version : Int) :
    (modifiedRow now (patchedIncident data userID stored) version row).impact =
        data.impact.getD row.impact ∧
      (modifiedRow now (patchedIncident data userID stored) version row).status =
        some data.status ∧
      (modifiedRow now (patchedIncident data userID stored) version row).endDate =
        if data.status = .resolved then some data.updateDate
        else if data.status = .changed ∧ row.endDate ≠ none then data.endDate.or row.endDate
        else row.endDate := by
  have ending : stored.endDate = row.endDate := by
    rw [copied]
    exact steady.read type
  have level : stored.impact = some row.impact := by
    rw [copied]
    rfl
  refine ⟨patched_impact copied now data userID version, if_neg accepted.status, ?_⟩
  change (patchedEndDate data stored).or row.endDate = _
  unfold patchedEndDate acceptsDates
  rw [ending, level]
  have impaired : (some row.impact == some 0) = false := by
    simpa using (steady type).1
  rw [impaired, Bool.false_or]
  by_cases reopened : data.status = .reopened
  · rw [if_pos reopened, if_neg (by rw [reopened]; decide), if_neg (by rw [reopened]; simp)]
    rfl
  · rw [if_neg reopened]
    by_cases resolved : data.status = .resolved
    · rw [if_pos resolved, if_pos resolved]
      rfl
    · rw [if_neg resolved, if_neg resolved]
      cases ended : row.endDate with
      | none => simp
      | some =>
        have changed := (accepted.closed (by rw [ended]; nofun)).resolve_left reopened
        rw [Option.isSome_some, if_pos rfl, if_pos ⟨changed, nofun⟩]
        cases data.endDate <;> rfl

/-- The end date a PATCH stores is not kept as the zero time: neither the date of the
update that resolves an incident nor the end it names for a closed one. -/
def NamesNoZero (store : Store) : Activity → Prop
  | .patch _ id data => ∀ row ∈ store.incidents.get? id, row.type = .incident →
      (data.status = .resolved → columnTime data.updateDate ≠ columnTime zeroTime) ∧
      (row.endDate ≠ none → ∀ date ∈ data.endDate, columnTime date ≠ columnTime zeroTime)
  | _ => True

instance (store : Store) : DecidablePred (NamesNoZero store)
  | .patch _ id _ => inferInstanceAs (Decidable (∀ row ∈ store.incidents.get? id,
      row.type = .incident → _ ∧ _))
  | .post _ _ _ | .extract _ _ _ | .patchText _ _ _ _ | .checkMaintenance | .checkInfo
  | .drain _ _ | .redrive _ | .retention _ => isTrue trivial

/-- What a PATCH that does not reopen leaves is steady. -/
theorem patched_steady (copied : stored = storedCopy store (id, row)) (steady : Steady row)
    (bound : data.bound = true) (allowed : prepareIncidentPatch caller stored data = none)
    (other : data.status ≠ .reopened)
    (zero : row.type = .incident →
      (data.status = .resolved → columnTime data.updateDate ≠ columnTime zeroTime) ∧
      (row.endDate ≠ none → ∀ date ∈ data.endDate, columnTime date ≠ columnTime zeroTime))
    (now : Time) (userID : Option String) (version : Int) :
    Steady (modifiedRow now (patchedIncident data userID stored) version row) := by
  intro written
  have type : row.type = .incident := by
    rw [copied] at written
    exact written
  have accepted := acceptedPatch copied steady type bound allowed
  rcases patched_columns copied steady type accepted now userID version with
    ⟨impact, status, ending⟩
  rw [impact, status, ending]
  refine ⟨accepted.impact, ?_⟩
  change Agree data.status _
  split_ifs with resolved changed
  · refine ⟨?_, nofun, fun _ => Or.inl resolved⟩
    exact fun same => (zero type).1 resolved (congrArg columnTime (Option.some.inj same))
  · refine ⟨?_, fun same => absurd same resolved, fun _ => Or.inr changed.1⟩
    have nonzero := (steady type).2.nonzero
    cases given : data.endDate with
    | none => exact nonzero
    | some =>
      exact fun same => (zero type).2 changed.2 _ given (congrArg columnTime (Option.some.inj same))
  · cases ended : row.endDate with
    | none => exact agree_open resolved
    | some =>
      have set : row.endDate ≠ none := by
        rw [ended]
        nofun
      rcases accepted.closed set with same | same
      · exact absurd same other
      · exact absurd ⟨same, set⟩ changed

/-- A reopened incident has no end date and a status of its own. -/
theorem reopened_steady (copied : stored = storedCopy store (id, row)) (steady : Steady row)
    (bound : data.bound = true) (allowed : prepareIncidentPatch caller stored data = none)
    (reopened : data.status = .reopened) (now : Time) (userID : Option String) (version : Int) :
    Steady { modifiedRow now (patchedIncident data userID stored) version row with
      endDate := none } := by
  intro written
  have type : row.type = .incident := by
    rw [copied] at written
    exact written
  have accepted := acceptedPatch copied steady type bound allowed
  rcases patched_columns copied steady type accepted now userID version with ⟨impact, status, _⟩
  refine ⟨fun none => accepted.impact (impact.symm.trans none), ?_⟩
  dsimp only
  rw [status, reopened]
  have other : Status.reopened ≠ .resolved := by decide
  exact agree_open other

theorem patch_steady {deployment : Deployment}
    (patch : Patched deployment caller id data store final)
    (zero : NamesNoZero store (.patch caller id data)) (held : Everywhere Steady store) :
    Everywhere Steady final := by
  cases patch with
  | @plain row stored result choice final found copied bound allowed other commits =>
    have here : (patchedIncident data caller.userID stored).id = id := by
      rw [copied]
      rfl
    apply steady_of_commit commits held
    · intro target current present steady
      rw [EventWrite.rewritten, here]
      split_ifs with same
      · rw [same, found] at present
        cases present
        exact patched_steady copied steady bound allowed other (zero row found) _ _ _
      · exact steady
    · intro row inserted
      cases inserted
  | @reopened row stored result choice second middle final found copied bound allowed status
      commits reopens =>
      have here : (patchedIncident data caller.userID stored).id = id := by
        rw [copied]
        rfl
      intro target current present
      rcases row_origin reopens present with ⟨written, middleFound, rfl⟩ | ⟨_, inserted⟩
      · rcases row_origin commits middleFound with ⟨before, stored, rfl⟩ | ⟨_, inserted⟩
        · rw [EventWrite.rewritten, EventWrite.rewritten, here]
          split_ifs with same
          · rw [same, found] at stored
            cases stored
            exact reopened_steady copied (held id row found) bound allowed status _ _ _
          · exact held target before stored
        · cases inserted
      · cases inserted

theorem extract_steady {components : List Nat}
    (extraction : ExtractedFrom afterZero id components store final)
    (held : Everywhere Steady store) : Everywhere Steady final := by
  cases extraction with
  | @intro row stored result moved final found copied type chosen extraction =>
    have sameId : stored.id = id := by
      rw [copied]
      rfl
    have impact : stored.impact.getD 0 ≠ 0 := by
      rw [copied]
      exact (held id row found type).1
    have shape : stored = storedCopy store (stored.id, row) := by rw [sameId, ← copied]
    exact (steady_extracted held (sameId ▸ found) ((held id row found).copy shape) impact
      extraction).1

end Change

/-! ## Sessions -/

/-- No instant the clock shows is kept as the zero time or an earlier one. -/
def pastZero : Clock where
  shows time _ := columnTime zeroTime < columnTime time

instance (time : Time) (store : Store) : Decidable (pastZero time store) :=
  inferInstanceAs (Decidable (columnTime zeroTime < columnTime time))

instance : DecidablePred pastZero.lists := fun _ => isTrue trivial

theorem clockRuns_of_pastZero {event : DbEvent} (ticks : Ticks pastZero event) :
    ClockRuns event := by
  rcases event with ⟨operation, result, before, after⟩
  cases operation with
  | now =>
    change (0 : Int) < result
    have kept : (0 : Int) < result / 1000 := ticks
    omega
  | read => exact fun _ _ => trivial
  | _ => trivial

/-- In every session of activities that succeed or change nothing, started without
events and with a clock past the zero time, status and end date of every
incident fit as long as no PATCH stores an end date that is kept as the zero time. -/
theorem session_coherent {deployment : Deployment} {store final : Store}
    {entries : List Performed} (session : Session deployment store entries final)
    (bare : ∀ id, store.incidents.get? id = none) (whole : ∀ entry ∈ entries, Whole entry)
    (clocked : ∀ entry ∈ entries, ∀ event ∈ entry.events, Ticks pastZero event)
    (meets : Meets NamesNoZero store entries) : Everywhere Coherent final := by
  have ticks : ∀ entry ∈ entries, ∀ event ∈ entry.events, ClockRuns event :=
    fun entry listed event member => clockRuns_of_pastZero (clocked entry listed event member)
  have start : Everywhere Steady store := by
    intro id row found
    rw [bare] at found
    cases found
  have steady : Everywhere Steady final := by
    refine session_invariant session whole ticks meets ?_ start
    intro activity current next allowed effect held
    cases effect with
    | created creation => exact created_steady creation held
    | patched patch => exact patch_steady patch allowed held
    | extracted extraction => exact extract_steady extraction held
    | spared spares =>
      intro id row found type
      exact held id row ((spares.rows id row type).mp found) type
  exact fun id row found => (steady id row found).coherent

/-- An incident is resolved, its end date corrected and its status set once more. -/
def correctedEnd (date : Time) (status : Status) : List (Activity × Choice) :=
  [(.post .events anAdmin (incidentReport false [1] 1), atTime 2000),
    (.patch anAdmin 1 (statusPatch .resolved 3000 none), atTime 3000),
    (.patch anAdmin 1 { statusPatch .changed 4000 none with endDate := some date }, atTime 4000),
    (.patch anAdmin 1 (statusPatch status 5000 none), atTime 5000)]

/-- The zero time is stored as the end and read as none, so the incident is taken
for an open one and goes back to analysis with its end date set. -/
theorem session_coherent_fails :
    ¬ ∀ (deployment : Deployment) (store final : Store) (entries : List Performed),
      (∀ id, store.incidents.get? id = none) → Session deployment store entries final →
      (∀ entry ∈ entries, entry.outcome.isOk = true) →
      (∀ entry ∈ entries, ∀ event ∈ entry.events, Ticks pastZero event) →
      Everywhere Coherent final := by
  intro claimed
  have session := replay_session quietDeployment (correctedEnd zeroTime .analysing) (bareStore 1)
  have coherent := claimed quietDeployment (bareStore 1) _ _
    (fun _ => SerialTable.get?_empty _) session (by decide +kernel) (by decide +kernel)
  exact absurd coherent (by decide +kernel)

theorem session_coherent_reopened :
    ((replay quietDeployment (correctedEnd 3500 .reopened) (bareStore 1)).2.incidents.get? 1).map
      (fun row => (row.status, row.endDate)) = some (some .reopened, none) ∧
    Everywhere Coherent
      (replay quietDeployment (correctedEnd 3500 .reopened) (bareStore 1)).2 := by
  have session := replay_session quietDeployment (correctedEnd 3500 .reopened) (bareStore 1)
  exact ⟨by decide +kernel, session_coherent session (fun _ => SerialTable.get?_empty _)
    (by decide +kernel) (by decide +kernel) (by decide +kernel)⟩

end StatusDashboard.Properties
