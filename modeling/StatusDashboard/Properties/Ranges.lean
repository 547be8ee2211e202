import StatusDashboard.Provenance.Columns

namespace StatusDashboard.Properties

open Event Storage Tables Notification Handlers Process Provenance

/-!
# Impact and dates

Two relations between the columns of one event: the impact fits the type, and
the end date does not lie before the start date.  Creations check both for some
types.  A PATCH checks neither range nor order, and a move closes its source at
the time the clock shows.  For each relation the condition under which a step
keeps it is exact.
-/

variable {property : IncidentRow → Prop} {store : Store} {before : IncidentRow}

/-- All stored events have a property. -/
def Everywhere (property : IncidentRow → Prop) (store : Store) : Prop :=
  ∀ id row, store.incidents.get? id = some row → property row

theorem everywhere_iff :
    Everywhere property store ↔ ∀ entry ∈ store.incidents.rows, property entry.2 := by
  constructor
  · intro held entry member
    exact held entry.1 entry.2 (SerialTable.mem_rows.mp member)
  · intro held id row found
    exact held (id, row) (SerialTable.mem_rows.mpr found)

instance (property : IncidentRow → Prop) [DecidablePred property] (store : Store) :
    Decidable (Everywhere property store) :=
  decidable_of_iff _ everywhere_iff.symm

theorem Everywhere.sameEvents {final : Store} (held : Everywhere property store)
    (same : SameEvents store final) :
    Everywhere property final := by
  intro id row found
  rw [same.incidents] at found
  exact held id row found

/-! ## Impacts -/

/-- The impact an event of each type may have. -/
def Ranged (row : IncidentRow) : Prop :=
  if row.type = .incident then 1 ≤ row.impact ∧ row.impact ≤ 3 else row.impact = 0

instance : DecidablePred Ranged := fun row =>
  inferInstanceAs (Decidable (if row.type = .incident then _ else _))

/-- A PATCH of an incident names no impact or one of the three. -/
def StepRanged (activity : Activity) (event : DbEvent) : Prop :=
  match activity with
  | .patch _ _ data => ∀ stored ∈ fromCommit EventWrite.patches event,
      ∀ row ∈ event.before.incidents.get? stored.id, row.type = .incident →
        ∀ impact ∈ data.impact, 1 ≤ impact ∧ impact ≤ 3
  | _ => True

instance (activity : Activity) (event : DbEvent) : Decidable (StepRanged activity event) :=
  match activity with
  | .patch _ _ _ => inferInstanceAs (Decidable (∀ stored ∈ fromCommit EventWrite.patches event,
      ∀ row ∈ event.before.incidents.get? stored.id, _))
  | .post _ _ _ | .extract _ _ _ | .patchText _ _ _ _ | .checkMaintenance | .checkInfo
  | .drain _ _ | .redrive _ | .retention _ => .isTrue trivial

theorem stepRanged_of_no_patch {activity : Activity} {event : DbEvent}
    (still : fromCommit EventWrite.patches event = none) : StepRanged activity event := by
  cases activity with
  | patch =>
    intro stored member
    rw [still] at member
    cases member
  | _ => trivial

theorem Ranged.congr {row : IncidentRow} (held : Ranged before) (type : row.type = before.type)
    (impact : row.impact = before.impact) : Ranged row := by
  unfold Ranged at held ⊢
  rw [type, impact]
  exact held

theorem ranged_incident {row : IncidentRow} (type : row.type = .incident) :
    Ranged row ↔ 1 ≤ row.impact ∧ row.impact ≤ 3 := by
  unfold Ranged
  rw [if_pos type]

theorem patched_impact {copy : Incident} {id : Nat} (reads : copy = storedCopy store (id, before))
    (now : Time) (data : PatchIncidentData) (userID : Option String) (version : Int) :
    (modifiedRow now (patchedIncident data userID copy) version before).impact =
      data.impact.getD before.impact := by
  rw [reads]
  change (data.impact.or (some before.impact)).getD before.impact = _
  cases data.impact <;> rfl

/-- An accepted PATCH keeps the impact of a maintenance or notice at zero. -/
theorem patched_unimpaired {caller : Caller} {copy : Incident} {id : Nat} {data : PatchIncidentData}
    (reads : copy = storedCopy store (id, before))
    (allowed : prepareIncidentPatch caller copy data = none) (type : before.type ≠ .incident) :
    data.impact.getD before.impact = 0 := by
  have checked := (checkPatchData_none (prepareIncidentPatch_none allowed).1).1
  rw [reads] at checked
  change validateEffectiveTypeAndImpact before.type (data.impact.getD before.impact) = none at checked
  unfold validateEffectiveTypeAndImpact at checked
  split_ifs at checked with mismatch missing
  by_contra nonzero
  apply mismatch
  refine ⟨?_, nonzero⟩
  cases known : before.type with
  | information => exact Or.inr rfl
  | incident => exact absurd known type
  | maintenance => exact Or.inl rfl

variable {recorded : DbEvent → Prop} {unaffected : Unaffected recorded}
variable {deployment : Deployment} {activity : Activity} {β : Type} {statement : EventWrite β}
variable {choice : Choice} {value : β} {final : Store}

/-- A write leaves every impact in range exactly when it is no PATCH of an
incident that names another one. -/
theorem issued_ranged (held : Everywhere Ranged store)
    (issued : (alone (fun _ => True) recorded unaffected).Issued deployment activity store statement)
    (commits : statement.exec choice store = .ok (value, final)) :
    Everywhere Ranged final ↔ StepRanged activity (committed statement value store final) := by
  constructor
  · intro after
    cases issued with
    | patch bound fetched versioned allowed =>
      rename_i caller id data copy read before first
      intro stored member row found type impact given
      cases member
      rcases fetched with ⟨_, _, _, _, reading⟩
      rcases reading.alone with ⟨_, present, shape⟩
      have same := Option.some.inj (present.symm.trans found)
      subst same
      have rewritten := (exec_footprint commits).rows copy.id _ present
      have here : copy.id = (patchedIncident data caller.userID copy).id := rfl
      rw [EventWrite.rewritten, if_pos here] at rewritten
      have ranged := (ranged_incident (reading.type_eq.trans type)).mp
        (after copy.id _ rewritten)
      rw [patched_impact shape, given] at ranged
      exact ranged
    | _ => exact stepRanged_of_no_patch rfl
  · intro step id row found
    cases alone_columns issued commits found with
    | kept stored same => exact (held id _ stored).congr same.type same.impact
    | closed stored source time type incident impact =>
      exact (held id _ stored).congr type impact
    | raised stored impaired type incident impact =>
      exact (ranged_incident incident).mpr (impact ▸ impaired)
    | posted valid scheduled fresh type impact =>
      unfold Ranged
      rw [type, impact]
      split_ifs with incident
      · exact valid.impaired incident
      · exact valid.unimpaired incident
    | extracted fresh type impact =>
      rcases impact with requested | ⟨old, before, stored, incident, same⟩
      · exact (ranged_incident type).mpr requested
      · exact (held old before stored).congr (type.trans incident.symm) same
    | patched stored reads allowed written =>
      rename_i caller data publisher copy oldStatus userID before now
      have type : row.type = before.type := by
        rw [written, reads]
        rfl
      unfold Ranged
      rw [type, written, patched_impact reads]
      split_ifs with incident
      · cases given : data.impact with
        | none =>
          exact (ranged_incident incident).mp (held id before stored)
        | some impact =>
          have here : (patchedIncident data caller.userID copy).id = id := by
            rw [reads]
            rfl
          exact step _ rfl before (here ▸ stored) incident impact given
      · exact patched_unimpaired reads allowed incident

variable {row : IncidentRow}

/-- In every session that starts without events, a step from a store whose
impacts fit the types leaves such a store exactly when it is no PATCH of an
incident with an impact other than 1, 2 and 3.  So as long as no PATCH names
such an impact, the impacts fit the types in every store that is reached. -/
theorem session_ranged {deployment : Deployment} {store final : Store}
    {entries : List Performed} (session : Session deployment store entries final)
    (bare : ∀ id, store.incidents.get? id = none) :
    (∀ entry ∈ entries, ∀ event ∈ entry.events, Everywhere Ranged event.before →
      (Everywhere Ranged event.after ↔ StepRanged entry.activity event)) ∧
    ((∀ entry ∈ entries, ∀ event ∈ entry.events, StepRanged entry.activity event) →
      (∀ entry ∈ entries, ∀ event ∈ entry.events,
        Everywhere Ranged event.before ∧ Everywhere Ranged event.after) ∧
      Everywhere Ranged final) := by
  apply session_exact (fun same held => Everywhere.sameEvents held same) _ _ session
  · intro id row found
    rw [bare] at found
    cases found
  · exact fun activity event quiet => stepRanged_of_no_patch (fromCommit_of_quiet quiet)
  · exact fun _ _ _ _ statement choice value current next issued commits held =>
      issued_ranged held issued commits

/-- An incident is reported as minor and its impact changed. -/
def impactReports (impact : Int) : List (Activity × Choice) :=
  [(.post .events anAdmin (incidentReport false [1] 1), atTime 20),
    (.patch anAdmin 1 { statusPatch .impactChanged 30 none with impact := some impact }, atTime 30)]

/-- The PATCH is answered and leaves an impact of seven. -/
theorem session_ranged_fails :
    ¬ ∀ (deployment : Deployment) (store final : Store) (entries : List Performed),
      (∀ id, store.incidents.get? id = none) → Session deployment store entries final →
      (∀ entry ∈ entries, entry.outcome.isOk = true) → Everywhere Ranged final := by
  intro claimed
  have session := replay_session quietDeployment (impactReports 7) (bareStore 1)
  have ranged := claimed quietDeployment (bareStore 1) _ _ (fun _ => SerialTable.get?_empty _) session
    (by decide +kernel)
  exact absurd ranged (by decide +kernel)

theorem session_ranged_raised :
    (∀ entry ∈ (replay quietDeployment (impactReports 3) (bareStore 1)).1, ∀ event ∈ entry.events,
      StepRanged entry.activity event) ∧
    (∃ row, (replay quietDeployment (impactReports 3) (bareStore 1)).2.incidents.get? 1 = some row ∧
      row.impact = 3) ∧
    Everywhere Ranged (replay quietDeployment (impactReports 3) (bareStore 1)).2 := by
  have steps : ∀ entry ∈ (replay quietDeployment (impactReports 3) (bareStore 1)).1,
      ∀ event ∈ entry.events, StepRanged entry.activity event := by decide +kernel
  have session := replay_session quietDeployment (impactReports 3) (bareStore 1)
  exact ⟨steps, ⟨_, rfl, by decide +kernel⟩,
    ((session_ranged session (fun _ => SerialTable.get?_empty _)).2 steps).2⟩

/-! ## Dates -/

/-- The order of two dates of an event as their columns keep them; a maintenance has
to take some time. -/
def InOrder (type : EventType) (startDate endDate : Time) : Prop :=
  if type = .maintenance then columnTime startDate < columnTime endDate
  else columnTime startDate ≤ columnTime endDate

instance (type : EventType) (startDate endDate : Time) :
    Decidable (InOrder type startDate endDate) :=
  inferInstanceAs (Decidable (if type = .maintenance then _ else _))

/-- An end date is in order, and a maintenance has one. -/
def Ordered (row : IncidentRow) : Prop :=
  (∀ date ∈ row.endDate, InOrder row.type row.startDate date) ∧
    (row.type = .maintenance → row.endDate ≠ none)

instance : DecidablePred Ordered := fun row =>
  inferInstanceAs (Decidable ((∀ date ∈ row.endDate, _) ∧ _))

/-- Whether a PATCH takes over the dates it names: not for an open incident. -/
def TakesDates (row : IncidentRow) : Prop :=
  row.impact = 0 ∨ optTimePtr row.endDate ≠ none

instance : DecidablePred TakesDates := fun _ =>
  inferInstanceAs (Decidable (_ ∨ _))

/-- The dates a PATCH names are in order, completed by those stored: a resolved
incident has started by then, and dates that are taken over follow each other. -/
def PatchOrdered (data : PatchIncidentData) (row : IncidentRow) : Prop :=
  if data.status = .resolved then columnTime row.startDate ≤ columnTime data.updateDate
  else data.status ≠ .reopened → TakesDates row → ∀ date ∈ data.endDate.or row.endDate,
    InOrder row.type (data.startDate.getD row.startDate) date

instance (data : PatchIncidentData) (row : IncidentRow) : Decidable (PatchOrdered data row) :=
  inferInstanceAs (Decidable (if data.status = .resolved then _ else _))

/-- A request names dates in order, and a move closes no incident before its start. -/
def StepOrdered (activity : Activity) (event : DbEvent) : Prop :=
  (∀ closing ∈ fromCommit EventWrite.closes event,
    ∀ row ∈ event.before.incidents.get? closing.1,
      columnTime row.startDate ≤ columnTime closing.2) ∧
  match activity with
  | .post _ _ data => fromCommit EventWrite.creates event ≠ none →
      ∀ date ∈ data.endDate, InOrder data.type data.startDate date
  | .patch _ _ data => ∀ stored ∈ fromCommit EventWrite.patches event,
      ∀ row ∈ event.before.incidents.get? stored.id, PatchOrdered data row
  | _ => True

instance (activity : Activity) (event : DbEvent) : Decidable (StepOrdered activity event) :=
  match activity with
  | .post _ _ data => inferInstanceAs (Decidable (_ ∧ (_ → ∀ date ∈ data.endDate, _)))
  | .patch _ _ _ => inferInstanceAs (Decidable (_ ∧ ∀ stored ∈ fromCommit EventWrite.patches event,
      ∀ row ∈ event.before.incidents.get? stored.id, _))
  | .extract _ _ _ | .patchText _ _ _ _ | .checkMaintenance | .checkInfo
  | .drain _ _ | .redrive _ | .retention _ => inferInstanceAs (Decidable (_ ∧ True))

theorem stepOrdered_of_silence {activity : Activity} {event : DbEvent}
    (closes : fromCommit EventWrite.closes event = none)
    (creates : fromCommit EventWrite.creates event = none)
    (patches : fromCommit EventWrite.patches event = none) : StepOrdered activity event := by
  refine ⟨?_, ?_⟩
  · intro closing member
    rw [closes] at member
    cases member
  · cases activity with
    | post => exact fun created => absurd creates created
    | patch =>
      intro stored member
      rw [patches] at member
      cases member
    | _ => trivial

theorem Ordered.congr (held : Ordered before) (type : row.type = before.type)
    (startDate : row.startDate = before.startDate)
    (endDate : row.endDate = before.endDate ∨ row.type = .incident ∧ row.endDate = none) :
    Ordered row := by
  unfold Ordered at held ⊢
  rw [type, startDate]
  rcases endDate with kept | ⟨incident, cleared⟩
  · rw [kept]
    exact held
  · rw [cleared, ← type, incident]
    constructor
    · intro date member
      cases member
    · intro maintenance
      cases maintenance

theorem ordered_of_ended {date : Time} (ended : row.endDate = some date) :
    Ordered row ↔ InOrder row.type row.startDate date := by
  unfold Ordered
  rw [ended]
  constructor
  · exact fun held => held.1 date rfl
  · intro order
    refine ⟨?_, fun _ missing => by cases missing⟩
    intro other member
    cases member
    exact order

theorem inOrder_incident {type : EventType} {startDate endDate : Time} (other : type ≠ .maintenance) :
    InOrder type startDate endDate ↔ columnTime startDate ≤ columnTime endDate := by
  unfold InOrder
  rw [if_neg other]

/-- A resolved or reopened event is an incident, and its start date is not named. -/
theorem patch_keeps_start {caller : Caller} {stored : Incident} {data : PatchIncidentData}
    (allowed : prepareIncidentPatch caller stored data = none)
    (status : data.status = .resolved ∨ data.status = .reopened) :
    stored.type = .incident ∧ data.startDate = none := by
  rcases checkPatchData_none (prepareIncidentPatch_none allowed).1 with ⟨_, statuses, incident⟩
  have type : stored.type = .incident := by
    unfold validateStatusesPatch at statuses
    cases type : stored.type with
    | incident => rfl
    | information => rcases status with same | same <;> simp [type, same, isInformationStatus] at statuses
    | maintenance => rcases status with same | same <;> simp [type, same, isMaintenanceStatus] at statuses
  refine ⟨type, ?_⟩
  have checked := incident type
  unfold checkPatchDataForIncident at checked
  split_ifs at checked with ended closed dates impact named
  · have unnamed : ¬ (data.startDate.isSome || data.endDate.isSome) = true := by
      intro given
      apply dates
      refine ⟨given, ?_⟩
      rcases status with same | same <;> rw [same] <;> decide
    rw [Bool.or_eq_true, not_or] at unnamed
    simpa using unnamed.1
  · simpa using named

theorem acceptsDates_iff {id : Nat} :
    acceptsDates (storedCopy store (id, row)) = true ↔ TakesDates row := by
  unfold acceptsDates TakesDates
  rw [Bool.or_eq_true, beq_iff_eq, Option.isSome_iff_ne_none]
  change some row.impact = some 0 ∨ optTimePtr row.endDate ≠ none ↔ _
  rw [Option.some.injEq]

/-- The dates a PATCH leaves. -/
theorem patched_dates (data : PatchIncidentData) (userID : Option String) (store : Store) (id : Nat)
    (now : Time) (version : Int) (row : IncidentRow) :
    (modifiedRow now (patchedIncident data userID (storedCopy store (id, row))) version
        row).startDate =
        (if TakesDates row then data.startDate.getD row.startDate else row.startDate) ∧
      (modifiedRow now (patchedIncident data userID (storedCopy store (id, row))) version
        row).endDate =
        (if data.status = .resolved then some data.updateDate
        else if data.status ≠ .reopened ∧ TakesDates row then data.endDate.or row.endDate
        else row.endDate) := by
  have stored : (optTimePtr row.endDate).or row.endDate = row.endDate := by
    rcases optTimePtr_cases row.endDate with missing | same
    · rw [missing]
      rfl
    · rw [same, Option.or_self]
  constructor
  · change (if acceptsDates (storedCopy store (id, row)) then data.startDate.or (some row.startDate)
      else some row.startDate).getD row.startDate = _
    by_cases takes : TakesDates row
    · rw [if_pos (acceptsDates_iff.mpr takes), if_pos takes]
      cases data.startDate <;> rfl
    · rw [if_neg (fun accepts => takes (acceptsDates_iff.mp accepts)), if_neg takes]
      rfl
  · change (patchedEndDate data (storedCopy store (id, row))).or row.endDate = _
    unfold patchedEndDate
    by_cases resolved : data.status = .resolved
    · simp [resolved]
    · by_cases reopened : data.status = .reopened
      · simp [reopened]
      · by_cases takes : TakesDates row
        · simp only [if_neg resolved, if_neg reopened, if_pos (acceptsDates_iff.mpr takes)]
          rw [if_pos ⟨reopened, takes⟩, Option.or_assoc]
          exact congrArg _ stored
        · have accepts : ¬ acceptsDates (storedCopy store (id, row)) = true :=
            fun accepts => takes (acceptsDates_iff.mp accepts)
          simp only [if_neg resolved, if_neg reopened, if_neg accepts]
          rw [if_neg (fun both => takes both.2)]
          exact stored

/-- A PATCH leaves the dates in order exactly when those it names are. -/
theorem patched_ordered {caller : Caller} {data : PatchIncidentData} {id : Nat} (held : Ordered row)
    (allowed : prepareIncidentPatch caller (storedCopy store (id, row)) data = none) (now : Time)
    (version : Int) :
    Ordered (modifiedRow now (patchedIncident data caller.userID (storedCopy store (id, row)))
      version row) ↔ PatchOrdered data row := by
  rcases patched_dates data caller.userID store id now version row with ⟨start, ending⟩
  have type : (modifiedRow now (patchedIncident data caller.userID (storedCopy store (id, row)))
      version row).type = row.type := rfl
  unfold PatchOrdered
  by_cases resolved : data.status = .resolved
  · rcases patch_keeps_start allowed (Or.inl resolved) with ⟨incident, unnamed⟩
    have other : row.type ≠ .maintenance := by
      intro maintenance
      exact absurd (maintenance.symm.trans incident) (by decide)
    rw [if_pos resolved] at ending
    rw [if_pos resolved, ordered_of_ended ending, type, inOrder_incident other, start, unnamed]
    simp
  · rw [if_neg resolved] at ending ⊢
    by_cases reopened : data.status = .reopened
    · have unnamed := (patch_keeps_start allowed (Or.inr reopened)).2
      rw [if_neg (fun both => both.1 reopened)] at ending
      refine iff_of_true (held.congr type ?_ (Or.inl ending)) (fun other => absurd reopened other)
      rw [start, unnamed]
      simp
    · by_cases takes : TakesDates row
      · rw [if_pos ⟨reopened, takes⟩] at ending
        rw [if_pos takes] at start
        unfold Ordered
        rw [ending, start, type]
        constructor
        · exact fun ordered _ _ => ordered.1
        · intro named
          refine ⟨named reopened takes, ?_⟩
          intro maintenance missing
          rw [Option.or_eq_none_iff] at missing
          exact held.2 maintenance missing.2
      · rw [if_neg (fun both => takes both.2)] at ending
        rw [if_neg takes] at start
        exact iff_of_true (held.congr type start (Or.inl ending)) (fun _ taken => absurd taken takes)

/-- A closed source keeps its start date. -/
theorem closed_inOrder {named : Component} {timeNow : Time} {old new : Incident} {close : Bool}
    {moved : Incident × Incident} (oldSync : InSync old store) (oldType : old.type = .incident)
    (apart : old.id ≠ new.id)
    (commits : (moveStatement timeNow named old new close).exec choice store = .ok (moved, final))
    (after : Everywhere Ordered final) :
    ∀ closing ∈ (moveStatement timeNow named old new close).closes,
      ∀ row ∈ store.incidents.get? closing.1,
        columnTime row.startDate ≤ columnTime closing.2 := by
  cases close with
  | false =>
    intro closing member
    cases member
  | true =>
    intro closing member row found
    cases member
    have mirrors := oldSync.mirrors found
    have rewritten := (exec_footprint commits).rows old.id row found
    have different : (releaseComponent timeNow named old new true).id ≠
        (receiveComponent timeNow named old new).id := apart
    rw [EventWrite.rewritten, show releasedSource named (releaseComponent timeNow named old new
      true) true = releaseComponent timeNow named old new true from rfl,
      show old.id = (releaseComponent timeNow named old new true).id from rfl,
      writtenRow_second different] at rewritten
    have other : old.type ≠ .maintenance := by
      rw [oldType]
      decide
    have order := (inOrder_incident other).mp ((ordered_of_ended rfl).mp (after _ _ rewritten))
    change columnTime (old.startDate.getD row.startDate) ≤ columnTime timeNow at order
    rw [mirrors.startDate] at order
    exact order

/-- A write leaves the dates in order exactly when it names dates in order and
closes no incident before its start. -/
theorem issued_ordered (held : Everywhere Ordered store)
    (issued : (alone (fun _ => True) recorded unaffected).Issued deployment activity store statement)
    (commits : statement.exec choice store = .ok (value, final)) :
    Everywhere Ordered final ↔ StepOrdered activity (committed statement value store final) := by
  constructor
  · intro after
    cases issued with
    | regularCreate regular valid prepares =>
      rename_i route caller data prepared
      refine ⟨fun closing member => (by cases member), ?_⟩
      intro _ date named
      have stored := (created_row commits).stored
      have type : prepared.type = data.type := by rw [prepares.same]
      have start : prepared.startDate = data.startDate := by rw [prepares.same]
      have ending : prepared.endDate = data.endDate := by rw [prepares.same]
      have order := (after _ _ stored).1 date (ending.trans named)
      exact type ▸ start ▸ order
    | systemCreate names =>
      refine ⟨fun closing member => (by cases member), ?_⟩
      intro _ date named
      rw [names.valid.ongoing names.type] at named
      cases named
    | regularMove regular valid names oldTracked newTracked oldSettled newSettled oldType newType
        newOngoing holds distinct apart =>
        exact ⟨closed_inOrder oldTracked oldType apart commits after, fun created => absurd rfl created⟩
    | systemMove names same sourceFound targetFound =>
      rcases alone_source sourceFound with ⟨sourceSync, sourceType, _⟩
      exact ⟨closed_inOrder sourceSync sourceType (alone_apart sourceFound targetFound) commits
        after, fun created => absurd rfl created⟩
    | patch bound fetched versioned allowed =>
      rename_i caller id data copy read before first
      refine ⟨fun closing member => (by cases member), ?_⟩
      intro stored member row found
      cases member
      rcases fetched with ⟨_, _, _, _, reading⟩
      rcases reading.alone with ⟨_, present, shape⟩
      have same := Option.some.inj (present.symm.trans found)
      subst same
      have rewritten := (exec_footprint commits).rows copy.id _ present
      have here : copy.id = (patchedIncident data caller.userID copy).id := rfl
      rw [EventWrite.rewritten, if_pos here] at rewritten
      have ordered := after copy.id _ rewritten
      have reads : copy = storedCopy store (copy.id, read) := shape
      rw [reads] at allowed ordered
      exact (patched_ordered (held copy.id read present) allowed _ _).mp ordered
    | _ => exact stepOrdered_of_silence rfl rfl rfl
  · intro step id row found
    cases alone_columns issued commits found with
    | kept stored same => exact (held id _ stored).congr same.type same.startDate same.endDate
    | raised stored impaired type incident impact startDate endDate =>
      exact (held id _ stored).congr type startDate (Or.inl endDate)
    | extracted fresh type impact endDate =>
      unfold Ordered
      rw [endDate, type]
      constructor
      · intro date member
        cases member
      · intro maintenance
        cases maintenance
    | closed stored source time type incident impact startDate endDate =>
      rename_i component incOld incNew before date
      have other : row.type ≠ .maintenance := by
        rw [incident]
        decide
      rw [ordered_of_ended endDate, inOrder_incident other, startDate]
      have closing : (id, date) ∈ fromCommit EventWrite.closes
          (committed (.moveComponent component incOld incNew true) value store final) := by
        change incOld.endDate.map (fun date => (incOld.id, date)) = some (id, date)
        rw [time, source]
        rfl
      exact step.1 (id, date) closing before stored
    | posted valid scheduled fresh type impact startDate endDate =>
      rename_i route caller data publisher incident userID
      have named : ∀ date ∈ data.endDate, InOrder data.type data.startDate date :=
        step.2 (fun missing => by cases missing)
      unfold Ordered
      rw [type, startDate, endDate]
      cases known : data.type with
      | incident =>
        rw [valid.ongoing known]
        constructor
        · intro date member
          cases member
        · intro maintenance
          cases maintenance
      | maintenance =>
        rcases scheduled known with ⟨date, ended, _⟩
        refine ⟨known ▸ named, fun _ missing => ?_⟩
        rw [ended] at missing
        cases missing
      | information => exact ⟨known ▸ named, fun maintenance => by cases maintenance⟩
    | patched stored reads allowed written =>
      rename_i caller data publisher copy oldStatus userID before now
      subst reads
      rw [written]
      apply (patched_ordered (held id before stored) allowed _ _).mpr
      exact step.2 _ rfl before stored

/-- In every session that starts without events, a step from a store whose dates
are in order leaves such a store exactly when its request names dates in order
and it closes no incident before its start.  So as long as all steps do, the
dates are in order in every store that is reached. -/
theorem session_ordered {deployment : Deployment} {store final : Store}
    {entries : List Performed} (session : Session deployment store entries final)
    (bare : ∀ id, store.incidents.get? id = none) :
    (∀ entry ∈ entries, ∀ event ∈ entry.events, Everywhere Ordered event.before →
      (Everywhere Ordered event.after ↔ StepOrdered entry.activity event)) ∧
    ((∀ entry ∈ entries, ∀ event ∈ entry.events, StepOrdered entry.activity event) →
      (∀ entry ∈ entries, ∀ event ∈ entry.events,
        Everywhere Ordered event.before ∧ Everywhere Ordered event.after) ∧
      Everywhere Ordered final) := by
  apply session_exact (fun same held => Everywhere.sameEvents held same) _ _ session
  · intro id row found
    rw [bare] at found
    cases found
  · exact fun activity event quiet => stepOrdered_of_silence (fromCommit_of_quiet quiet)
      (fromCommit_of_quiet quiet) (fromCommit_of_quiet quiet)
  · exact fun _ _ _ _ statement choice value current next issued commits held =>
      issued_ordered held issued commits

/-- A maintenance is scheduled and then moved to another start date. -/
def shiftedMaintenance (startDate : Time) : List (Activity × Choice) :=
  [(.post .events anAdmin (maintenanceRequest 10000 20000), atTime 2000),
    (.patch anAdmin 1 { statusPatch .planned 3000 (some 2) with startDate := some startDate },
      atTime 3000),
    (.checkMaintenance, atTime 4000)]

/-- The PATCH is answered and leaves a maintenance that starts after its end. -/
theorem session_ordered_fails :
    ¬ ∀ (deployment : Deployment) (store final : Store) (entries : List Performed),
      (∀ id, store.incidents.get? id = none) → Session deployment store entries final →
      (∀ entry ∈ entries, entry.outcome.isOk = true) → Everywhere Ordered final := by
  intro claimed
  have session := replay_session quietDeployment (shiftedMaintenance 30000) (bareStore 1)
  have ordered := claimed quietDeployment (bareStore 1) _ _ (fun _ => SerialTable.get?_empty _)
    session (by decide +kernel)
  exact absurd ordered (by decide +kernel)

theorem session_ordered_shifted :
    (∀ entry ∈ (replay quietDeployment (shiftedMaintenance 15000) (bareStore 1)).1,
      ∀ event ∈ entry.events, StepOrdered entry.activity event) ∧
    (∃ row, (replay quietDeployment (shiftedMaintenance 15000) (bareStore 1)).2.incidents.get? 1 =
      some row ∧ row.startDate = 15000) ∧
    Everywhere Ordered (replay quietDeployment (shiftedMaintenance 15000) (bareStore 1)).2 := by
  have steps : ∀ entry ∈ (replay quietDeployment (shiftedMaintenance 15000) (bareStore 1)).1,
      ∀ event ∈ entry.events, StepOrdered entry.activity event := by decide +kernel
  have session := replay_session quietDeployment (shiftedMaintenance 15000) (bareStore 1)
  exact ⟨steps, ⟨_, rfl, by decide +kernel⟩,
    ((session_ordered session (fun _ => SerialTable.get?_empty _)).2 steps).2⟩

end StatusDashboard.Properties
