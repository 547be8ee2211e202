import StatusDashboard.Provenance.Revision
import StatusDashboard.Provenance.Shared

namespace StatusDashboard.Properties

open Event Storage Tables Handlers Process Provenance Checker

/-!
# Copies that are written back

A PATCH and a checker read an event, change some fields of the copy and write
all of them back.  Between the two the stored row may have changed, and then
fields return to what they were when they were read.  A maintenance is written
under a version, but the version of a PATCH is the one its client sent and not
the one of the copy.  For the other events there is no comparison at all.
-/

/-! ## Fields and what a request gives for them -/

/-- The fields of an event that a request can change. -/
@[ext]
structure Fields where
  text : String
  description : Option String
  impact : Int
  startDate : Time
  endDate : Option Time
  status : Option Status
deriving DecidableEq

def fields (row : IncidentRow) : Fields where
  text := row.text
  description := row.description
  impact := row.impact
  startDate := row.startDate
  endDate := row.endDate
  status := row.status

/-- Values for some of the fields. -/
structure Given where
  text : Option String := none
  description : Option String := none
  impact : Option Int := none
  startDate : Option Time := none
  endDate : Option (Option Time) := none
  status : Option Status := none
deriving DecidableEq

/-- Replace the fields that are given. -/
def Given.onto (given : Given) (current : Fields) : Fields where
  text := given.text.getD current.text
  description := given.description.or current.description
  impact := given.impact.getD current.impact
  startDate := given.startDate.getD current.startDate
  endDate := given.endDate.getD current.endDate
  status := given.status.or current.status

/-- Fields that are not given keep their value. -/
structure LeavesOthers (given : Given) (before after : Fields) : Prop where
  text : given.text = none → after.text = before.text
  description : given.description = none → after.description = before.description
  impact : given.impact = none → after.impact = before.impact
  startDate : given.startDate = none → after.startDate = before.startDate
  endDate : given.endDate = none → after.endDate = before.endDate
  status : given.status = none → after.status = before.status

/-- What the body of a PATCH gives.  Resolving dates the end of the incident. -/
def patchGives (data : PatchIncidentData) : Given where
  text := data.title
  description := data.description
  impact := data.impact
  startDate := data.startDate
  endDate := if data.status = .resolved then some (some data.updateDate) else data.endDate.map some
  status := some data.status

/-- The event whose end date a transaction clears. -/
def reopens : {β : Type} → EventWrite β → Option Nat
  | _, .reOpenIncident id => some id
  | _, _ => none

/-- What an operation of an activity gives for the fields of an event. -/
def given (activity : Activity) (event : DbEvent) (id : Nat) : Given :=
  if fromCommit reopens event = some id then { endDate := some none }
  else match fromCommit EventWrite.modifies event with
    | none => {}
    | some copy =>
      if copy.id = id then
        match activity with
        | .patch _ _ data => patchGives data
        | _ => { status := some copy.status }
      else {}

/-! ## Reads -/

/-- The row of an event that a query looks at. -/
def queriedRow (id : Nat) (store : Store) : {β : Type} → Query β → Option IncidentRow
  | _, .incident key => if key = id then store.incidents.get? id else none
  | _, .eventsByType _ _ => store.incidents.get? id
  | _, _ => none

def operationRow (id : Nat) (store : Store) : {β : Type} → Op β → Option IncidentRow
  | _, .read query => queriedRow id store query
  | _, _ => none

/-- The row of an event that an operation reads. -/
def rowRead (id : Nat) (event : DbEvent) : Option IncidentRow :=
  operationRow id event.before event.operation

/-- The rows of an event that a party has read. -/
def rowsRead {ι : Type} [DecidableEq ι] (party : ι) (id : Nat) (trace : List (ι × DbEvent)) :
    List IncidentRow :=
  (ownEvents party trace).filterMap (rowRead id)

/-- A copy as an activity computes it from a row. -/
inductive Computed : Activity → IncidentRow → Incident → Prop
  | patch (caller : Caller) (id : Nat) (data : PatchIncidentData) (row : IncidentRow)
      (components : List Component) (history : List IncidentStatus) :
      Computed (.patch caller id data) row
        (patchedIncident data caller.userID (incidentFromEnt id row components history))
  | maintenance {now : Time} {id : Nat} {row : IncidentRow} {components : List Component}
      {history : List IncidentStatus} {copy fixed : Incident}
      (loaded : copy = incidentFromEnt id row components history)
      (fixes : fixMntMissedStatuses (currentMntStatus now copy) (calculateMntStatusHistory copy)
        copy = some fixed) :
      Computed .checkMaintenance row { fixed with status := currentMntStatus now copy }
  | info {now : Time} {id : Nat} {row : IncidentRow} {components : List Component}
      {history : List IncidentStatus} {copy fixed : Incident}
      (loaded : copy = incidentFromEnt id row components history)
      (fixes : fixInfoMissedStatuses (currentInfoStatus now copy)
        (calculateInfoStatusHistory copy) copy = some fixed) :
      Computed .checkInfo row { fixed with status := currentInfoStatus now copy }

section Reads

variable {ι : Type} [DecidableEq ι] {party : ι} {id : Nat} {row : IncidentRow}

theorem mem_rowsRead {event : DbEvent} {trace : List (ι × DbEvent)}
    (member : (party, event) ∈ trace) (read : rowRead id event = some row) :
    row ∈ rowsRead party id trace := by
  refine List.mem_filterMap.mpr ⟨event, ?_, read⟩
  exact List.mem_filterMap.mpr ⟨(party, event), member, if_pos rfl⟩

/-- A write reads no row. -/
theorem rowsRead_append_of_modifies {entry : ι × DbEvent} {copy : Incident}
    (modifies : fromCommit EventWrite.modifies entry.2 = some copy)
    (earlier : List (ι × DbEvent)) :
    rowsRead party id (earlier ++ [entry]) = rowsRead party id earlier := by
  have silent : rowRead id entry.2 = none := by
    rcases entry with ⟨owner, operation, result, before, after⟩
    cases operation with
    | read => cases modifies
    | _ => rfl
  unfold rowsRead
  rw [ownEvents_append, List.filterMap_append]
  by_cases own : entry.1 = party
  · simp [ownEvents, own, silent]
  · simp [ownEvents, own]

end Reads

/-! ## What a copy leaves of the row it was read from -/

section Copies

variable {now : Time} {id : Nat} {row : IncidentRow} {components : List Component}
  {history : List IncidentStatus} {data : PatchIncidentData} {userID : Option String}

/-- The fields a PATCH leaves in the very row it was computed from. -/
theorem fields_patched (bound : data.bound = true) (version : Int) :
    fields (modifiedRow now
      (patchedIncident data userID (incidentFromEnt id row components history)) version row) =
      { text := data.title.getD row.text
        description := data.description.or row.description
        impact := data.impact.getD row.impact
        startDate := if acceptsDates (incidentFromEnt id row components history) then
          data.startDate.getD row.startDate else row.startDate
        endDate := (patchedEndDate data (incidentFromEnt id row components history)).or row.endDate
        status := some data.status } := by
  have known : data.status ≠ .unset := by
    intro unset
    simp [PatchIncidentData.bound, unset] at bound
  have text : ((data.title.or (some row.text)).getD row.text) = data.title.getD row.text := by
    cases data.title <;> rfl
  have description : (data.description.or row.description).or row.description =
      data.description.or row.description := by
    cases data.description <;> cases row.description <;> rfl
  have impact : ((data.impact.or (some row.impact)).getD row.impact) =
      data.impact.getD row.impact := by
    cases data.impact <;> rfl
  have startDate : (if acceptsDates (incidentFromEnt id row components history) then
        data.startDate.or (some row.startDate) else some row.startDate).getD row.startDate =
      if acceptsDates (incidentFromEnt id row components history) then
        data.startDate.getD row.startDate else row.startDate := by
    split_ifs
    · cases data.startDate <;> rfl
    · rfl
  exact Fields.ext text description impact startDate rfl (if_neg known)

/-- A PATCH computed from the stored row changes the fields it gives only. -/
theorem leavesOthers_patched (bound : data.bound = true) (closing : data.status ≠ .reopened)
    (version : Int) :
    LeavesOthers (patchGives data) (fields row) (fields (modifiedRow now
      (patchedIncident data userID (incidentFromEnt id row components history)) version row)) := by
  rw [fields_patched bound]
  refine ⟨?_, ?_, ?_, ?_, ?_, ?_⟩
  · intro missing
    simp [show data.title = none from missing, fields]
  · intro missing
    simp [show data.description = none from missing, fields]
  · intro missing
    simp [show data.impact = none from missing, fields]
  · intro missing
    simp [show data.startDate = none from missing, fields]
  · intro missing
    simp only [patchGives] at missing
    split_ifs at missing with resolved
    have unnamed : data.endDate = none := Option.map_eq_none_iff.mp missing
    simp only [patchedEndDate, if_neg closing, if_neg resolved, unnamed, Option.none_or, ite_self]
    exact optTimePtr_or row.endDate
  · intro missing
    cases missing

/-- The dates a PATCH names are taken over: they are accepted, and the status
does not decide the end date. -/
def DatesCount (data : PatchIncidentData) (row : IncidentRow) : Prop :=
  ((data.startDate ≠ none ∨ data.endDate ≠ none) →
    row.impact = 0 ∨ optTimePtr row.endDate ≠ none) ∧
  (data.endDate ≠ none → data.status ≠ .resolved ∧ data.status ≠ .reopened)

instance (data : PatchIncidentData) (row : IncidentRow) : Decidable (DatesCount data row) :=
  inferInstanceAs (Decidable (_ ∧ _))

theorem acceptsDates_loaded : acceptsDates (incidentFromEnt id row components history) = true ↔
    row.impact = 0 ∨ optTimePtr row.endDate ≠ none := by
  unfold acceptsDates
  rw [Bool.or_eq_true, Option.isSome_iff_ne_none, beq_iff_eq]
  exact or_congr ⟨fun equal => Option.some.inj equal, congrArg some⟩ Iff.rfl

/-- Then the PATCH leaves exactly what it gives. -/
theorem fields_given (bound : data.bound = true) (counts : DatesCount data row) (version : Int) :
    fields (modifiedRow now
      (patchedIncident data userID (incidentFromEnt id row components history)) version row) =
      (patchGives data).onto (fields row) := by
  rw [fields_patched bound]
  refine Fields.ext rfl rfl rfl ?_ ?_ rfl
  · change (if _ then _ else _) = data.startDate.getD row.startDate
    cases named : data.startDate with
    | none => simp
    | some =>
      rw [if_pos (acceptsDates_loaded.mpr (counts.1 (Or.inl (by simp [named]))))]
  · change (patchedEndDate data _).or row.endDate =
      (if data.status = .resolved then some (some data.updateDate)
        else data.endDate.map some).getD row.endDate
    unfold patchedEndDate
    cases named : data.endDate with
    | none =>
      by_cases reopened : data.status = .reopened
      · simp [reopened]
      · by_cases resolved : data.status = .resolved
        · simp [resolved]
        · simp only [if_neg reopened, if_neg resolved, Option.none_or, ite_self]
          exact optTimePtr_or row.endDate
    | some =>
      have decided := counts.2 (by simp [named])
      have accepted : acceptsDates (incidentFromEnt id row components history) = true :=
        acceptsDates_loaded.mpr (counts.1 (Or.inr (by simp [named])))
      simp [decided.1, decided.2, accepted]

/-- A copy with nothing but another status leaves the other fields. -/
theorem fields_restated {copy : Incident} {status : Status} {version : Int}
    (same : copy = { incidentFromEnt id row components history with
      statuses := copy.statuses, status := status }) (known : status ≠ .unset) :
    fields (modifiedRow now copy version row) = { fields row with status := some status } := by
  rw [same]
  have description : row.description.or row.description = row.description := by
    cases row.description <;> rfl
  exact Fields.ext rfl description rfl rfl (optTimePtr_or row.endDate) (if_neg known)

end Copies

/-! ## Maintenances -/

/-- A write of a copy and the row it was computed from: it replaces that row
exactly if it carries the version of that row, and then it changes nothing but
the fields it gives. -/
def WritesBack (activity : Activity) (read : List IncidentRow) (event : DbEvent)
    (copy : Incident) : Prop :=
  ∃ row ∈ read, Computed activity row copy ∧
    (event.before.incidents.get? copy.id = some row ↔ copy.version = some row.version) ∧
    (event.before.incidents.get? copy.id = some row →
      ∃ after, event.after.incidents.get? copy.id = some after ∧
        LeavesOthers (given activity event copy.id) (fields row) (fields after))

section Maintenance

variable {β : Type} {choice : Choice} {statement : EventWrite β} {value : β}
  {store final : Store} {copy : Incident}

/-- A copy of a maintenance replaces the row with its version. -/
theorem replaces_iff {first : Store} {row : IncidentRow}
    (commits : statement.exec choice store = .ok (value, final))
    (modifies : statement.modifies = some copy) (maintenance : copy.type = .maintenance)
    (evolves : Evolves first store) (found : first.incidents.get? copy.id = some row)
    (same : row.type = copy.type) :
    store.incidents.get? copy.id = some row ↔ copy.version = some row.version := by
  rcases (exec_footprint commits).guarded copy modifies with ⟨version, known, guarded⟩
  rcases guarded maintenance with ⟨current, present, equal⟩
  constructor
  · intro stored
    rw [stored] at present
    cases present
    rw [known, equal]
  · intro sent
    rw [known, Option.some.injEq] at sent
    rw [present, evolves.row_eq found (same.trans maintenance) present (by omega)]

theorem given_of_modifies {activity : Activity} (modifies : statement.modifies = some copy) :
    given activity (committed statement value store final) copy.id =
      match activity with
      | .patch _ _ data => patchGives data
      | _ => { status := some copy.status } := by
  have unopened : fromCommit reopens (committed statement value store final) ≠ some copy.id := by
    change reopens statement ≠ some copy.id
    cases statement <;> cases modifies <;> simp [reopens]
  have written : fromCommit EventWrite.modifies (committed statement value store final) =
      some copy := modifies
  unfold given
  rw [if_neg unopened, written]
  exact if_pos rfl

/-- What is owed about every committed write of a maintenance. -/
def MaintenanceWrites {ι : Type} [DecidableEq ι] (activities : ι → Activity)
    (seen : List (ι × DbEvent)) (party : ι) (event : DbEvent) : Prop :=
  ∀ written ∈ fromCommit EventWrite.modifies event, written.type = .maintenance →
    WritesBack (activities party) (rowsRead party written.id seen) event written

theorem maintenanceWrites_unaffected {ι : Type} [DecidableEq ι] (activities : ι → Activity)
    (seen : List (ι × DbEvent)) (party : ι) :
    Unaffected (MaintenanceWrites activities seen party) := by
  apply unaffected_of_quiet
  intro event quiet _ written member
  rw [fromCommit_of_quiet quiet] at member
  cases member

section Issued

variable {ι : Type} [DecidableEq ι] {party : ι} {seen : List (ι × DbEvent)}
  {property : DbEvent → Prop} {unaffected : Unaffected property}

/-- The row of a fetched copy was read by the party. -/
theorem row_mem_of_fetched {id : Nat} {row : IncidentRow} {before first : Store}
    (fetched : (shared evolution (fun event => (party, event) ∈ seen) property
      unaffected).Fetched id copy row before first store) :
    row ∈ rowsRead party copy.id seen := by
  rcases fetched with ⟨rfl, _, _, ⟨moment, member⟩, reading⟩
  exact mem_rowsRead member ((if_pos rfl).trans reading.found)

theorem issued_writesBack {deployment : Deployment} {activity : Activity}
    (issued : (shared evolution (fun event => (party, event) ∈ seen) property unaffected).Issued
      deployment activity store statement)
    (commits : statement.exec choice store = .ok (value, final))
    (modifies : statement.modifies = some copy) (maintenance : copy.type = .maintenance) :
    WritesBack activity (rowsRead party copy.id seen)
      (committed statement value store final) copy := by
  have footprint := exec_footprint commits
  cases issued with
  | patch bound fetched versioned allowed =>
    rename_i caller id data stored row before first
    cases modifies
    have reading := fetched.2.2.2.2
    have read := row_mem_of_fetched fetched
    rcases reading.assembled with ⟨second, third, _, _, _, loaded⟩
    have closing : data.status ≠ .reopened := by
      intro reopened
      have type := incident_of_reopened allowed reopened
      rw [show stored.type = .maintenance from maintenance] at type
      cases type
    have computed : Computed (.patch caller id data) row
        (patchedIncident data caller.userID stored) := by
      rw [loaded, fetched.1]
      exact .patch caller id data row _ _
    refine ⟨row, read, computed, ?_, ?_⟩
    · exact replaces_iff commits rfl maintenance reading.reaches reading.found
        reading.type_eq.symm
    · intro current
      refine ⟨_, footprint.rows _ row current, ?_⟩
      rw [given_of_modifies rfl, rewritten_of_modifies rfl, loaded]
      exact leavesOthers_patched bound closing _
  | checkMaintenance kept listed type submitted later fetched fixes changes =>
    rename_i batchRow row stored fixed now batch before first
    cases modifies
    have reading := fetched.2.2.2.2
    have read := row_mem_of_fetched fetched
    rcases reading.assembled with ⟨second, third, _, _, _, loaded⟩
    have computed : Computed .checkMaintenance row
        { fixed with status := currentMntStatus now stored } := .maintenance loaded fixes
    rcases completes_fixMntMissedStatuses fixes with ⟨added, rfl, _⟩
    have known : currentMntStatus now stored ≠ .unset := by
      intro unset
      have listed := currentMntStatus_mem now stored
      simp [unset] at listed
    refine ⟨row, read, computed, ?_, ?_⟩
    · exact replaces_iff commits rfl maintenance reading.reaches reading.found
        reading.type_eq.symm
    · intro current
      refine ⟨_, footprint.rows _ row current, ?_⟩
      rw [given_of_modifies rfl, rewritten_of_modifies rfl,
        fields_restated (by rw [loaded]) known]
      exact ⟨fun _ => rfl, fun _ => rfl, fun _ => rfl, fun _ => rfl, fun _ => rfl,
        fun missing => by cases missing⟩
  | checkInfo type assumed kept reading later fixes =>
    cases modifies
    rcases completes_fixInfoMissedStatuses fixes with ⟨added, rfl, _⟩
    have information := reading.type_eq.trans type
    rw [show _ = EventType.maintenance from maintenance] at information
    cases information
  | systemMark type valid inserted =>
    cases modifies
    have incident := congrArg Incident.type inserted.same
    rw [show _ = EventType.maintenance from maintenance] at incident
    cases incident
  | _ => cases modifies

end Issued

end Maintenance

/-- Whatever runs at the same time, a committed write of a maintenance replaces
exactly the row its fields were computed from if it carries the version of that
row, and only then.  It then changes no field that it does not give. -/
theorem pool_writesBack {ι : Type} [DecidableEq ι] {deployment : Deployment}
    {activities : ι → Activity} {store final : Store} {trace : List (ι × DbEvent)}
    (pool : Pool deployment activities store trace final) :
    Along (fun earlier entry => ∀ copy ∈ fromCommit EventWrite.modifies entry.2,
      copy.type = .maintenance → WritesBack (activities entry.1)
        (rowsRead entry.1 copy.id earlier) entry.2 copy) trace := by
  have along := pool_along pool (MaintenanceWrites activities)
    (maintenanceWrites_unaffected activities)
    (fun seen party _ statement choice value current next issued commits _ copy modifies type =>
      issued_writesBack issued commits modifies type)
  rw [along_iff] at along ⊢
  intro earlier entry later split copy modifies type
  have written := along earlier entry later split copy modifies type
  rwa [rowsRead_append_of_modifies modifies] at written

/-! ### A version ahead of the copy -/

/-- A request for another title or description. -/
def textPatch (title description : Option String) (status : Status) (version : Option Int) :
    PatchIncidentData :=
  { statusPatch status 20 version with title := title, description := description }

/-- The first party changes the description, the other one the title. -/
def twoEditors (status : Status) (first second : Option Int) : Nat → Activity
  | 0 => .patch anAdmin 1 (textPatch none (some "new description") status first)
  | _ => .patch anAdmin 1 (textPatch (some "new title") none status second)

/-- The first party reads the event, the second one reads and writes it, then
the first one writes. -/
def overlap : List (Nat × Choice) :=
  List.replicate 3 (0, atTime 30) ++ List.replicate 20 (1, atTime 31) ++
    List.replicate 20 (0, atTime 32)

/-- A maintenance, stored with version 2. -/
def scheduledStore : Store :=
  (replay quietDeployment [(.post .events anAdmin (maintenanceRequest 100 200), atTime 10)]
    (bareStore 1)).2

/-- Both parties work on the maintenance; the first sends the given version. -/
def maintenanceRun (version : Int) : List (Nat × DbEvent) × Store :=
  schedule database
    (fun party => (twoEditors .planned (some version) (some 2) party).program quietDeployment)
    overlap scheduledStore

/-- The first party read version 2 and sends 3, which is what the second one
has left: the new title is gone. -/
theorem pool_writesBack_fails :
    ¬ ∀ (trace : List (Nat × DbEvent)) (final : Store),
      Pool quietDeployment (twoEditors .planned (some 3) (some 2)) scheduledStore trace final →
      Along (fun earlier entry => ∀ copy ∈ fromCommit EventWrite.modifies entry.2,
        copy.type = .maintenance → ∃ row ∈ rowsRead entry.1 copy.id earlier,
          entry.2.before.incidents.get? copy.id = some row) trace := by
  intro replaces
  have pool : Pool quietDeployment (twoEditors .planned (some 3) (some 2)) scheduledStore
      (maintenanceRun 3).1 (maintenanceRun 3).2 := schedule_interleaving database _ _ _
  have reverted : ¬ Along (fun earlier entry => ∀ copy ∈ fromCommit EventWrite.modifies entry.2,
      copy.type = .maintenance → ∃ row ∈ rowsRead entry.1 copy.id earlier,
        entry.2.before.incidents.get? copy.id = some row) (maintenanceRun 3).1 := by
    decide +kernel
  exact reverted (replaces _ _ pool)

theorem pool_writesBack_refused :
    (maintenanceRun 2).2.incidents.get? 1 ≠ scheduledStore.incidents.get? 1 ∧
      Along (fun earlier entry => ∀ copy ∈ fromCommit EventWrite.modifies entry.2,
        copy.type = .maintenance → WritesBack (twoEditors .planned (some 2) (some 2) entry.1)
          (rowsRead entry.1 copy.id earlier) entry.2 copy) (maintenanceRun 2).1 := by
  have pool : Pool quietDeployment (twoEditors .planned (some 2) (some 2)) scheduledStore
      (maintenanceRun 2).1 (maintenanceRun 2).2 := schedule_interleaving database _ _ _
  exact ⟨by decide +kernel, pool_writesBack pool⟩

/-! ## Incidents and informational events -/

/-- The requests and rounds that modify an event. -/
def Revises : Activity → Prop
  | .patch _ _ _ => True
  | .checkMaintenance => True
  | .checkInfo => True
  | _ => False

def patchBody : Activity → Option PatchIncidentData
  | .patch _ _ data => some data
  | _ => none

/-- A committed modification of an event finds the row that its party has read,
and counts the dates it names. -/
def Undisturbed {ι : Type} [DecidableEq ι] (activities : ι → Activity) (id : Nat)
    (earlier : List (ι × DbEvent)) (entry : ι × DbEvent) : Prop :=
  ∀ copy ∈ fromCommit EventWrite.modifies entry.2, copy.id = id →
    (∀ row ∈ rowsRead entry.1 id earlier, entry.2.before.incidents.get? id = some row) ∧
    ∀ data ∈ patchBody (activities entry.1), ∀ row ∈ entry.2.before.incidents.get? id,
      DatesCount data row

instance {ι : Type} [DecidableEq ι] (activities : ι → Activity) (id : Nat)
    (earlier : List (ι × DbEvent)) (entry : ι × DbEvent) :
    Decidable (Undisturbed activities id earlier entry) :=
  inferInstanceAs (Decidable (∀ copy ∈ fromCommit EventWrite.modifies entry.2, _))

theorem Given.onto_nothing (current : Fields) : Given.onto {} current = current := by
  refine Fields.ext rfl ?_ rfl rfl rfl ?_
  · exact Option.none_or
  · exact Option.none_or

theorem given_of_quiet {activity : Activity} {event : DbEvent} {id : Nat}
    (quiet : ¬ Commits event) : given activity event id = {} := by
  unfold given
  rw [fromCommit_of_quiet quiet, fromCommit_of_quiet quiet]
  rfl

theorem currentInfoStatus_known (now : Time) (info : Incident) :
    currentInfoStatus now info ≠ .unset := by
  unfold currentInfoStatus infoStatusAt
  dsimp only
  split_ifs <;> simp

/-- How one operation treats an event that is no maintenance. -/
def GivesFields (activity : Activity) (id : Nat) (event : DbEvent) : Prop :=
  ∀ row, event.before.incidents.get? id = some row → row.type ≠ .maintenance →
    (∃ after, event.after.incidents.get? id = some after ∧
      fields after = (given activity event id).onto (fields row)) ∧
    ∀ copy ∈ fromCommit EventWrite.modifies event, copy.id = id → Computed activity row copy

section Revision

variable {ι : Type} [DecidableEq ι] {party : ι} {seen : List (ι × DbEvent)}
  {property : DbEvent → Prop} {unaffected : Unaffected property} {deployment : Deployment}
  {β : Type} {choice : Choice} {statement : EventWrite β} {value : β} {store final : Store}
  {id : Nat} {row : IncidentRow}

/-- A modification of another event gives nothing for this one. -/
theorem given_of_other {activity : Activity} {copy : Incident}
    (modifies : statement.modifies = some copy) (other : copy.id ≠ id) :
    given activity (committed statement value store final) id = {} := by
  have unopened : fromCommit reopens (committed statement value store final) ≠ some id := by
    change reopens statement ≠ some id
    cases statement <;> cases modifies <;> simp [reopens]
  have written : fromCommit EventWrite.modifies (committed statement value store final) =
      some copy := modifies
  unfold given
  rw [if_neg unopened, written]
  exact if_neg other

/-- What has to be shown of a modification: that it leaves the fields it gives
in the row it was computed from. -/
theorem givesFields_of_modifies {activity : Activity} {copy : Incident}
    (commits : statement.exec choice store = .ok (value, final))
    (modifies : statement.modifies = some copy)
    (own : copy.id = id → ∀ row, store.incidents.get? id = some row → row.type ≠ .maintenance →
      fields (modifiedRow choice.now copy (nextVersion copy) row) =
        (given activity (committed statement value store final) id).onto (fields row) ∧
      Computed activity row copy) :
    GivesFields activity id (committed statement value store final) := by
  intro row found type
  have stored := (exec_footprint commits).rows id row found
  by_cases here : copy.id = id
  · rcases own here row found type with ⟨left, computed⟩
    rw [← here, rewritten_of_modifies modifies] at stored
    refine ⟨⟨_, here ▸ stored, left⟩, ?_⟩
    intro written member _
    have same : some copy = some written := modifies.symm.trans member
    cases same
    exact computed
  · have untouched : id ∉ statement.targets := by
      cases statement <;> cases modifies <;> simpa [EventWrite.targets] using Ne.symm here
    rw [EventWrite.rewritten_of_not_target untouched] at stored
    refine ⟨⟨row, stored, ?_⟩, ?_⟩
    · rw [given_of_other modifies here, Given.onto_nothing]
    · intro written member equal
      have same : some copy = some written := modifies.symm.trans member
      cases same
      exact absurd equal here

theorem reopened_givesFields {activity : Activity} {target : Nat} {done : Unit}
    (commits : (EventWrite.reOpenIncident target).exec choice store = .ok (done, final)) :
    GivesFields activity id
      (committed (EventWrite.reOpenIncident target) done store final) := by
  intro row found _
  have stored := (exec_footprint commits).rows id row found
  refine ⟨⟨_, stored, ?_⟩, fun copy member => by cases member⟩
  by_cases here : id = target
  · subst here
    have opened : given activity
        (committed (EventWrite.reOpenIncident id) done store final) id = { endDate := some none } :=
      if_pos rfl
    rw [opened, EventWrite.rewritten, if_pos rfl]
    exact Fields.ext rfl Option.none_or.symm rfl rfl rfl Option.none_or.symm
  · have nothing : given activity
        (committed (EventWrite.reOpenIncident target) done store final) id = {} :=
      if_neg (fun equal => here (Option.some.inj equal).symm)
    rw [nothing, Given.onto_nothing, EventWrite.rewritten, if_neg here]

/-- Undisturbed, every write of a PATCH or a checker gives fields. -/
theorem issued_givesFields {activities : ι → Activity} (revises : Revises (activities party))
    (issued : (shared evolution (fun event => (party, event) ∈ seen) property unaffected).Issued
      deployment (activities party) store statement)
    (commits : statement.exec choice store = .ok (value, final))
    (undisturbed : Undisturbed activities id seen
      (party, committed statement value store final)) :
    GivesFields (activities party) id (committed statement value store final) := by
  have evolving : (shared evolution (fun event => (party, event) ∈ seen) property
    unaffected).Evolving := shared_evolving
  generalize requested : activities party = activity at issued revises ⊢
  cases issued with
  | patch bound fetched versioned allowed =>
    rename_i caller target data stored row before first
    refine givesFields_of_modifies commits rfl ?_
    rintro rfl current found type
    have reading := fetched.2.2.2.2
    have read := row_mem_of_fetched fetched
    rcases undisturbed _ rfl rfl with ⟨unchanged, counts⟩
    have same : some row = some current := (unchanged row read).symm.trans found
    cases same
    rcases reading.assembled with ⟨second, third, _, _, _, loaded⟩
    have counted : DatesCount data row := counts data (by rw [requested]; rfl) row found
    constructor
    · rw [given_of_modifies rfl, loaded]
      exact fields_given bound counted _
    · rw [loaded, fetched.1]
      exact .patch caller target data row _ _
  | reopen => exact reopened_givesFields commits
  | checkMaintenance kept listed type submitted later fetched fixes =>
    rcases completes_fixMntMissedStatuses fixes with ⟨added, rfl, _⟩
    refine givesFields_of_modifies commits rfl ?_
    rintro rfl current found other
    have reading := fetched.2.2.2.2
    have stored := (evolving.typed_of_reading reading).row_type found
    have loaded := ((evolving.across later).trans (evolving.rely fetched.2.1)).type_eq listed
      reading.found
    exact absurd (stored.trans (reading.type_eq.trans (loaded.trans type))) other
  | checkInfo type assumed kept reading later fixes changes unwritten =>
    rename_i row stored fixed now first earlier
    rcases assumed with ⟨moment, member⟩
    have read : row ∈ rowsRead party stored.id seen := mem_rowsRead member reading.found
    have computed : ∀ components history, stored =
        incidentFromEnt stored.id row components history → Computed .checkInfo row
          { fixed with status := currentInfoStatus now stored } := fun _ _ loaded =>
      .info loaded fixes
    rcases completes_fixInfoMissedStatuses fixes with ⟨added, rfl, _⟩
    refine givesFields_of_modifies commits rfl ?_
    rintro rfl current found _
    have same : some row = some current := ((undisturbed _ rfl rfl).1 row read).symm.trans found
    cases same
    rcases reading.assembled with ⟨second, third, _, _, _, loaded⟩
    refine ⟨?_, computed _ _ loaded⟩
    rw [given_of_modifies rfl, fields_restated (by rw [loaded]) (currentInfoStatus_known now stored)]
    exact Fields.ext rfl Option.none_or.symm rfl rfl rfl rfl
  | extractSave extracts => cases extracts <;> exact revises.elim
  | extract extracts =>
    cases extracts <;> exact revises.elim
  | _ => exact revises.elim

end Revision

theorem givesFields_of_quiet {activity : Activity} {id : Nat} {event : DbEvent}
    (quiet : ¬ Commits event) (same : SameEvents event.before event.after) :
    GivesFields activity id event := by
  intro row found _
  refine ⟨⟨row, by rw [same.incidents]; exact found, ?_⟩, ?_⟩
  · rw [given_of_quiet quiet, Given.onto_nothing]
  · intro copy member
    rw [fromCommit_of_quiet quiet] at member
    cases member

section Pool

variable {ι : Type} [DecidableEq ι] {deployment : Deployment} {activities : ι → Activity}
  {store final : Store} {trace : List (ι × DbEvent)} {id : Nat} {row : IncidentRow}

theorem pool_givesFields (pool : Pool deployment activities store trace final)
    (revises : ∀ party, Revises (activities party))
    (undisturbed : Along (Undisturbed activities id) trace) :
    ∀ entry ∈ trace, GivesFields (activities entry.1) id entry.2 := by
  have along := pool_along pool
    (fun seen party event =>
      Undisturbed activities id seen (party, event) → GivesFields (activities party) id event)
    (fun seen party => unaffected_of_quiet fun event quiet same _ =>
      givesFields_of_quiet quiet same)
    (fun seen party _ statement choice value current next issued commits _ held =>
      issued_givesFields (revises party) issued commits held)
  rw [along_iff] at along undisturbed
  intro entry member
  rcases List.append_of_mem member with ⟨earlier, later, split⟩
  apply along earlier entry later split
  intro copy modifies own
  rw [rowsRead_append_of_modifies modifies]
  exact undisturbed earlier entry later split copy modifies own

/-- A stored event that is no maintenance is there for the whole run. -/
theorem pool_keepsType (pool : Pool deployment activities store trace final)
    (found : store.incidents.get? id = some row) (type : row.type ≠ .maintenance) :
    ∀ entry ∈ trace, ∃ current, entry.2.before.incidents.get? id = some current ∧
      current.type ≠ .maintenance := by
  have evolves := pool_guarantees pool (fun _ => Or.inr rfl) evolution (fun _ _ => True) (fun _ _ => True)
    (fun _ => ⟨fun _ _ _ _ => trivial, fun _ _ _ => trivial, fun _ _ _ => trivial⟩)
    (fun _ _ _ _ _ _ _ _ _ grown _ _ => ⟨grown, trivial⟩) trivial (fun _ _ => trivial)
  intro entry member
  rcases (evolves.1 entry member).2.2.rows id row found with ⟨current, present, same, _⟩
  exact ⟨current, present, same ▸ type⟩

/-- PATCHes and checker rounds that run at the same time leave an incident or an
informational event with the fields given last, provided each of them finds the
row it has read when it writes.  What a checker gives it has then computed from
the row it replaces. -/
theorem pool_lastGiven (pool : Pool deployment activities store trace final)
    (revises : ∀ party, Revises (activities party))
    (found : store.incidents.get? id = some row) (type : row.type ≠ .maintenance)
    (undisturbed : Along (Undisturbed activities id) trace) :
    (∃ last, final.incidents.get? id = some last ∧
      fields last = trace.foldl
        (fun current entry => (given (activities entry.1) entry.2 id).onto current) (fields row)) ∧
    ∀ entry ∈ trace, ∀ copy ∈ fromCommit EventWrite.modifies entry.2, copy.id = id →
      ∃ current, entry.2.before.incidents.get? id = some current ∧
        Computed (activities entry.1) current copy := by
  have gives := pool_givesFields pool revises undisturbed
  have present := pool_keepsType pool found type
  refine ⟨?_, ?_⟩
  · have advances : ∀ entry ∈ trace, (entry.2.after.incidents.get? id).map fields =
        ((entry.2.before.incidents.get? id).map fields).map
          (given (activities entry.1) entry.2 id).onto := by
      intro entry member
      rcases present entry member with ⟨current, stored, other⟩
      rcases (gives entry member current stored other).1 with ⟨after, left, equal⟩
      rw [stored, left]
      exact congrArg some equal
    have tracked := pool.chained.tracks (fun current => (current.incidents.get? id).map fields)
      (fun current entry => current.map (given (activities entry.1) entry.2 id).onto) advances
    have folded : trace.foldl (fun current entry =>
        current.map (given (activities entry.1) entry.2 id).onto) (some (fields row)) =
        some (trace.foldl (fun current entry =>
          (given (activities entry.1) entry.2 id).onto current) (fields row)) :=
      List.foldl_hom some (fun _ _ => rfl)
    rw [found, Option.map_some, folded] at tracked
    rcases Option.map_eq_some_iff.mp tracked with ⟨last, stored, equal⟩
    exact ⟨last, stored, equal⟩
  · intro entry member copy modifies own
    rcases present entry member with ⟨current, stored, other⟩
    exact ⟨current, stored, (gives entry member current stored other).2 copy modifies own⟩

end Pool

/-! ### A field that returns -/

/-- An open incident. -/
def reportedStore : Store :=
  (replay quietDeployment [(.post .events anAdmin (incidentReport false [1] 1), atTime 10)]
    (bareStore 1)).2

def incidentRun (turns : List (Nat × Choice)) : List (Nat × DbEvent) × Store :=
  schedule database
    (fun party => (twoEditors .analysing none none party).program quietDeployment)
    turns reportedStore

/-- The second party's title is gone once the first one has written. -/
theorem pool_lastGiven_fails :
    ¬ ∀ (trace : List (Nat × DbEvent)) (final : Store),
      Pool quietDeployment (twoEditors .analysing none none) reportedStore trace final →
      ∀ row ∈ reportedStore.incidents.get? 1, ∀ last ∈ final.incidents.get? 1,
        fields last = trace.foldl (fun current entry =>
          (given (twoEditors .analysing none none entry.1) entry.2 1).onto current)
          (fields row) := by
  intro given
  have pool : Pool quietDeployment (twoEditors .analysing none none) reportedStore
      (incidentRun overlap).1 (incidentRun overlap).2 := schedule_interleaving database _ _ _
  have reverted : ¬ ∀ row ∈ reportedStore.incidents.get? 1,
      ∀ last ∈ (incidentRun overlap).2.incidents.get? 1,
        fields last = (incidentRun overlap).1.foldl (fun current entry =>
          (Properties.given (twoEditors .analysing none none entry.1) entry.2 1).onto current)
          (fields row) := by
    decide +kernel
  exact reverted (given _ _ pool)

/-- One party after the other. -/
def eachInTurn : List (Nat × Choice) :=
  List.replicate 20 (0, atTime 30) ++ List.replicate 20 (1, atTime 31)

theorem pool_lastGiven_inTurn :
    ∃ row last, reportedStore.incidents.get? 1 = some row ∧
      (incidentRun eachInTurn).2.incidents.get? 1 = some last ∧
      fields last = (incidentRun eachInTurn).1.foldl (fun current entry =>
        (given (twoEditors .analysing none none entry.1) entry.2 1).onto current) (fields row) := by
  have pool : Pool quietDeployment (twoEditors .analysing none none) reportedStore
      (incidentRun eachInTurn).1 (incidentRun eachInTurn).2 := schedule_interleaving database _ _ _
  have revises : ∀ party, Revises (twoEditors .analysing none none party) := by
    intro party
    cases party <;> exact trivial
  have stored : ∃ row ∈ reportedStore.incidents.get? 1, row.type ≠ .maintenance := by
    decide +kernel
  have undisturbed : Along (Undisturbed (twoEditors .analysing none none) 1)
      (incidentRun eachInTurn).1 := by decide +kernel
  rcases stored with ⟨row, found, type⟩
  rcases (pool_lastGiven pool revises found type undisturbed).1 with ⟨last, present, equal⟩
  exact ⟨row, last, found, present, equal⟩

end StatusDashboard.Properties
