import StatusDashboard.Storage.Query

namespace StatusDashboard.Storage

open Event Tables

/-!
# Write statements

The statements of the database layer that change the event tables, written as
steps inside one transaction.  A transaction that reaches an error has no
effect, so a step either returns the new store or an error.

`now` is the clock reading the transaction stamps its rows with.
-/

abbrev Tx (α : Type) := StateT Store (Except DbError) α

namespace Tx

def fail {α : Type} (error : DbError) : Tx α := fun _ => .error error

/-- A transaction of two parts commits exactly when both do. -/
theorem bind_ok {α β : Type} {first : Tx α} {second : α → Tx β} {store final : Store} {value : β} :
    (first >>= second) store = .ok (value, final) ↔
      ∃ middle between, first store = .ok (middle, between) ∧
        second middle between = .ok (value, final) := by
  change (first store >>= fun pair => second pair.1 pair.2) = _ ↔ _
  cases first store with
  | error =>
    constructor
    · intro equal
      cases equal
    · rintro ⟨_, _, equal, _⟩
      cases equal
  | ok pair =>
    constructor
    · intro equal
      exact ⟨pair.1, pair.2, rfl, equal⟩
    · rintro ⟨middle, between, equal, rest⟩
      cases equal
      exact rest

@[simp] theorem pure_ok {α : Type} {value found : α} {store final : Store} :
    (pure value : Tx α) store = .ok (found, final) ↔ value = found ∧ store = final := by
  change Except.ok (value, store) = .ok (found, final) ↔ _
  simp

end Tx

/-! ## Columns -/

def fitsSmallint (value : Int) : Bool :=
  -32768 ≤ value && value ≤ 32767

def fitsInteger (value : Int) : Bool :=
  -2147483648 ≤ value && value ≤ 2147483647

def fitsVarchar (limit : Nat) (value : Option String) : Bool :=
  value.all (fun text => text.length ≤ limit)

/-- The values the columns of the incident table and its validators accept. -/
def IncidentRow.storable (row : IncidentRow) : Bool :=
  row.text ≠ "" && fitsVarchar 1500 row.description && fitsSmallint row.impact &&
    fitsVarchar 50 (row.status.map Status.text) && fitsVarchar 255 row.createdBy &&
    fitsVarchar 255 row.contactEmail && fitsInteger row.version

def StatusRow.storable (row : StatusRow) : Bool :=
  row.text ≠ "" && row.status.text ≠ "" && fitsVarchar 255 row.createdBy &&
    fitsVarchar 255 row.modifiedBy

/-! ## Single statements -/

/-- Rewrite the row with an id; it is an error if there is none. -/
def updateOneID (id : Nat) (rewrite : IncidentRow → IncidentRow) : Tx Unit := fun store =>
  match store.incidents.get? id with
  | none => .error .notFound
  | some row =>
    if (rewrite row).storable then
      .ok ((), store.updateIncident id rewrite)
    else .error .constraint

/-- An edge can only be changed on an incident that exists. -/
def requireIncident (id : Nat) : Tx Unit := fun store =>
  if (store.incidents.get? id).isSome then .ok ((), store) else .error .notFound

/-- Rewrite the row with an id if it meets a condition, and tell whether one did. -/
def updateWhere (id : Nat) (condition : IncidentRow → Bool)
    (rewrite : IncidentRow → IncidentRow) : Tx Bool := fun store =>
  match (store.incidents.get? id).filter condition with
  | none => .ok (false, store)
  | some row =>
    if (rewrite row).storable then
      .ok (true, store.updateIncident id rewrite)
    else .error .constraint

/-- Add join rows to an incident; an existing one stays, an unknown component
is rejected. -/
def addComponentIDs (id : Nat) (others : List Nat) : Tx Unit := fun store =>
  if present : (store.incidents.get? id).isSome then
    if exist : ∀ other ∈ others, (store.components.get? other).isSome then
      .ok ((), store.link id others present exist)
    else .error .constraint
  else .error .notFound

def removeComponentIDs (id : Nat) (others : List Nat) : Tx Unit := fun store =>
  .ok ((), store.unlink id others)

/-- The row an update is inserted as. -/
def statusRow (now : Time) (fallbackIncidentID : Nat) (status : IncidentStatus) : StatusRow where
  incidentId := if status.incidentId = 0 then fallbackIncidentID else status.incidentId
  status := status.status
  text := status.text
  timestamp := status.timestamp
  createdAt := some (status.createdAt.getD now)
  modifiedAt := some (status.modifiedAt.getD now)
  deletedAt := none
  createdBy := status.createdBy
  modifiedBy := status.modifiedBy

def insertIncidentStatus (now : Time) (status : IncidentStatus) (fallbackIncidentID : Nat) :
    Tx IncidentStatus := fun store =>
  let row := statusRow now fallbackIncidentID status
  if row.storable then
    .ok ({ status with
      id := store.statuses.nextId
      createdAt := row.createdAt
      modifiedAt := row.modifiedAt }, store.insertStatus row)
  else .error .constraint

/-- Insert the updates of a copy that have no id yet. -/
def insertNewIncidentStatuses (now : Time) (id : Nat) :
    List IncidentStatus → Tx (List IncidentStatus)
  | [] => pure []
  | status :: statuses => do
      if status.id = 0 then
        let inserted ← insertIncidentStatus now status id
        let others ← insertNewIncidentStatuses now id statuses
        pure ({ inserted with incidentId := id } :: others)
      else
        let others ← insertNewIncidentStatuses now id statuses
        pure (status :: others)

/-! ## Creating and modifying an event -/

def newIncidentRow (now : Time) (incident : Incident) : IncidentRow where
  text := incident.text.getD ""
  description := incident.description
  startDate := incident.startDate.getD now
  endDate := incident.endDate
  impact := incident.impact.getD 0
  system := incident.system
  type := incident.type
  status := if incident.status = .unset then none else some incident.status
  createdAt := some (incident.createdAt.getD now)
  modifiedAt := some (incident.modifiedAt.getD now)
  deletedAt := none
  createdBy := incident.createdBy
  contactEmail := incident.contactEmail
  version := incident.version.getD 1

/-- The ids of a copy's components that name one. -/
def Incident.wantedIds (incident : Incident) : List Nat :=
  incident.componentIds.filter (fun id => id ≠ 0)

def insertIncident (row : IncidentRow) : Tx Nat := fun store =>
  if row.storable then
    .ok (store.incidents.nextId, store.insertIncident row)
  else .error .constraint

def saveIncidentTx (now : Time) (incident : Incident) : Tx Incident := do
  if incident.text.getD "" = "" then
    Tx.fail .incidentTextRequired
  else
    let row := newIncidentRow now incident
    let id ← insertIncident row
    addComponentIDs id incident.wantedIds
    let statuses ← insertNewIncidentStatuses now id incident.statuses
    pure { incident with
      id := id
      version := some row.version
      createdAt := row.createdAt
      modifiedAt := row.modifiedAt
      statuses := statuses }

/-- Set the fields a copy has; missing and empty ones leave the column alone. -/
def applyIncidentPatch (incident : Incident) (row : IncidentRow) : IncidentRow :=
  { row with
    text := incident.text.getD row.text
    description := incident.description.or row.description
    startDate := incident.startDate.getD row.startDate
    endDate := incident.endDate.or row.endDate
    impact := incident.impact.getD row.impact
    status := if incident.status = .unset then row.status else some incident.status
    system := incident.system || row.system
    type := incident.type
    createdAt := incident.createdAt.or row.createdAt
    createdBy := incident.createdBy.or row.createdBy
    contactEmail := incident.contactEmail.or row.contactEmail }

def modifiedRow (now : Time) (incident : Incident) (newVersion : Int) (row : IncidentRow) :
    IncidentRow :=
  { applyIncidentPatch incident row with version := newVersion, modifiedAt := some now }

/-- The rows a modification may hit: the expected version guards maintenances only. -/
def modifyGuard (incident : Incident) (expectedVersion : Int) (row : IncidentRow) : Bool :=
  incident.type ≠ .maintenance || row.version = expectedVersion

/-- The numbers sent with a modification fit their columns. -/
def modifyParams (incident : Incident) (expectedVersion : Int) : Bool :=
  incident.impact.all fitsSmallint && fitsInteger (expectedVersion + 1) &&
    (incident.type ≠ .maintenance || fitsInteger expectedVersion)

def modifyIncident (now : Time) (incident : Incident) : Tx Incident := do
  match incident.version with
  | none => Tx.fail .versionRequired
  | some expectedVersion =>
    if modifyParams incident expectedVersion then
      let affected ← updateWhere incident.id (modifyGuard incident expectedVersion)
        (modifiedRow now incident (expectedVersion + 1))
      if incident.type = .maintenance ∧ affected = false then
        Tx.fail .versionConflict
      else
        let statuses ← insertNewIncidentStatuses now incident.id incident.statuses
        pure { incident with version := some (expectedVersion + 1), statuses := statuses }
    else Tx.fail .driver

/-! ## Writing back a whole copy -/

def dropIncidentComponent (incident : Incident) (componentID : Nat) : Incident :=
  { incident with
    components := incident.components.filter (fun component => component.id ≠ componentID) }

/-- Every column from the copy; missing optional values clear their column. -/
def fullRow (now : Time) (incident : Incident) (row : IncidentRow) : IncidentRow :=
  { row with
    text := incident.text.getD ""
    description := incident.description
    startDate := incident.startDate.getD row.startDate
    endDate := incident.endDate
    impact := incident.impact.getD 0
    system := incident.system
    type := incident.type
    status := some incident.status
    createdAt := some (incident.createdAt.getD now)
    modifiedAt := some now
    deletedAt := incident.deletedAt
    createdBy := incident.createdBy
    contactEmail := incident.contactEmail
    version := incident.version.getD 1 }

/-- Make the stored links of an incident match the copy's components exactly. -/
def reconcileIncidentComponents (incident : Incident) : Tx Unit := do
  let store ← get
  let current := store.componentIds incident.id
  let extra := current.filter (fun id => id ∉ incident.wantedIds)
  let missing := incident.wantedIds.filter (fun id => id ∉ current)
  removeComponentIDs incident.id extra
  addComponentIDs incident.id missing

def saveIncidentFull (now : Time) (incident : Incident) : Tx Incident := do
  if incident.text.getD "" = "" then
    Tx.fail .incidentTextRequired
  else if incident.startDate.isNone then
    Tx.fail .incidentStartDateRequired
  else
    updateOneID incident.id (fullRow now incident)
    reconcileIncidentComponents incident
    let statuses ← insertNewIncidentStatuses now incident.id incident.statuses
    pure { incident with
      createdAt := some (incident.createdAt.getD now)
      modifiedAt := some now
      statuses := statuses }

/-- Delete one join row of an existing incident. -/
def removeIncidentComponent (incidentID componentID : Nat) : Tx Unit := do
  requireIncident incidentID
  removeComponentIDs incidentID [componentID]

def removeIncidentComponents (incidentID : Nat) : List Nat → Tx Unit
  | [] => pure ()
  | componentID :: others => do
      if componentID = 0 then
        removeIncidentComponents incidentID others
      else
        removeIncidentComponent incidentID componentID
        removeIncidentComponents incidentID others

/-- Drop the listed components from a copy, one after another. -/
def dropIncidentComponents (incident : Incident) (componentIDs : List Nat) : Incident :=
  componentIDs.foldl (fun held id => if id = 0 then held else dropIncidentComponent held id) incident

/-! ## The transactions on existing incidents -/

def addComponentTx (now : Time) (incident : Incident) (component : Component)
    (status : IncidentStatus) : Tx Incident := do
  match incident.version with
  | none => Tx.fail .versionRequired
  | some expectedVersion =>
    if fitsInteger expectedVersion && fitsInteger (expectedVersion + 1) then
      let affected ← updateWhere incident.id (fun row => row.version = expectedVersion)
        (fun row => { row with version := expectedVersion + 1 })
      if affected = false then
        Tx.fail .versionConflict
      else if component.id = 0 then
        let _ ← insertIncidentStatus now status incident.id
        pure { incident with version := some (expectedVersion + 1) }
      else
        addComponentIDs incident.id [component.id]
        let _ ← insertIncidentStatus now status incident.id
        pure { incident with
          version := some (expectedVersion + 1)
          components := incident.components ++ [component] }
    else Tx.fail .driver

def moveComponentTx (now : Time) (component : Component) (incOld incNew : Incident)
    (closeOld : Bool) : Tx (Incident × Incident) := do
  if closeOld = false ∧ component.id ≠ 0 then
    removeIncidentComponent incOld.id component.id
    let savedNew ← saveIncidentFull now incNew
    let savedOld ← saveIncidentFull now (dropIncidentComponent incOld component.id)
    pure (savedOld, savedNew)
  else
    let savedNew ← saveIncidentFull now incNew
    let savedOld ← saveIncidentFull now incOld
    pure (savedOld, savedNew)

def extractComponentsTx (now : Time) (components : List Component) (incident incOld : Incident) :
    Tx (Incident × Incident) := do
  removeIncidentComponents incOld.id (components.map Component.id)
  let saved ← saveIncidentFull now incident
  let savedOld ← saveIncidentFull now
    (dropIncidentComponents incOld (components.map Component.id))
  pure (savedOld, saved)

/-- The columns raised together with the impact: those the copy has. -/
def raisedRow (timeNow : Time) (incident : Incident) (row : IncidentRow) : IncidentRow :=
  { row with
    text := if incident.text.getD "" = "" then row.text else incident.text.getD ""
    description := incident.description.or row.description
    startDate := incident.startDate.getD row.startDate
    endDate := incident.endDate.or row.endDate
    impact := incident.impact.getD row.impact
    status := if incident.status = .unset then row.status else some incident.status
    system := incident.system || row.system
    type := incident.type
    createdAt := incident.createdAt.or row.createdAt
    modifiedAt := some timeNow
    createdBy := incident.createdBy.or row.createdBy
    contactEmail := incident.contactEmail.or row.contactEmail
    version := incident.version.getD row.version }

def increaseImpactTx (timeNow : Time) (incident : Incident) (status : IncidentStatus) : Tx Unit := do
  updateOneID incident.id (raisedRow timeNow incident)
  let _ ← insertIncidentStatus timeNow status incident.id
  pure ()

/-- Clear the end date.  A missing incident is not an error. -/
def reOpenIncidentTx (id : Nat) : Tx Unit := do
  let _ ← updateWhere id (fun _ => true) (fun row => { row with endDate := none })
  pure ()

/-- Change the text of one update row of an event. -/
def modifyEventUpdateTx (now : Time) (update : IncidentStatus) : Tx IncidentStatus := fun store =>
  if update.text = "" then .error .constraint
  else
    match (store.statuses.get? update.id).filter (fun row => row.incidentId = update.incidentId) with
    | none => .error .eventUpdateDSNotExist
    | some row =>
      let modified := { row with text := update.text, modifiedAt := some now }
      .ok (incidentStatusFromEnt update.id modified,
        { store with statuses := store.statuses.update update.id (fun _ => modified) })

end StatusDashboard.Storage
