import StatusDashboard.Handlers.Create

namespace StatusDashboard.Handlers

open Event Storage Notification Process

/-!
# Changing events

`PATCH /v2/events/:id`, `POST /v2/events/:id/extract` and
`PATCH /v2/events/:id/updates/:index`.  The event is loaded by a middleware
before the handler looks at the body; the handler edits that copy and writes
it back.
-/

structure PatchIncidentData where
  title : Option String
  description : Option String
  impact : Option Int
  message : String
  status : Status
  updateDate : Time
  updateDateIsUTC : Bool := true
  startDate : Option Time
  endDate : Option Time
  type : Option EventType
  version : Option Int
deriving DecidableEq, Repr

/-- A required date is missing if it is the zero time spelled in UTC; with an offset
the binding lets the zero time pass. -/
def PatchIncidentData.bound (data : PatchIncidentData) : Bool :=
  data.message ≠ "" && data.status ≠ .unset &&
    !(data.updateDate = zeroTime && data.updateDateIsUTC)

/-! ## Validation -/

def validateEffectiveTypeAndImpact (effectiveType : EventType) (effectiveImpact : Int) :
    Option Reason :=
  if (effectiveType = .maintenance ∨ effectiveType = .information) ∧ effectiveImpact ≠ 0 then
    some .typeImpactMismatch
  else if effectiveType = .incident ∧ effectiveImpact = 0 then
    some .typeImpactMismatch
  else none

def validateStatusesPatch (incoming : PatchIncidentData) (stored : Incident) : Option Reason :=
  match stored.type with
  | .information =>
    if isInformationStatus incoming.status then none else some .patchInfoStatus
  | .maintenance =>
    if isMaintenanceStatus incoming.status then none else some .patchMaintenanceStatus
  | .incident =>
    if isIncidentOpenStatus incoming.status || isIncidentClosedStatus incoming.status then none
    else some .patchIncidentStatus

def checkPatchDataForIncident (incoming : PatchIncidentData) (stored : Incident) :
    Option Reason :=
  if stored.endDate.isSome then
    if isIncidentClosedStatus incoming.status = false then some .patchClosedStatus
    else if (incoming.startDate.isSome || incoming.endDate.isSome) ∧ incoming.status ≠ .changed then
      some .patchClosedStatus
    else none
  else if incoming.impact.any (fun impact => impact ≠ stored.impact.getD 0) ∧
      incoming.status ≠ .impactChanged then
    some .patchImpactStatusWrong
  else if incoming.startDate.isSome then some .patchOpenedStartDate
  else none

def checkPatchData (incoming : PatchIncidentData) (stored : Incident) : Option Reason :=
  if incoming.description.any (fun text => maxDescriptionLength < text.length) then
    some .descriptionTooLong
  else if incoming.type.any (fun type => type ≠ stored.type) then
    some .patchTypeForbidden
  else
    ((validateEffectiveTypeAndImpact stored.type (incoming.impact.getD (stored.impact.getD 0))).or
      (validateStatusesPatch incoming stored)).or
      (if stored.type = .incident then checkPatchDataForIncident incoming stored else none)

def allowMaintenancePatchAsCreator (caller : Caller) (stored : Incident)
    (incoming : PatchIncidentData) : Option ApiError :=
  if caller.userID = none ∨ stored.createdBy = none ∨ caller.userID ≠ stored.createdBy then
    some (.forbidden .authForbidden)
  else if stored.status ≠ .pendingReview then
    some (.conflict .statusTransitionConflict)
  else if incoming.status = .pendingReview ∨ incoming.status = .cancelled then none
  else some (.conflict .statusTransitionConflict)

def allowMaintenancePatch (caller : Caller) (stored : Incident) (incoming : PatchIncidentData) :
    Option ApiError :=
  if caller.role.canApprove then none
  else if caller.role.canCreate then allowMaintenancePatchAsCreator caller stored incoming
  else some (.forbidden .authForbidden)

def prepareIncidentPatch (caller : Caller) (stored : Incident) (data : PatchIncidentData) :
    Option ApiError :=
  match checkPatchData data stored with
  | some reason => some (.badRequest reason)
  | none =>
    if stored.type = .maintenance then allowMaintenancePatch caller stored data else none

/-! ## The change -/

/-- The dates are taken over unless the incident is open. -/
def acceptsDates (stored : Incident) : Bool :=
  stored.impact == some 0 || stored.endDate.isSome

def patchedEndDate (income : PatchIncidentData) (stored : Incident) : Option Time :=
  if income.status = .reopened then none
  else if income.status = .resolved then some income.updateDate
  else if acceptsDates stored then income.endDate.or stored.endDate
  else stored.endDate

def updateFields (income : PatchIncidentData) (stored : Incident) : Incident :=
  { stored with
    startDate := if acceptsDates stored then income.startDate.or stored.startDate
      else stored.startDate
    endDate := patchedEndDate income stored
    text := income.title.or stored.text
    description := income.description.or stored.description
    impact := income.impact.or stored.impact
    status := income.status }

/-- The copy that is written back: edited fields, a new update row and the
version the client sent. -/
def patchedIncident (data : PatchIncidentData) (userID : Option String) (stored : Incident) :
    Incident :=
  { updateFields data stored with
    statuses := stored.statuses ++ [{
      incidentId := stored.id
      status := data.status
      text := data.message
      timestamp := data.updateDate
      createdBy := userID }]
    version := data.version.or stored.version }

def persistIncidentPatch (deployment : Deployment) (stored : Incident) (oldStatus : Status)
    (userID : Option String) : Handler Incident :=
  (write (.persistPatch deployment.publisher stored oldStatus userID)).mapError (fun error =>
    if error = .versionConflict then .conflict .versionConflict else .internal error)

def reopenIncident (stored : Incident) (status : Status) : Handler Unit :=
  if status = .reopened then internalOnError (write (.reOpenIncident stored.id)) else pure ()

def patchIncidentHandler (deployment : Deployment) (caller : Caller) (stored : Incident)
    (data : PatchIncidentData) : Handler Response := do
  if data.bound = false then
    .fail (.badRequest .invalidBody)
  else if stored.type = .maintenance ∧ data.version = none then
    .fail (.badRequest .versionRequired)
  else
    match prepareIncidentPatch caller stored data with
    | some error => .fail error
    | none =>
      let _ ← persistIncidentPatch deployment (patchedIncident data caller.userID stored)
        stored.status caller.userID
      reopenIncident stored data.status
      let incident ← internalOnError (getIncident stored.id)
      pure (.event incident)

def patchEvent (deployment : Deployment) (caller : Caller) (id : Nat) (data : PatchIncidentData) :
    Handler Response := do
  rbacAuthorization caller
  denyReporterScope caller
  let stored ← checkEventExistence id
  patchIncidentHandler deployment caller stored data

/-! ## Extracting components -/

/-- The stored components with the requested ids, in the order of the request. -/
def lookupComponents (stored : List Component) : List Nat → Except Reason (List Component)
  | [] => .ok []
  | id :: ids =>
    match stored.find? (fun component => component.id = id) with
    | none => .error (.componentNotInIncident id)
    | some component =>
      match lookupComponents stored ids with
      | .ok others => .ok (component :: others)
      | .error reason => .error reason

/-- All requested components belong to the incident and one at least stays. -/
def getComponentsToExtract (requestedIDs : List Nat) (stored : List Component) :
    Except Reason (List Component) :=
  match lookupComponents stored requestedIDs with
  | .error reason => .error reason
  | .ok moved =>
    if moved.length = stored.length then .error .extractAllComponents else .ok moved

def postIncidentExtractHandler (caller : Caller) (stored : Incident) (components : List Nat) :
    Handler Response := do
  if caller.role.canApprove = false then
    .fail (.forbidden .extractForbiddenRole)
  else if stored.type ≠ .incident then
    .fail (.forbidden .extractForbiddenType)
  else if components = [] ∨ ¬ components.Nodup then
    .fail (.badRequest .invalidBody)
  else
    match getComponentsToExtract components stored.components with
    | .error reason => .fail (.badRequest reason)
    | .ok moved =>
      let incident ← internalOnError (extractComponentsToNewIncident moved stored
        (stored.impact.getD 0) (stored.text.getD "") stored.description)
      pure (.event incident)

def extractEvent (caller : Caller) (id : Nat) (components : List Nat) : Handler Response := do
  rbacAuthorization caller
  denyReporterScope caller
  let stored ← checkEventExistence id
  validateComponents components
  postIncidentExtractHandler caller stored components

/-! ## Editing the text of an update -/

def patchEventUpdateText (caller : Caller) (id index : Nat) (text : String) :
    Handler Response := do
  rbacAuthorization caller
  denyReporterScope caller
  let _ ← checkEventExistence id
  if text = "" then
    .fail (.badRequest .invalidBody)
  else
    let updates ← internalOnError (getEventUpdates id)
    match updates[index]? with
    | none => .fail (.notFound .updateDSNotExist)
    | some target =>
      let updated ← internalOnError (write (.modifyEventUpdate
        { target with text := text, modifiedBy := caller.userID }))
      pure (.updateText index updated)

end StatusDashboard.Handlers
