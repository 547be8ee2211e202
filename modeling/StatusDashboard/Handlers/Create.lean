import StatusDashboard.Handlers.Request

namespace StatusDashboard.Handlers

open Event Storage Notification Process

/-!
# Creating events

`POST /v2/events`.  A regular creation stores a new event and moves the named
components out of the incidents that were active when the request started.  A
system creation handles one component at a time: it skips it, adds it to an
active system incident, moves it to one with a higher impact, raises the impact
of its incident or extracts it into a new one.
-/

structure EventUpdateData where
  status : Status
  text : String
  timestamp : Time
deriving DecidableEq, Repr

structure IncidentData where
  title : String
  description : String
  impact : Int
  components : List Nat
  startDate : Time
  startDateIsUTC : Bool := true
  endDate : Option Time
  system : Option Bool
  type : EventType
  updates : List EventUpdateData
  contactEmail : String
  status : Status
deriving DecidableEq, Repr

/-- The binding tags of the creation body. -/
def IncidentData.bound (data : IncidentData) : Bool :=
  data.title ≠ "" && 0 ≤ data.impact && data.impact ≤ 3 &&
    !(data.startDate = zeroTime && data.startDateIsUTC)

def maxDescriptionLength : Nat := 1500

/-! ## Validation -/

def validateEventDescription (data : IncidentData) : Handler Unit :=
  if maxDescriptionLength < data.description.length then
    .fail (.badRequest .descriptionTooLong)
  else pure ()

def validateEventCreationImpact (data : IncidentData) : Handler Unit :=
  if (data.type = .maintenance ∨ data.type = .information) ∧ data.impact ≠ 0 then
    .fail (.badRequest .typeImpactMismatch)
  else if data.type = .incident ∧ data.impact = 0 then
    .fail (.badRequest .typeImpactMismatch)
  else pure ()

def validateEventCreationTimes (data : IncidentData) : Handler Unit :=
  match data.type, data.endDate with
  | .incident, some _ => .fail (.badRequest .endDateShouldBeEmpty)
  | .incident, none => do
      let time ← internalOnError currentTime
      if time < data.startDate then .fail (.badRequest .startDateInFuture) else pure ()
  | .maintenance, none => .fail (.badRequest .maintenanceEndDateEmpty)
  | _, _ => pure ()

def validateEventCreation (data : IncidentData) : Handler Unit := do
  validateEventDescription data
  validateEventCreationImpact data
  validateEventCreationTimes data
  if data.updates = [] then pure () else .fail (.badRequest .updatesShouldBeEmpty)

def validateMaintenanceCreation (deployment : Deployment) (data : IncidentData) : Handler Unit :=
  if data.contactEmail ≠ "" ∧ deployment.parseAddress data.contactEmail = false then
    .fail (.badRequest .contactEmailInvalid)
  else if data.endDate.any (fun date => date ≤ data.startDate) then
    .fail (.badRequest .endDateBeforeStart)
  else if data.description = "" then
    .fail (.badRequest .maintenanceDescriptionRequired)
  else pure ()

/-- A supplied address wins and is checked; otherwise the token's one is used. -/
def resolveContactEmail (deployment : Deployment) (caller : Caller) (data : IncidentData) :
    Handler IncidentData :=
  if data.contactEmail = "" then
    pure { data with contactEmail := caller.email.getD "" }
  else if Publisher.allowsDomain deployment.publisher data.contactEmail then
    pure data
  else .fail (.badRequest (.contactEmailDomain
    (Publisher.allowedDomainList deployment.publisher)))

def resolveMaintenanceCreateStatus (role : Role) : Handler Status :=
  if role.canApprove then pure .planned
  else if role.canCreate then pure .pendingReview
  else .fail (.forbidden .insufficientRole)

def isSystemIncident (data : IncidentData) : Bool :=
  data.type == .incident && data.system == some true

def prepareIncidentCreate (deployment : Deployment) (caller : Caller) (data : IncidentData) :
    Handler IncidentData := do
  validateEventCreation data
  if caller.role.isReporter && !isSystemIncident data then
    .fail (.forbidden .insufficientRole)
  else if data.type = .maintenance then
    validateMaintenanceCreation deployment data
    let addressed ← resolveContactEmail deployment caller data
    let status ← resolveMaintenanceCreateStatus caller.role
    pure { addressed with status := status }
  else pure data

/-! ## Regular creation -/

/-- The event a regular creation stores. -/
def regularIncident (data : IncidentData) (userID : Option String) : Incident where
  text := some data.title
  description := some data.description
  startDate := some data.startDate
  endDate := data.endDate
  impact := some data.impact
  status := data.status
  system := data.system.getD false
  type := data.type
  components := data.components.map (fun id => { id := id, name := "", attrs := [] })
  createdBy := userID
  contactEmail := if data.contactEmail = "" then none else some data.contactEmail

def createEvent (publisher : Option Publisher) (incident : Incident) (userID : Option String) :
    DbProgram Incident :=
  write (.createEvent publisher incident userID)

def shouldSkipComponentMovement (opened : List Incident) (data : IncidentData) : Bool :=
  opened.isEmpty || data.impact == 0 || data.type == .information

def createSimpleIncidentResult (incident : Incident) : List ProcessComponentResp :=
  incident.components.map (fun component =>
    { componentId := component.id, incidentId := incident.id, error := none })

def shouldSkipIncident (incident : Incident) : Bool :=
  incident.type == .information || incident.type == .maintenance

/-- Move a component out of the first active incident that holds it.  Returns
the new incident and the active ones as they are afterwards. -/
def processComponentInOpenedIncidents (component : Component) (incIn : Incident) :
    List Incident → DbProgram (Incident × List Incident)
  | [] => pure (incIn, [])
  | opened :: others => do
      if shouldSkipIncident opened || !opened.componentIds.contains component.id then
        let result ← processComponentInOpenedIncidents component incIn others
        pure (result.1, opened :: result.2)
      else
        let moved ← moveComponentFromOldToAnotherIncident component opened incIn
          (opened.components.length == 1)
        pure (moved.2, moved.1 :: others)

def processComponentMovement : List Component → Incident → List Incident →
    DbProgram (List ProcessComponentResp)
  | [], _, _ => pure []
  | component :: components, incIn, opened => do
      let result ← processComponentInOpenedIncidents component incIn opened
      let others ← processComponentMovement components result.1 result.2
      pure ({ componentId := component.id, incidentId := result.1.id, error := none } :: others)

def activeParams : IncidentsParams := { isActive := some true }

def handleRegularIncidentCreation (deployment : Deployment) (data : IncidentData)
    (userID : Option String) : DbProgram (List ProcessComponentResp) := do
  let opened ← getEventsInternal activeParams
  let incident ← createEvent deployment.publisher (regularIncident data userID) userID
  if shouldSkipComponentMovement opened data then
    pure (createSimpleIncidentResult incident)
  else
    processComponentMovement incident.components incident opened

/-! ## System creation -/

def fetchComponents : List Nat → DbProgram (List Component)
  | [] => pure []
  | id :: ids => do
      let component ← getComponent id
      let others ← fetchComponents ids
      pure (component :: others)

/-- The active system incidents. -/
def systemParams : IncidentsParams :=
  { types := some [.incident], isSystem := some true, isActive := some true }

/-- The active events of a component that matter to a system creation. -/
def componentParams : IncidentsParams :=
  { types := some [.incident, .maintenance], isActive := some true }

def getActiveEventsForComponent (componentID : Nat) : DbProgram (List Incident) :=
  getEventsByComponentID componentID componentParams

/-- The first active system incident with the requested impact. -/
def findSystemIncident (impact : Int) (incidents : List Incident) : Option Incident :=
  incidents.find? (fun incident => incident.impact == some impact)

def addedText (component : Component) : String :=
  component.printAttrs ++ " added to the incident by system."

/-- The incident a system creation stores for one component. -/
def systemIncident (data : IncidentData) (component : Component) : Incident where
  text := some data.title
  description := some data.description
  startDate := some data.startDate
  endDate := data.endDate
  impact := some data.impact
  system := data.system.getD false
  type := data.type
  components := [component]

def addComponentToSystemIncident (component : Component) (data : IncidentData) :
    DbProgram Incident := do
  let incidents ← getEventsInternal systemParams
  match findSystemIncident data.impact incidents with
  | some incident =>
    let time ← currentTime
    addComponentToIncident incident component {
      incidentId := incident.id
      status := incident.status
      text := addedText component
      timestamp := time }
  | none => createEvent none (systemIncident data component) none

/-- The system path of an extraction: the new incident is marked afterwards. -/
def extractToSystemIncident (components : List Component) (oldInc : Incident) (impact : Int)
    (text : String) (description : Option String) : DbProgram Incident := do
  let incident ← extractComponentsToNewIncident components oldInc impact text description
  write (.modifyIncident { incident with system := true })

def moveComponentFromToSystemIncidents (component : Component) (data : IncidentData)
    (oldInc : Incident) : DbProgram Incident := do
  let incidents ← getEventsInternal systemParams
  match findSystemIncident data.impact incidents with
  | some incident =>
    let moved ← moveComponentFromOldToAnotherIncident component oldInc incident
      (incident.components.length == 1)
    pure moved.2
  | none =>
    if oldInc.components.length = 1 then
      increaseIncidentImpact oldInc data.impact
    else
      extractToSystemIncident [component] oldInc data.impact data.title (some data.description)

/-- What the active events of a component decide.  A maintenance or a regular
incident ends the scan; otherwise the first system incident counts. -/
inductive EventScan where
  | maintenance (event : Incident)
  | regular (event : Incident)
  | system (event : Incident)
  | nothing
deriving DecidableEq, Repr

def scanEvents (firstSystem : Option Incident) : List Incident → EventScan
  | [] =>
    match firstSystem with
    | some event => .system event
    | none => .nothing
  | event :: events =>
    if event.type = .maintenance then .maintenance event
    else if event.system = false then .regular event
    else scanEvents (firstSystem.or (some event)) events

def handleSystemIncidentWithImpactComparison (component : Component) (data : IncidentData)
    (event : Incident) : DbProgram ProcessComponentResp := do
  if data.impact ≤ event.impact.getD 0 then
    pure { componentId := component.id, incidentId := event.id, error := none }
  else
    let incident ← moveComponentFromToSystemIncidents component data event
    pure { componentId := component.id, incidentId := incident.id, error := none }

def handleComponentWithExistingEvents (component : Component) (data : IncidentData)
    (events : List Incident) : DbProgram ProcessComponentResp :=
  match scanEvents none events with
  | .maintenance event =>
    pure { componentId := component.id, incidentId := event.id,
           error := some creationMaintenanceExists }
  | .regular event =>
    pure { componentId := component.id, incidentId := event.id, error := none }
  | .system event => handleSystemIncidentWithImpactComparison component data event
  | .nothing => .fail .driver

def handleComponentWithNoEvents (component : Component) (data : IncidentData) :
    DbProgram ProcessComponentResp := do
  let incident ← addComponentToSystemIncident component data
  pure { componentId := component.id, incidentId := incident.id, error := none }

def processSystemIncidentComponent (data : IncidentData) (component : Component) :
    DbProgram ProcessComponentResp := do
  let events ← getActiveEventsForComponent component.id
  if events.isEmpty then handleComponentWithNoEvents component data
  else handleComponentWithExistingEvents component data events

def processSystemIncidentComponents (data : IncidentData) :
    List Component → DbProgram (List ProcessComponentResp)
  | [] => pure []
  | component :: components => do
      let result ← processSystemIncidentComponent data component
      let others ← processSystemIncidentComponents data components
      pure (result :: others)

def defaultSystemDescription : String :=
  "System-wide incident affecting multiple components. Created automatically."

def withDefaultDescription (data : IncidentData) : IncidentData :=
  if data.description = "" then { data with description := defaultSystemDescription } else data

def handleSystemIncidentCreation (data : IncidentData) : DbProgram (List ProcessComponentResp) := do
  let components ← fetchComponents data.components
  processSystemIncidentComponents (withDefaultDescription data) components

/-! ## The handler -/

def routeIncidentCreation (deployment : Deployment) (caller : Caller) (data : IncidentData) :
    Handler (List ProcessComponentResp) :=
  if data.system = some true then
    if data.type ≠ .incident then .fail (.badRequest .systemCreationWrongType)
    else internalOnError (handleSystemIncidentCreation data)
  else internalOnError (handleRegularIncidentCreation deployment data caller.userID)

def postIncidentHandler (deployment : Deployment) (caller : Caller) (data : IncidentData) :
    Handler Response := do
  if data.bound = false then
    .fail (.badRequest .invalidBody)
  else
    let prepared ← prepareIncidentCreate deployment caller data
    let result ← routeIncidentCreation deployment caller prepared
    pure (.created result (result.any (fun entry => entry.error == some creationMaintenanceExists)))

/-- The route of the deprecated path refuses reporters. -/
inductive CreationRoute where
  | events
  | incidents
deriving DecidableEq, Repr

def CreationRoute.middleware (route : CreationRoute) (caller : Caller) : Handler Unit :=
  match route with
  | .events => pure ()
  | .incidents => denyReporterScope caller

def postEvent (deployment : Deployment) (route : CreationRoute) (caller : Caller)
    (data : IncidentData) : Handler Response := do
  rbacAuthorization caller
  route.middleware caller
  validateComponents data.components
  postIncidentHandler deployment caller data

end StatusDashboard.Handlers
