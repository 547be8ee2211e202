import StatusDashboard.Storage.Operation

namespace StatusDashboard.Storage

open Event Tables Process

/-!
# The database layer

The functions the handlers and the checker call, as programs of statements and
transactions.  A copy of an event is assembled from several statements: its
row, the components linked to it and its update rows are read one after
another, so another transaction may commit in between.
-/

def currentTime : DbProgram Time := .call .now

def read {β : Type} (query : Query β) : DbProgram β := .callExcept (.read query)

def write {β : Type} (statement : EventWrite β) : DbProgram β := .callExcept (.write statement)

/-! ## Loading events -/

def incidentStatusChunkSize : Nat := 1000

/-- Consecutive pieces of a list; `fuel` bounds their number. -/
def chunked (size : Nat) : Nat → List Nat → List (List Nat)
  | 0, _ => []
  | _, [] => []
  | fuel + 1, ids => ids.take size :: chunked size fuel (ids.drop size)

def loadStatuses : List (List Nat) → DbProgram (List (Nat × StatusRow))
  | [] => pure []
  | chunk :: chunks => do
      let rows ← read (.statuses chunk)
      let others ← loadStatuses chunks
      pure (rows ++ others)

/-- The update rows of the given incidents, a bounded number of ids at a time. -/
def statusesByIncident (ids : List Nat) : DbProgram (List (Nat × StatusRow)) :=
  loadStatuses (chunked incidentStatusChunkSize ids.length ids)

/-- The eager load of the component edge; nothing is read for no rows. -/
def loadComponents (ids : List Nat) : DbProgram (List (Nat × Component)) :=
  if ids = [] then pure [] else read (.components ids)

def componentsOf (id : Nat) (loaded : List (Nat × Component)) : List Component :=
  loaded.filterMap (fun entry => if entry.1 = id then some entry.2 else none)

def statusesOf (id : Nat) (loaded : List (Nat × StatusRow)) : List IncidentStatus :=
  (loaded.filter (fun entry => entry.2.incidentId = id)).map
    (fun entry => incidentStatusFromEnt entry.1 entry.2)

/-- The copies of selected rows with what was loaded for them. -/
def attach (rows : List (Nat × IncidentRow)) (components : List (Nat × Component))
    (statuses : List (Nat × StatusRow)) : List Incident :=
  rows.map (fun entry => incidentFromEnt entry.1 entry.2 (componentsOf entry.1 components)
    (statusesOf entry.1 statuses))

/-- Load components and update rows for selected rows. -/
def loadEvents (rows : List (Nat × IncidentRow)) : DbProgram (List Incident) := do
  let components ← loadComponents (rows.map Prod.fst)
  let statuses ← statusesByIncident (rows.map Prod.fst)
  pure (attach rows components statuses)

/-- The clock is read only for the active filter. -/
def filterTime (params : IncidentsParams) : DbProgram Time :=
  if params.isActive = some true then currentTime else pure zeroTime

def getEventsWithCount (isAuth : Bool) (params : IncidentsParams) :
    DbProgram (List Incident × Nat) := do
  if params.isActive = some false then
    .fail .incidentFilterActiveFalse
  else
    let time ← filterTime params
    let total ← read (.countEvents params isAuth time)
    let rows ← read (.events params isAuth time)
    let events ← loadEvents rows
    pure (events, total)

def getEvents (isAuth : Bool) (params : IncidentsParams) : DbProgram (List Incident) := do
  let result ← getEventsWithCount isAuth params
  pure result.1

def authorizedAccess : Bool := true

def getEventsInternal (params : IncidentsParams) : DbProgram (List Incident) :=
  getEvents authorizedAccess params

def getIncident (id : Nat) : DbProgram Incident := do
  let row ← read (.incident id)
  let components ← loadComponents [id]
  let statuses ← statusesByIncident [id]
  pure (incidentFromEnt id row (componentsOf id components) (statusesOf id statuses))

def getEventsByComponentID (componentID : Nat) (params : IncidentsParams) :
    DbProgram (List Incident) := do
  let time ← filterTime params
  let rows ← read (.eventsByComponent componentID params time)
  loadEvents rows

/-- Events of one type with their history; components are not loaded. -/
def getEventsByType (type : EventType) (descending : Bool) : DbProgram (List Incident) := do
  let rows ← read (.eventsByType type descending)
  let statuses ← statusesByIncident (rows.map Prod.fst)
  pure (attach rows [] statuses)

def getMaintenances : DbProgram (List Incident) := getEventsByType .maintenance false

def getInfoEvents : DbProgram (List Incident) := getEventsByType .information true

def getComponent (id : Nat) : DbProgram Component := read (.component id)

/-- The first component with a name and an attribute of the given value,
whatever the attribute is called. -/
def getComponentFromNameAttrs (name : String) (attr : ComponentAttr) : DbProgram Component :=
  read (.componentFromNameAttrs name attr.value)

def getComponentsAsMap : DbProgram (List Nat) := read .componentIds

/-- The eager load of the incident edge; nothing is read for no components. -/
def loadIncidents (ids : List Nat) : DbProgram (List (Nat × Nat × IncidentRow)) :=
  if ids = [] then pure [] else read (.incidentsOfComponents ids)

def incidentsOf (id : Nat) (loaded : List (Nat × Nat × IncidentRow)) : List (Nat × IncidentRow) :=
  loaded.filterMap (fun entry => if entry.1 = id then some entry.2 else none)

/-- All components, each with its incidents and their history.  The history is
loaded for all incidents together, an incident of several components being
listed once for each. -/
def getComponentsWithIncidents : DbProgram (List (Component × List Incident)) := do
  let components ← read .allComponents
  let linked ← loadIncidents (components.map Component.id)
  let statuses ← statusesByIncident
    (components.flatMap (fun component => (incidentsOf component.id linked).map Prod.fst))
  pure (components.map (fun component =>
    (component, attach (incidentsOf component.id linked) [] statuses)))

def incidentIDChunkSize : Nat := 1000

def loadIncidentRows :
    List (List Nat) → DbProgram (List (Nat × IncidentRow) × List (Nat × Component))
  | [] => pure ([], [])
  | chunk :: chunks => do
      let rows ← read (.incidentsByIDs chunk)
      let components ← loadComponents (rows.map Prod.fst)
      let others ← loadIncidentRows chunks
      pure (rows ++ others.1, components ++ others.2)

/-- Load incidents in the order of the ids, once for each time an id is listed. -/
def incidentsByIDs (ids : List Nat) : DbProgram (List Incident) := do
  let loaded ← loadIncidentRows (chunked incidentIDChunkSize ids.length ids)
  let ordered := ids.filterMap (fun id => loaded.1.find? (fun entry => entry.1 = id))
  let statuses ← statusesByIncident ids
  pure (attach ordered loaded.2 statuses)

def getIncidentsByComponentAttr (attr : ComponentAttr) (lastCount : Nat) :
    DbProgram (List Incident) := do
  let ids ← read (.incidentsByComponentAttr attr lastCount)
  incidentsByIDs ids

/-! ## Changing incidents -/

def movedFromText (component : Component) (incOld : Incident) : String :=
  component.printAttrs ++ " moved from " ++ incOld.link

def movedToText (component : Component) (incNew : Incident) : String :=
  component.printAttrs ++ " moved to " ++ incNew.link

/-- The target of a move: the component is added together with an update. -/
def receiveComponent (timeNow : Time) (component : Component) (incOld incNew : Incident) :
    Incident :=
  { incNew with
    components := incNew.components ++ [component]
    statuses := incNew.statuses ++ [{
      incidentId := incNew.id
      status := .outDatedSystem
      text := movedFromText component incOld
      timestamp := timeNow }] }

/-- The source of a move: it is resolved when it is to be closed. -/
def releaseComponent (timeNow : Time) (component : Component) (incOld incNew : Incident)
    (closeOld : Bool) : Incident :=
  if closeOld then
    { incOld with
      status := .resolved
      endDate := some timeNow
      statuses := incOld.statuses ++ [{
        incidentId := incOld.id
        status := .resolved
        text := movedToText component incNew ++ ", Incident closed by system"
        timestamp := timeNow }] }
  else
    { incOld with
      statuses := incOld.statuses ++ [{
        incidentId := incOld.id
        status := .outDatedSystem
        text := movedToText component incNew
        timestamp := timeNow }] }

@[simp] theorem releaseComponent_id (timeNow : Time) (component : Component)
    (incOld incNew : Incident) (closeOld : Bool) :
    (releaseComponent timeNow component incOld incNew closeOld).id = incOld.id := by
  cases closeOld <;> rfl

@[simp] theorem releaseComponent_components (timeNow : Time) (component : Component)
    (incOld incNew : Incident) (closeOld : Bool) :
    (releaseComponent timeNow component incOld incNew closeOld).components = incOld.components := by
  cases closeOld <;> rfl

@[simp] theorem releaseComponent_type (timeNow : Time) (component : Component)
    (incOld incNew : Incident) (closeOld : Bool) :
    (releaseComponent timeNow component incOld incNew closeOld).type = incOld.type := by
  cases closeOld <;> rfl

/-- A component that came without its name is loaded. -/
def namedComponent (component : Component) : DbProgram Component :=
  if component.name = "" then getComponent component.id else pure component

/-- Returns the source and the target as they are after the transaction. -/
def moveComponentFromOldToAnotherIncident (component : Component) (incOld incNew : Incident)
    (closeOld : Bool) : DbProgram (Incident × Incident) := do
  let timeNow ← currentTime
  let named ← namedComponent component
  write (.moveComponent named (releaseComponent timeNow named incOld incNew closeOld)
    (receiveComponent timeNow named incOld incNew) closeOld)

def extractedIncident (timeNow : Time) (components : List Component) (impact : Int)
    (text : String) (description : Option String) : Incident where
  text := some text
  description := description
  startDate := some timeNow
  endDate := none
  impact := some impact
  status := .outDatedSystem
  system := false
  type := .incident
  components := components

/-- The new incident with one update for each component it received. -/
def extractionTarget (timeNow : Time) (components : List Component) (incOld saved : Incident) :
    Incident :=
  { saved with
    statuses := saved.statuses ++ components.map (fun component => {
      incidentId := saved.id
      status := .outDatedSystem
      text := movedFromText component incOld
      timestamp := timeNow }) }

/-- The old incident with one update for each component it gave away. -/
def extractionSource (timeNow : Time) (components : List Component) (incident incOld : Incident) :
    Incident :=
  { incOld with
    statuses := incOld.statuses ++ components.map (fun component => {
      incidentId := incOld.id
      status := .outDatedSystem
      text := movedToText component incident
      timestamp := timeNow }) }

def extractComponentsToNewIncident (components : List Component) (incOld : Incident)
    (impact : Int) (text : String) (description : Option String) : DbProgram Incident := do
  if components = [] then
    .fail .noComponentsToExtract
  else
    let timeNow ← currentTime
    let saved ← write (.saveIncident (extractedIncident timeNow components impact text description))
    let incident := extractionTarget timeNow components incOld saved
    let result ← write (.extractComponents components incident
      (extractionSource timeNow components incident incOld))
    pure result.2

def impactChangedStatus (timeNow : Time) (incident : Incident) (impact : Int) : IncidentStatus where
  incidentId := incident.id
  status := .outDatedSystem
  text := "impact changed from " ++ toString (incident.impact.getD 0) ++ " to " ++ toString impact
  timestamp := timeNow
  createdAt := some timeNow
  modifiedAt := some timeNow

def raisedIncident (timeNow : Time) (incident : Incident) (impact : Int) : Incident :=
  { incident with
    statuses := incident.statuses ++ [impactChangedStatus timeNow incident impact]
    impact := some impact
    modifiedAt := some timeNow }

def increaseIncidentImpact (incident : Incident) (impact : Int) : DbProgram Incident := do
  let timeNow ← currentTime
  write (.increaseImpact timeNow (raisedIncident timeNow incident impact)
    (impactChangedStatus timeNow incident impact))
  pure (raisedIncident timeNow incident impact)

def addComponentToIncident (incident : Incident) (component : Component)
    (status : IncidentStatus) : DbProgram Incident :=
  write (.addComponent incident component status)

/-- The updates of an event, as the text editor sees them. -/
def getEventUpdates (incidentID : Nat) : DbProgram (List IncidentStatus) := do
  let rows ← read (.statuses [incidentID])
  pure (statusesOf incidentID rows)

end StatusDashboard.Storage
