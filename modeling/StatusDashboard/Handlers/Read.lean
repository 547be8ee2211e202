import StatusDashboard.Handlers.Request

namespace StatusDashboard.Handlers

open Event Storage Process

/-!
# Reading events

`GET /v2/events`, the deprecated `GET /v2/incidents`, `GET /v2/events/:id` and
the RSS feeds.  Callers below the creator role get the public view: the lists
and the feeds filter in the database, the single event is filtered after it was
loaded.  The feeds are public for everybody.
-/

/-- A cancelled maintenance none of whose updates was public. -/
def isCancelledWithoutPublicStatus (incident : Incident) : Bool :=
  incident.type == .maintenance && incident.status == .cancelled &&
    incident.statuses.all (fun status => !isPublicMaintenanceStatus status.status)

/-- A maintenance that still awaits its review. -/
def isUnderReview (incident : Incident) : Bool :=
  incident.type == .maintenance &&
    (incident.status == .pendingReview || incident.status == .reviewed)

def getIncidentHandler (isAuth : Bool) (id : Nat) : Handler Response := do
  let incident ← checkEventExistence id
  if !isAuth && isUnderReview incident then
    .fail (.notFound .incidentDSNotExist)
  else if !isAuth && isCancelledWithoutPublicStatus incident then
    .fail (.notFound .incidentDSNotExist)
  else pure (.event incident)

def getEventsHandler (isAuth : Bool) (params : IncidentsParams) : Handler Response := do
  let result ← internalOnError (getEventsWithCount isAuth params)
  pure (.events result.1 result.2)

/-- The number of pages a list of events reports. -/
def totalPages (total limit : Nat) : Nat :=
  (total + limit - 1) / limit

/-! ## Feeds -/

def validateRegion (region : String) : Bool :=
  ["EU-DE", "EU-NL", "EU-CH2", "Global"].contains region

def maxIncidents : Nat := 10

def publicAccess : Bool := false

/-- The events of a feed: of one component, of one region, or of everything. -/
def getIncidents (region componentName : String) : DbProgram (List Incident) :=
  if componentName ≠ "" ∧ region ≠ "" then do
    let component ← getComponentFromNameAttrs componentName
      { name := regionAttrName, value := region }
    getEventsByComponentID component.id { lastCount := maxIncidents }
  else if region ≠ "" then
    getIncidentsByComponentAttr { name := regionAttrName, value := region } maxIncidents
  else getEvents publicAccess { lastCount := maxIncidents }

/-- An unknown component of a feed that names one is the client's mistake. -/
def feedError (componentName : String) (error : DbError) : ApiError :=
  if componentName ≠ "" ∧ error = .componentDSNotExist then .notFound .feedComponentNotExist
  else .internal error

def handleRSS (region componentName : String) : Handler Response := do
  if componentName ≠ "" ∧ region = "" then
    .fail (.notFound .rssWrongParams)
  else if region ≠ "" ∧ validateRegion region = false then
    .fail (.notFound (.regionNotValid region))
  else if componentName.toList.contains (Char.ofNat 0) then
    .fail (.badRequest .rssWrongParams)
  else
    let incidents ← (getIncidents region componentName).mapError (feedError componentName)
    pure (.events incidents incidents.length)

/-! ## All reads -/

inductive ReadRequest where
  | events (params : IncidentsParams)
  | incidents (params : IncidentsParams)
  | event (id : Nat)
  | feed (region componentName : String)
deriving DecidableEq, Repr

/-- The extended view is for creators and above. -/
def hasExtendedView (role : Role) : Bool := role.canViewInternalFields

def ReadRequest.program (isAuth : Bool) : ReadRequest → Handler Response
  | .events params => getEventsHandler isAuth params
  | .incidents params => getEventsHandler isAuth { params with limit := none, page := none }
  | .event id => getIncidentHandler isAuth id
  | .feed region componentName => handleRSS region componentName

/-- Whether an answer shows an event. -/
def Response.shows (response : Response) (id : Nat) : Bool :=
  match response with
  | .event incident => incident.id == id
  | .events incidents _ => incidents.any (fun incident => incident.id == id)
  | _ => false

end StatusDashboard.Handlers
