import StatusDashboard.Handlers.Read

namespace StatusDashboard.Handlers

open Event Storage Process

/-!
# What readers are shown

The answers of the read routes are built from loaded copies.  Fields that a copy
may lack are pointers in the source; some places test them and others
dereference them.  `none` stands for a dereference of a missing value.

The texts of the feeds contain formatted times; `format` stands for the time
formatting of the standard library, with the layout as its first argument.
-/

/-! ## Events -/

/-- An update as it is shown; its id is its place in the list. -/
structure ShownUpdate where
  id : Nat
  status : Status
  text : String
  timestamp : Time
deriving DecidableEq, Repr

structure ApiEvent where
  id : Nat
  title : String
  description : String
  impact : Option Int
  components : List Nat
  startDate : Time
  endDate : Option Time
  system : Bool
  updates : List ShownUpdate
  status : Status
  type : EventType
  contactEmail : String
  createdBy : String
  version : Option Int
deriving DecidableEq, Repr

/-- The canonical form of a stored status. -/
def normalizeStatus (raw : Status) (endDate : Option Time) (type : EventType) : Status :=
  match raw with
  | .other text =>
    if text = "analyzing" then .analysing
    else if text = "in progress" then .inProgress
    else if text = "scheduled" then .planned
    else raw
  | .outDatedSystem =>
    if endDate = none then raw
    else match type with
      | .incident => .resolved
      | .information => .completed
      | .maintenance => .completed
  | _ => raw

def isInternalStatus : Status → Bool
  | .pendingReview | .reviewed => true
  | _ => false

/-- Marks an update row that carries a description. -/
def statusDescription : Status := .other "description"

/-- A change is shown with the status before it. -/
def collapse (status last : Status) : Status :=
  if status = .changed ∨ status = .impactChanged then last else status

/-- The shown updates from an index on, after the last shown status and the latest
description. -/
def mapEventUpdatesFrom (isAuth : Bool) (endDate : Option Time) (type : EventType) :
    Nat → Status → String → List IncidentStatus → List ShownUpdate × String
  | _, _, latestDescription, [] => ([], latestDescription)
  | idx, lastStatus, latestDescription, s :: statuses =>
    if !isAuth && isInternalStatus s.status then
      mapEventUpdatesFrom isAuth endDate type idx lastStatus latestDescription statuses
    else if s.status = statusDescription then
      mapEventUpdatesFrom isAuth endDate type idx lastStatus s.text statuses
    else
      let status := collapse (normalizeStatus s.status endDate type) lastStatus
      let later := mapEventUpdatesFrom isAuth endDate type (idx + 1) status latestDescription
        statuses
      ({ id := idx, status := status, text := s.text, timestamp := s.timestamp } :: later.1,
        later.2)

def mapEventUpdates (statuses : List IncidentStatus) (isAuth : Bool) (eventStatus : Status)
    (endDate : Option Time) (type : EventType) : List ShownUpdate × String :=
  mapEventUpdatesFrom isAuth endDate type 0 (normalizeStatus eventStatus endDate type) "" statuses

/-- The last status of a history in which changes keep the status before them. -/
def eventStatusFrom (endDate : Option Time) (type : EventType) :
    Status → List IncidentStatus → Status
  | prev, [] => prev
  | prev, s :: statuses =>
    if s.status = statusDescription then eventStatusFrom endDate type prev statuses
    else eventStatusFrom endDate type
      (collapse (normalizeStatus s.status endDate type) prev) statuses

/-- The whole history counts, whoever asks. -/
def eventStatus (inc : Incident) : Status :=
  let status := normalizeStatus inc.status inc.endDate inc.type
  if status ≠ .changed ∧ status ≠ .impactChanged then status
  else eventStatusFrom inc.endDate inc.type status inc.statuses

def toApiEvent (inc : Incident) (isAuth : Bool) : Option ApiEvent := do
  let mapped := mapEventUpdates inc.statuses isAuth inc.status inc.endDate inc.type
  let title ← inc.text
  let startDate ← inc.startDate
  return {
    id := inc.id
    title := title
    description := if mapped.2 ≠ "" then mapped.2 else inc.description.getD ""
    impact := inc.impact
    components := inc.componentIds
    startDate := startDate
    endDate := inc.endDate
    system := inc.system
    updates := mapped.1
    status := eventStatus inc
    type := inc.type
    contactEmail := if isAuth then inc.contactEmail.getD "" else ""
    createdBy := if isAuth then inc.createdBy.getD "" else ""
    version := if isAuth ∧ inc.type = .maintenance then inc.version else none }

/-! ## Feeds -/

structure FeedItem where
  title : String
  link : String
  created : Time
  description : String
  updated : Option Time
deriving DecidableEq, Repr

structure Feed where
  title : String
  link : String
  description : String
  created : Time
  items : List FeedItem
deriving DecidableEq, Repr

def generalTitle : String := "Incidents | Status Dashboard"

def prepareTitle (region component : String) : String :=
  if region ≠ "" then
    if component ≠ "" then component ++ " (" ++ region ++ ") - " ++ generalTitle
    else region ++ " - " ++ generalTitle
  else generalTitle

def itemLink (baseURL : String) (incident : Incident) : String :=
  baseURL ++ "/incidents/" ++ toString incident.id

/-- Comparing two or more dereferences the date of each. -/
def sortByDate (date : Incident → Option Time) (incidents : List Incident) :
    Option (List Incident) :=
  if incidents.length < 2 ∨ incidents.all (fun incident => (date incident).isSome) then
    some (incidents.insertionSort (fun first second =>
      (date second).getD zeroTime ≤ (date first).getD zeroTime))
  else none

/-- Open events by start, then closed ones by end, the latest first. -/
def sortIncidents (incidents : List Incident) : Option (List Incident) := do
  let openIncidents ← sortByDate Incident.startDate
    (incidents.filter (fun incident => incident.endDate.isNone))
  let closedIncidents ← sortByDate Incident.endDate
    (incidents.filter (fun incident => incident.endDate.isSome))
  return openIncidents ++ closedIncidents

section Format

variable (format : String → Time → String)

/-! ## The feed of `/rss` -/

def incidentImpact (impact : Int) : String :=
  if impact = 0 then "Scheduled maintenance"
  else if impact = 1 then "Minor incident (i.e. performance impact)"
  else if impact = 2 then "Major incident"
  else if impact = 3 then "Service outage"
  else ""

def updateContent (status : IncidentStatus) : String :=
  "<small>" ++ format "2006-01-02 15:04 MST" status.timestamp ++ "</small><br><strong>" ++
    status.status.text ++ " - </strong>" ++ status.text ++ "<br><br><br>"

/-- The updates of an event, the latest first, without the internal ones. -/
def createFeedContent (incident : Incident) : Option String := do
  let shown := incident.statuses.reverse.filter (fun status =>
    !(incident.type == .maintenance && isInternalStatus status.status))
  let impact ← incident.impact
  let startDate ← incident.startDate
  return String.join (shown.map (updateContent format)) ++
    "Incident impact: " ++ incidentImpact impact ++ "<br>" ++
    "Start date: " ++ format "2006-01-02 15:04:05 MST" startDate ++ "<br>" ++
    (match incident.endDate with
      | some endDate => "End date: " ++ format "2006-01-02 15:04:05 MST" endDate ++ "<br>"
      | none => "") ++
    "<br>We apologize for the inconvenience and will share an update once we have more information."

/-- The end date or, without one, the start date replaces the time of the last update. -/
def createFeedItem (baseURL : String) (incident : Incident) : Option FeedItem := do
  let text ← incident.text
  let startDate ← incident.startDate
  let content ← createFeedContent format incident
  return {
    title := text ++ "\n"
    link := itemLink baseURL incident
    created := startDate
    description := content
    updated := some (incident.endDate.getD startDate) }

/-! ## The feed of `/v2/rss` -/

def getIncidentImpactsStr (impact : Int) : String :=
  if impact = 1 then "Minor incident (i.e. performance impact)"
  else if impact = 2 then "Major incident"
  else "Service outage"

def Component.region (component : Component) : String := component.attr regionAttrName

def incidentTitle (impact : String) : List Component → String
  | [] => "Status change to " ++ impact
  | [component] => component.name ++ " status changed to " ++ impact
  | _ => "Status change of multiple services to " ++ impact

def incidentDescription (incident : Incident) (impact : String) (startDate : Time) : String :=
  (if incident.components = [] then
    "A " ++ impact ++ " was detected at " ++ format "2006-01-02 15:04:05" startDate ++ " UTC."
  else
    "A " ++ impact ++ " was detected at " ++ format "2006-01-02 15:04:05" startDate ++
      " UTC for " ++ ", ".intercalate (incident.components.map (fun component =>
        component.name ++ " in " ++ Component.region component)) ++ ".") ++
    (match incident.description with
      | some description => if description ≠ "" then " " ++ description else ""
      | none => "")

def updateScope : List Component → String
  | [] => ":"
  | [component] => " for " ++ component.name ++ " in " ++ Component.region component ++ ":"
  | components => " for" ++ ",".intercalate (components.map (fun component =>
    " " ++ component.name ++ " (" ++ Component.region component ++ ")")) ++ ":"

def updateItem (baseURL : String) (incident : Incident) (s : IncidentStatus) : Option FeedItem := do
  let text ← incident.text
  return {
    title := "Update published for: " ++ text
    link := itemLink baseURL incident
    created := s.timestamp
    description := "An update was provided at " ++ format "2006-01-02 15:04:05" s.timestamp ++
      " UTC" ++ updateScope incident.components ++ " " ++ s.status.text ++ " - " ++ s.text
    updated := none }

/-- The incident and its updates without the first detection. -/
def createIncidentFeedItems (baseURL : String) (incident : Incident) : Option (List FeedItem) := do
  let impact ← incident.impact
  let startDate ← incident.startDate
  let updates ← (incident.statuses.filter (fun s => s.status ≠ .detected)).mapM
    (updateItem format baseURL incident)
  return {
    title := incidentTitle (getIncidentImpactsStr impact) incident.components
    link := itemLink baseURL incident
    created := startDate
    description := incidentDescription format incident (getIncidentImpactsStr impact) startDate
    updated := none } :: updates

/-- The description, or the text of the first planned update. -/
def generalDescription (maintenance : Incident) : String :=
  match maintenance.description with
  | some description => if description ≠ "" then description else plannedText
  | none => plannedText
where
  plannedText : String :=
    ((maintenance.statuses.find? (fun s => s.status = .planned)).map IncidentStatus.text).getD ""

def shortNames (maintenance : Incident) : String :=
  ", ".intercalate (maintenance.components.map (fun component => component.attr "type"))

def longNames (maintenance : Incident) : String :=
  ", ".intercalate (maintenance.components.map (fun component =>
    component.name ++ " (" ++ Component.region component ++ ")"))

/-- The texts of an update, if it is of a kind that the feed shows.  The dates are
formatted without a test whether there is one. -/
def maintenanceTexts (maintenance : Incident) (s : IncidentStatus) :
    Option (Option (String × String)) :=
  match s.status with
  | .planned => do
      let startDate ← maintenance.startDate
      let endDate ← maintenance.endDate
      return some ("Maintenance planned for " ++ shortNames maintenance,
        "A maintenance is planned for " ++ longNames maintenance ++ " between " ++
          format "2006-01-02 15:04:05" startDate ++ " UTC and " ++
          format "2006-01-02 15:04:05" endDate ++ " UTC: " ++ s.text)
  | .inProgress => do
      let endDate ← maintenance.endDate
      return some ("Maintenance started for " ++ shortNames maintenance,
        "A maintenance started for " ++ longNames maintenance ++ " planned until " ++
          format "2006-01-02 15:04:05" endDate ++ " UTC: " ++ generalDescription maintenance)
  | .modified =>
    some (some ("Maintenance modified for " ++ shortNames maintenance,
      "A maintenance modified for " ++ longNames maintenance ++ ": " ++ s.text))
  | .completed =>
    some (some ("Maintenance completed for " ++ shortNames maintenance,
      "A maintenance completed for " ++ longNames maintenance ++ "."))
  | .cancelled =>
    some (some ("Maintenance cancelled for " ++ shortNames maintenance,
      "A maintenance cancelled for " ++ longNames maintenance ++ "."))
  | _ => some none

def createMaintenanceFeedItems (baseURL : String) (maintenance : Incident) :
    Option (List FeedItem) := do
  let items ← maintenance.statuses.mapM (fun s => do
    let texts ← maintenanceTexts format maintenance s
    return texts.map (fun texts => {
      title := texts.1
      link := itemLink baseURL maintenance
      created := s.timestamp
      description := texts.2
      updated := none : FeedItem }))
  return items.reduceOption

def createFeedItems (baseURL : String) (incident : Incident) : Option (List FeedItem) :=
  match incident.type with
  | .maintenance => createMaintenanceFeedItems format baseURL incident
  | .information => some []
  | .incident => createIncidentFeedItems format baseURL incident

end Format

/-! ## Views -/

structure Pagination where
  pageIndex : Int
  recordsPerPage : Int
  totalRecords : Nat
  totalPages : Int
deriving DecidableEq, Repr

def defaultIncidentLimit : Int := 50

/-- No limit means one page with everything. -/
def pagination (params : IncidentsParams) (total : Nat) : Pagination :=
  let limit := params.limit.getD defaultIncidentLimit
  { pageIndex := if limit = 0 then 1 else params.page.getD 1
    recordsPerPage := if limit = 0 then total else limit
    totalRecords := total
    totalPages := if limit = 0 then 1 else (total + limit - 1) / limit }

/-- The two feeds. -/
inductive FeedVersion where
  | rss
  | v2Rss
deriving DecidableEq, Repr

structure FeedRequest where
  version : FeedVersion
  region : String
  componentName : String
  baseURL : String
  rawQuery : String
deriving DecidableEq, Repr

inductive ViewRequest where
  | events (params : IncidentsParams)
  | incidents (params : IncidentsParams)
  | event (id : Nat)
  | feed (request : FeedRequest)
deriving DecidableEq, Repr

/-- What a reader is shown.  Other answers are shown as they are. -/
inductive View where
  | event (event : ApiEvent)
  | events (data : List ApiEvent) (pagination : Option Pagination)
  | feed (feed : Feed)
  | plain (response : Response)
deriving DecidableEq, Repr

/-- A dereferenced value; without one the request stops. -/
def dereference {α : Type} : Option α → Handler α
  | some value => pure value
  | none => .fail (.internal .nilDereference)

def feedItems (format : String → Time → String) (request : FeedRequest)
    (incidents : List Incident) : Option (List FeedItem) :=
  match request.version with
  | .rss => incidents.mapM (createFeedItem format request.baseURL)
  | .v2Rss => (incidents.mapM (createFeedItems format request.baseURL)).map List.flatten

def renderFeed (format : String → Time → String) (request : FeedRequest) (created : Time)
    (incidents : List Incident) : Option Feed := do
  let sorted ← sortIncidents incidents
  let items ← feedItems format request sorted
  return {
    title := prepareTitle request.region request.componentName
    link := request.baseURL ++ "/rss/" ++ request.rawQuery
    description := prepareTitle request.region request.componentName ++ " - Incidents"
    created := created
    items := items }

/-- The list of events with its pages; no match is an empty list without pages. -/
def renderEvents (isAuth : Bool) (params : IncidentsParams) : Response → Option View
  | .events incidents total =>
    if total = 0 then some (.events [] none)
    else do
      let data ← incidents.mapM (fun incident => toApiEvent incident isAuth)
      return .events data (some (pagination params total))
  | response => some (.plain response)

def renderIncidents (isAuth : Bool) : Response → Option View
  | .events incidents _ => do
      let data ← incidents.mapM (fun incident => toApiEvent incident isAuth)
      return .events data none
  | response => some (.plain response)

def renderEvent (isAuth : Bool) : Response → Option View
  | .event incident => do
      let event ← toApiEvent incident isAuth
      return .event event
  | response => some (.plain response)

def ViewRequest.program (format : String → Time → String) (isAuth : Bool) :
    ViewRequest → Handler View
  | .events params => do
      let response ← (ReadRequest.events params).program isAuth
      dereference (renderEvents isAuth params response)
  | .incidents params => do
      let response ← (ReadRequest.incidents params).program isAuth
      dereference (renderIncidents isAuth response)
  | .event id => do
      let response ← (ReadRequest.event id).program isAuth
      dereference (renderEvent isAuth response)
  | .feed request => do
      let response ← (ReadRequest.feed request.region request.componentName).program isAuth
      let created ← internalOnError currentTime
      match response with
      | .events copies _ => do
          let feed ← dereference (renderFeed format request created copies)
          pure (.feed feed)
      | response => pure (.plain response)

end StatusDashboard.Handlers
