import StatusDashboard.Handlers.Activity
import StatusDashboard.Storage.Footprint
import StatusDashboard.Storage.Load

namespace StatusDashboard.Provenance

open Event Storage Notification Process Handlers Checker

/-!
# Where a write comes from

`Issued` lists every write transaction an activity can attempt, with what the
activity knows at that moment: which request it serves, which checks have
passed, and from which stored rows the copies in the transaction were read.
It is stated relative to a `Setting`.  Within a setting the others move the
store along `rely` between two operations of the activity, and `across` relates
a store the activity saw earlier to a later one, its own writes included.

A regular creation keeps copies over several of its own writes.  What is known
about such a copy is left to the setting, as `tracked`.  The info checker keeps
a whole batch of copies; `current` is what is known about the row of one that
the checker has not written yet.
-/

structure Setting extends Discipline where
  across : Store → Store → Prop
  tracked : Incident → Store → Prop
  current : Nat → IncidentRow → Store → Prop

/-! ## Facts about requests -/

/-- What the checks on a creation body and its components leave. -/
structure ValidCreation (data : IncidentData) : Prop where
  unimpaired : data.type ≠ .incident → data.impact = 0
  impaired : data.type = .incident → 1 ≤ data.impact ∧ data.impact ≤ 3
  ongoing : data.type = .incident → data.endDate = none
  nonempty : data.components ≠ []
  nonzero : ∀ id ∈ data.components, id ≠ 0

/-- How preparing a creation changes its body. -/
structure Prepared (caller : Caller) (data prepared : IncidentData) : Prop where
  same : prepared = { data with contactEmail := prepared.contactEmail, status := prepared.status }
  other : data.type ≠ .maintenance → prepared = data
  status : data.type = .maintenance →
    prepared.status = if caller.role.canApprove then .planned else .pendingReview
  scheduled : data.type = .maintenance →
    ∃ date, data.endDate = some date ∧ data.startDate < date

/-- A system creation that names a component. -/
structure SystemNamed (data : IncidentData) (component : Component) : Prop where
  system : data.system = some true
  type : data.type = .incident
  valid : ValidCreation data
  named : component.id ∈ data.components

/-- The status the maintenance checker computes when its clock shows `now`. -/
def currentMntStatus (now : Time) (mn : Incident) : Status :=
  if hasUpdate mn .cancelled then .cancelled
  else if mn.status = .reviewed then .planned
  else mntStatusAt now mn

/-- The status the info checker computes when its clock shows `now`. -/
def currentInfoStatus (now : Time) (info : Incident) : Status :=
  if hasUpdate info .cancelled then .cancelled else infoStatusAt now info

/-- A copy none of whose updates waits to be inserted. -/
def Settled (incident : Incident) : Prop :=
  ∀ status ∈ incident.statuses, status.id ≠ 0

namespace Setting

variable (setting : Setting)

/-- The active system incident a component is taken out of. -/
def Source (data : IncidentData) (component : Component) (source : Incident) (store : Store) :
    Prop :=
  ∃ row first, componentCondition component.id componentParams first source.id row ∧
    setting.always first ∧ Reading setting.rely linkedComponents source row first store ∧
    source.type ≠ .maintenance ∧ source.system = true ∧ source.impact.getD 0 < data.impact

/-- The active system incident that already has the requested impact. -/
def Target (data : IncidentData) (target : Incident) (store : Store) : Prop :=
  ∃ row first, eventsCondition systemParams authorizedAccess first target.id row ∧
    setting.always first ∧ Reading setting.rely linkedComponents target row first store ∧
    target.impact = some data.impact

/-- Taking components out of an incident into a new one: by a system creation
that found no incident to move its component to, or on request. -/
inductive Extracts : Activity → Store → List Component → Incident → Int → String →
    Option String → Prop
  | system {route : CreationRoute} {caller : Caller} {data : IncidentData} {component : Component}
      {source : Incident} {store : Store} (names : SystemNamed data component)
      (found : setting.Source data component source store)
      (several : source.components.length ≠ 1) :
      Extracts (.post route caller data) store [component] source data.impact data.title
        (some (withDefaultDescription data).description)
  | request {caller : Caller} {id : Nat} {components : List Nat} {moved : List Component}
      {stored : Incident} {row : IncidentRow} {before first store : Store}
      (fetched : setting.Fetched id stored row before first store)
      (type : stored.type = .incident) (distinct : components.Nodup)
      (chosen : getComponentsToExtract components stored.components = .ok moved)
      (nonempty : moved ≠ []) :
      Extracts (.extract caller id components) store moved stored (stored.impact.getD 0)
        (stored.text.getD "") stored.description

/-- The incident an extraction has just inserted. -/
structure ExtractionSaved (timeNow : Time) (components : List Component) (impact : Int)
    (text : String) (description : Option String) (saved : Incident) : Prop where
  same : saved = { extractedIncident timeNow components impact text description with
    id := saved.id
    version := saved.version
    createdAt := saved.createdAt
    modifiedAt := saved.modifiedAt
    statuses := saved.statuses }
  settled : Settled saved

inductive Issued (deployment : Deployment) : Activity → Store → {β : Type} → EventWrite β → Prop
  | regularCreate {route : CreationRoute} {caller : Caller} {data prepared : IncidentData}
      {store : Store} (regular : data.system ≠ some true) (valid : ValidCreation data)
      (prepares : Prepared caller data prepared) :
      Issued deployment (.post route caller data) store
        (.createEvent deployment.publisher (regularIncident prepared caller.userID) caller.userID)
  | regularMove {route : CreationRoute} {caller : Caller} {data : IncidentData} {store : Store}
      {old new : Incident} {named : Component} {timeNow : Time}
      (regular : data.system ≠ some true) (valid : ValidCreation data)
      (names : named.id ∈ data.components)
      (oldTracked : setting.tracked old store) (newTracked : setting.tracked new store)
      (oldSettled : Settled old) (newSettled : Settled new)
      (oldType : old.type = .incident) (newType : new.type = .incident)
      (newOngoing : new.endDate = none)
      (holds : named.id ∈ old.componentIds) (distinct : ListsOnce old)
      (apart : old.id ≠ new.id) :
      Issued deployment (.post route caller data) store
        (.moveComponent named
          (releaseComponent timeNow named old new (old.components.length == 1))
          (receiveComponent timeNow named old new) (old.components.length == 1))
  | systemCreate {route : CreationRoute} {caller : Caller} {data : IncidentData}
      {component : Component} {store : Store} (names : SystemNamed data component) :
      Issued deployment (.post route caller data) store
        (.createEvent none (systemIncident (withDefaultDescription data) component) none)
  | systemAdd {route : CreationRoute} {caller : Caller} {data : IncidentData}
      {component : Component} {target : Incident} {timeNow : Time} {store : Store}
      (names : SystemNamed data component) (found : setting.Target data target store) :
      Issued deployment (.post route caller data) store
        (.addComponent target component {
          incidentId := target.id
          status := target.status
          text := addedText component
          timestamp := timeNow })
  | systemMove {route : CreationRoute} {caller : Caller} {data : IncidentData}
      {component named : Component} {source target : Incident} {timeNow : Time} {store : Store}
      (names : SystemNamed data component) (same : named.id = component.id)
      (sourceFound : setting.Source data component source store)
      (targetFound : setting.Target data target store) :
      Issued deployment (.post route caller data) store
        (.moveComponent named
          (releaseComponent timeNow named source target (target.components.length == 1))
          (receiveComponent timeNow named source target) (target.components.length == 1))
  | systemRaise {route : CreationRoute} {caller : Caller} {data : IncidentData}
      {component : Component} {source : Incident} {timeNow : Time} {store : Store}
      (names : SystemNamed data component)
      (found : setting.Source data component source store)
      (single : source.components.length = 1) :
      Issued deployment (.post route caller data) store
        (.increaseImpact timeNow (raisedIncident timeNow source data.impact)
          (impactChangedStatus timeNow source data.impact))
  | extractSave {activity : Activity} {components : List Component} {old : Incident}
      {impact : Int} {text : String} {description : Option String} {timeNow : Time} {store : Store}
      (extracts : setting.Extracts activity store components old impact text description) :
      Issued deployment activity store
        (.saveIncident (extractedIncident timeNow components impact text description))
  | extract {activity : Activity} {components : List Component} {old saved : Incident}
      {impact : Int} {text : String} {description : Option String} {timeNow : Time}
      {before store : Store}
      (extracts : setting.Extracts activity before components old impact text description)
      (later : setting.across before store)
      (inserted : ExtractionSaved timeNow components impact text description saved)
      (oldTracked : setting.tracked old store) (savedTracked : setting.tracked saved store)
      (apart : old.id ≠ saved.id) :
      Issued deployment activity store
        (.extractComponents components (extractionTarget timeNow components old saved)
          (extractionSource timeNow components (extractionTarget timeNow components old saved) old))
  | systemMark {route : CreationRoute} {caller : Caller} {data : IncidentData}
      {components : List Component} {incident : Incident} {timeNow : Time} {store : Store}
      {description : Option String} (type : data.type = .incident) (valid : ValidCreation data)
      (inserted : ExtractionSaved timeNow components data.impact data.title description incident)
      (tracked : setting.tracked incident store)
      (fresh : ∃ before, setting.always before ∧ incident.id = before.incidents.nextId) :
      Issued deployment (.post route caller data) store
        (.modifyIncident { incident with system := true })
  | patch {caller : Caller} {id : Nat} {data : PatchIncidentData} {copy : Incident}
      {row : IncidentRow} {before first store : Store} (bound : data.bound = true)
      (fetched : setting.Fetched id copy row before first store)
      (versioned : copy.type = .maintenance → data.version ≠ none)
      (allowed : prepareIncidentPatch caller copy data = none) :
      Issued deployment (.patch caller id data) store
        (.persistPatch deployment.publisher (patchedIncident data caller.userID copy) copy.status
          caller.userID)
  | reopen {caller : Caller} {id : Nat} {data : PatchIncidentData} {copy : Incident}
      {row : IncidentRow} {before first earlier store : Store}
      (status : data.status = .reopened)
      (fetched : setting.Fetched id copy row before first earlier)
      (allowed : prepareIncidentPatch caller copy data = none)
      (later : setting.across earlier store) :
      Issued deployment (.patch caller id data) store (.reOpenIncident id)
  | editText {caller : Caller} {id index : Nat} {text : String} {target : IncidentStatus}
      {seen store : Store} (nonempty : text ≠ "") (read : setting.rely seen store)
      (listed : (loadedHistory seen id)[index]? = some target) :
      Issued deployment (.patchText caller id index text) store
        (.modifyEventUpdate { target with text := text, modifiedBy := caller.userID })
  | checkMaintenance {batchRow row : IncidentRow} {copy fixed : Incident} {now : Time}
      {batch before first store : Store} (kept : setting.always batch)
      (listed : batch.incidents.get? copy.id = some batchRow)
      (type : batchRow.type = .maintenance)
      (submitted : batchRow.status.getD .unset ≠ .pendingReview)
      (later : setting.across batch before)
      (fetched : setting.Fetched copy.id copy row before first store)
      (fixes : fixMntMissedStatuses (currentMntStatus now copy) (calculateMntStatusHistory copy)
        copy = some fixed)
      (changes : copy.status ≠ currentMntStatus now copy) :
      Issued deployment .checkMaintenance store
        (.checkerPatch deployment.publisher { fixed with status := currentMntStatus now copy }
          copy.status)
  | checkInfo {row : IncidentRow} {copy fixed : Incident} {now : Time} {first seen store : Store}
      (type : row.type = .information)
      (assumed : ∃ choice, setting.assume
        (database.event choice (.read (.eventsByType .information true)) first))
      (kept : setting.always first)
      (reading : Reading setting.rely noComponents copy row first seen)
      (later : setting.across seen store)
      (fixes : fixInfoMissedStatuses (currentInfoStatus now copy)
        (calculateInfoStatusHistory copy) copy = some fixed)
      (changes : copy.status ≠ currentInfoStatus now copy)
      (unwritten : setting.current copy.id row store) :
      Issued deployment .checkInfo store
        (.modifyIncident { fixed with status := currentInfoStatus now copy })

end Setting

end StatusDashboard.Provenance
