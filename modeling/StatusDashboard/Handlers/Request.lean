import StatusDashboard.Storage.Database

namespace StatusDashboard.Handlers

open Event Storage Notification Process

/-!
# Requests and answers

A request reaches its handler after authentication, so a handler sees a caller
with a resolved role.  Bodies are modelled after decoding; what the binding
tags check is checked here as well.
-/

inductive Role where
  | noRole
  | reporter
  | creator
  | operator
  | admin
deriving DecidableEq, Repr

namespace Role

def level : Role → Nat
  | .noRole => 0
  | .reporter => 5
  | .creator => 10
  | .operator => 30
  | .admin => 50

def canApprove (role : Role) : Bool := Role.operator.level ≤ role.level

def canCreate (role : Role) : Bool := Role.creator.level ≤ role.level

def isReporter (role : Role) : Bool := role == .reporter

def canViewInternalFields (role : Role) : Bool := Role.creator.level ≤ role.level

end Role

structure Caller where
  userID : Option String
  email : Option String
  role : Role
deriving DecidableEq, Repr

/-- What a refused request is told. -/
inductive Reason where
  | invalidBody
  | authForbidden
  | insufficientRole
  | componentInvalidFormat
  | componentDSNotExist (id : Nat)
  | incidentDSNotExist
  | updateDSNotExist
  | endDateShouldBeEmpty
  | startDateInFuture
  | updatesShouldBeEmpty
  | descriptionTooLong
  | typeImpactMismatch
  | systemCreationWrongType
  | patchMaintenanceStatus
  | patchInfoStatus
  | patchIncidentStatus
  | patchClosedStatus
  | patchOpenedStartDate
  | patchImpactStatusWrong
  | patchTypeForbidden
  | versionRequired
  | versionConflict
  | statusTransitionConflict
  | maintenanceEndDateEmpty
  | contactEmailInvalid
  | contactEmailDomain (allowed : List String)
  | endDateBeforeStart
  | maintenanceDescriptionRequired
  | extractForbiddenRole
  | extractForbiddenType
  | componentNotInIncident (id : Nat)
  | extractAllComponents
  | rssWrongParams
  | regionNotValid (region : String)
  | feedComponentNotExist
deriving DecidableEq, Repr

/-- The error answers, by status code. -/
inductive ApiError where
  | badRequest (reason : Reason)
  | forbidden (reason : Reason)
  | notFound (reason : Reason)
  | conflict (reason : Reason)
  | internal (cause : DbError)
deriving DecidableEq, Repr

structure ProcessComponentResp where
  componentId : Nat
  incidentId : Nat
  error : Option String
deriving DecidableEq, Repr

/-- The text that marks a component kept back by a maintenance. -/
def creationMaintenanceExists : String :=
  "event creation failed, component has active or planned maintenance"

/-- The successful answers.  A creation that met a maintenance answers 409 with
its result. -/
inductive Response where
  | created (result : List ProcessComponentResp) (conflict : Bool)
  | event (incident : Incident)
  | updateText (index : Nat) (status : IncidentStatus)
  | events (incidents : List Incident) (total : Nat)
  | round
deriving DecidableEq, Repr

abbrev Handler (α : Type) := Program Op ApiError α

/-- A database failure answers 500. -/
def internalOnError {α : Type} (program : DbProgram α) : Handler α :=
  program.mapError .internal

/-- What a deployment fixes: the publisher and the address parser it links. -/
structure Deployment where
  publisher : Option Publisher
  parseAddress : String → Bool

/-! ## Middleware -/

/-- Callers whose token grants no application role are refused. -/
def rbacAuthorization (caller : Caller) : Handler Unit :=
  if caller.role = .noRole then .fail (.forbidden .authForbidden) else pure ()

/-- Machine reporters are refused on the write routes for people. -/
def denyReporterScope (caller : Caller) : Handler Unit :=
  if caller.role.isReporter then .fail (.forbidden .insufficientRole) else pure ()

/-- All named components must exist. -/
def validateComponents (components : List Nat) : Handler Unit := do
  if components = [] then
    .fail (.badRequest .componentInvalidFormat)
  else
    let known ← internalOnError getComponentsAsMap
    match components.find? (fun id => id ∉ known) with
    | some id => .fail (.badRequest (.componentDSNotExist id))
    | none => pure ()

/-- Load the event a path names. -/
def checkEventExistence (id : Nat) : Handler Incident :=
  if id = 0 then .fail (.badRequest .invalidBody)
  else (getIncident id).mapError (fun error =>
    if error = .incidentDSNotExist then .notFound .incidentDSNotExist else .internal error)

end StatusDashboard.Handlers
