import StatusDashboard.Handlers.Activity
import StatusDashboard.Process.Inversion
import StatusDashboard.Storage.Reads

namespace StatusDashboard.Handlers

open Event Storage Process

/-!
# Routes

Every route that takes a request, with the middleware in front of its handler.
Components are created and notifications are operated by handlers that are not
modelled; they are arbitrary programs here, so that what is said about a caller
does not depend on them.
-/

structure Backends where
  postComponent : Handler Response
  notifications : Handler Response

/-- A request on one of the routes.  The deprecated paths of existing incidents
have the same chains as the paths of events. -/
inductive Request where
  | get (request : ReadRequest)
  | postComponent
  | postEvent (route : CreationRoute) (data : IncidentData)
  | patchEvent (id : Nat) (data : PatchIncidentData)
  | extractEvent (id : Nat) (components : List Nat)
  | patchEventUpdateText (id index : Nat) (text : String)
  | notifications

def requireAdmin (caller : Caller) : Handler Unit :=
  if caller.role = .admin then pure () else .fail (.forbidden .authForbidden)

def Request.program (deployment : Deployment) (backends : Backends) (caller : Caller) :
    Request → Handler Response
  | .get request => request.program (hasExtendedView caller.role)
  | .postComponent => do
      denyReporterScope caller
      backends.postComponent
  | .postEvent route data => Handlers.postEvent deployment route caller data
  | .patchEvent id data => Handlers.patchEvent deployment caller id data
  | .extractEvent id components => Handlers.extractEvent caller id components
  | .patchEventUpdateText id index text => Handlers.patchEventUpdateText caller id index text
  | .notifications => do
      rbacAuthorization caller
      requireAdmin caller
      backends.notifications

/-! ## Requests that change nothing -/

theorem reads_rbacAuthorization (caller : Caller) : Reads (rbacAuthorization caller) := by
  unfold rbacAuthorization
  split_ifs <;> trivial

theorem reads_denyReporterScope (caller : Caller) : Reads (denyReporterScope caller) := by
  unfold denyReporterScope
  split_ifs <;> trivial

theorem reads_checkEventExistence (id : Nat) : Reads (checkEventExistence id) := by
  unfold checkEventExistence
  split_ifs
  · exact reads_fail _
  · exact reads_mapError (reads_getIncident id)

theorem reads_validateComponents (components : List Nat) :
    Reads (validateComponents components) := by
  unfold validateComponents
  split_ifs
  · exact reads_fail _
  · refine reads_bind (reads_mapError (reads_read _)) ?_
    intro known
    split
    · exact reads_fail _
    · exact reads_pure _

theorem reads_get (isAuth : Bool) (request : ReadRequest) : Reads (request.program isAuth) := by
  have events : ∀ params, Reads (getEventsHandler isAuth params) := fun params =>
    reads_bind (reads_mapError (reads_getEventsWithCount _ _)) (fun _ => reads_pure _)
  cases request with
  | events params => exact events params
  | incidents => exact events _
  | event id =>
    refine reads_bind (reads_checkEventExistence id) ?_
    intro incident
    split_ifs
    · exact reads_fail _
    · exact reads_fail _
    · exact reads_pure _
  | feed region componentName =>
    have incidents : Reads (getIncidents region componentName) := by
      unfold getIncidents
      split_ifs
      · exact reads_bind (reads_read _) (fun _ => reads_getEventsByComponentID _ _)
      · exact reads_getIncidentsByComponentAttr _ _
      · exact reads_getEvents _ _
    rw [ReadRequest.program, handleRSS]
    split_ifs
    · exact reads_fail _
    · exact reads_fail _
    · exact reads_fail _
    · exact reads_bind (reads_mapError incidents) (fun _ => reads_pure _)

theorem reads_validateEventCreation (data : IncidentData) :
    Reads (validateEventCreation data) := by
  have description : Reads (validateEventDescription data) := by
    unfold validateEventDescription
    split_ifs
    · exact reads_fail _
    · exact reads_pure _
  have impact : Reads (validateEventCreationImpact data) := by
    unfold validateEventCreationImpact
    split_ifs
    · exact reads_fail _
    · exact reads_fail _
    · exact reads_pure _
  have times : Reads (validateEventCreationTimes data) := by
    unfold validateEventCreationTimes
    split
    · exact reads_fail _
    · refine reads_bind (reads_mapError reads_currentTime) ?_
      intro time
      split_ifs
      · exact reads_fail _
      · exact reads_pure _
    · exact reads_fail _
    · exact reads_pure _
  refine reads_bind description (fun _ => reads_bind impact (fun _ => reads_bind times ?_))
  intro _
  split_ifs
  · exact reads_pure _
  · exact reads_fail _

theorem reads_prepareIncidentCreate (deployment : Deployment) (caller : Caller)
    (data : IncidentData) : Reads (prepareIncidentCreate deployment caller data) := by
  refine reads_bind (reads_validateEventCreation data) ?_
  intro _
  split_ifs
  · exact reads_fail _
  · have validated : Reads (validateMaintenanceCreation deployment data) := by
      unfold validateMaintenanceCreation
      split_ifs <;> trivial
    have addressed : Reads (resolveContactEmail deployment caller data) := by
      unfold resolveContactEmail
      split_ifs <;> trivial
    have status : Reads (resolveMaintenanceCreateStatus caller.role) := by
      unfold resolveMaintenanceCreateStatus
      split_ifs <;> trivial
    exact reads_bind validated (fun _ => reads_bind addressed (fun _ =>
      reads_bind status (fun _ => reads_pure _)))
  · exact reads_pure _

theorem reads_fetchComponents (ids : List Nat) : Reads (fetchComponents ids) := by
  induction ids with
  | nil => exact reads_pure _
  | cons id ids ih =>
    exact reads_bind (reads_read _) (fun _ => reads_bind ih (fun _ => reads_pure _))

/-- A reporter changes nothing unless it reports a system incident as an event. -/
theorem reporter_reads {deployment : Deployment} {backends : Backends} {caller : Caller}
    (reporter : caller.role = .reporter) (request : Request) :
    Reads (request.program deployment backends caller) ∨
      ∃ data, request = .postEvent .events data ∧ isSystemIncident data = true := by
  have authorized : rbacAuthorization caller = pure () := by
    unfold rbacAuthorization
    rw [if_neg (by rw [reporter]; decide)]
  have denied : denyReporterScope caller = .fail (.forbidden .insufficientRole) := by
    unfold denyReporterScope
    rw [if_pos (by rw [reporter]; rfl)]
  cases request with
  | get request => exact Or.inl (reads_get _ request)
  | postComponent =>
    rw [Request.program, denied]
    exact Or.inl (reads_fail _)
  | postEvent route data =>
    cases route with
    | incidents =>
      rw [Request.program, Handlers.postEvent, authorized, CreationRoute.middleware, denied]
      exact Or.inl (reads_fail _)
    | events =>
      cases system : isSystemIncident data with
      | true => exact Or.inr ⟨data, rfl, system⟩
      | false =>
        refine Or.inl ?_
        have refused : prepareIncidentCreate deployment caller data =
            validateEventCreation data >>= fun _ => .fail (.forbidden .insufficientRole) := by
          unfold prepareIncidentCreate
          rw [if_pos (by rw [reporter, system]; rfl)]
        rw [Request.program, Handlers.postEvent, authorized, CreationRoute.middleware]
        have handled : Reads (postIncidentHandler deployment caller data) := by
          unfold postIncidentHandler
          split_ifs
          · exact reads_fail _
          · rw [refused, Program.bind_assoc]
            exact reads_bind (reads_validateEventCreation data) (fun _ => reads_fail _)
        exact reads_bind (reads_pure ()) (fun _ => reads_bind (reads_pure ()) (fun _ =>
          reads_bind (reads_validateComponents _) (fun _ => handled)))
  | patchEvent =>
    rw [Request.program, Handlers.patchEvent, authorized, denied]
    exact Or.inl (reads_fail _)
  | extractEvent =>
    rw [Request.program, Handlers.extractEvent, authorized, denied]
    exact Or.inl (reads_fail _)
  | patchEventUpdateText =>
    rw [Request.program, Handlers.patchEventUpdateText, authorized, denied]
    exact Or.inl (reads_fail _)
  | notifications =>
    have refused : requireAdmin caller = .fail (.forbidden .authForbidden) := by
      unfold requireAdmin
      rw [if_neg (by rw [reporter]; decide)]
    rw [Request.program, authorized, refused]
    exact Or.inl (reads_fail _)

/-- The activity that a request is, if its handler writes event data. -/
def Request.activity (caller : Caller) : Request → Option Activity
  | .postEvent route data => some (.post route caller data)
  | .patchEvent id data => some (.patch caller id data)
  | .extractEvent id components => some (.extract caller id components)
  | .patchEventUpdateText id index text => some (.patchText caller id index text)
  | .get _ | .postComponent | .notifications => none

/-- Nobody but an administrator does more than activities do, if the handler that
creates components writes no event data. -/
theorem Request.acts {deployment : Deployment} {backends : Backends} {caller : Caller}
    (role : caller.role ≠ .admin) (quiet : Reads backends.postComponent) (request : Request) :
    (request.activity caller = none ∧ Reads (request.program deployment backends caller)) ∨
      ∃ activity, request.activity caller = some activity ∧
        request.program deployment backends caller = activity.program deployment := by
  cases request with
  | get request => exact Or.inl ⟨rfl, reads_get _ request⟩
  | postComponent =>
    exact Or.inl ⟨rfl, reads_bind (reads_denyReporterScope caller) (fun _ => quiet)⟩
  | notifications =>
    refine Or.inl ⟨rfl, reads_bind (reads_rbacAuthorization caller) (fun _ => ?_)⟩
    unfold requireAdmin
    rw [if_neg role]
    exact reads_fail _
  | _ => exact Or.inr ⟨_, rfl, rfl⟩

def noBackends : Backends where
  postComponent := pure .round
  notifications := pure .round

end StatusDashboard.Handlers
