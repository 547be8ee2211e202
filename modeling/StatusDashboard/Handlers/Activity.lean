import StatusDashboard.Checker.Info
import StatusDashboard.Handlers.Patch
import StatusDashboard.Handlers.Read
import StatusDashboard.Notification.Worker

namespace StatusDashboard.Handlers

open Event Storage Notification Process Checker

/-!
# Everything that acts on the store

An activity is one request, one round of a checker or one round of delivery.
A session is a list of activities run one after another; a pool runs any
number of them at the same time.
-/

inductive Activity where
  | post (route : CreationRoute) (caller : Caller) (data : IncidentData)
  | patch (caller : Caller) (id : Nat) (data : PatchIncidentData)
  | extract (caller : Caller) (id : Nat) (components : List Nat)
  | patchText (caller : Caller) (id index : Nat) (text : String)
  | checkMaintenance
  | checkInfo
  | drain (worker : Worker) (rounds : Nat)
  | redrive (ids : List Nat)
  | retention (rounds : Nat)

/-- A background round has nothing to answer. -/
def background (program : DbProgram Unit) : Handler Response := do
  internalOnError program
  pure .round

def Activity.program (deployment : Deployment) : Activity → Handler Response
  | .post route caller data => postEvent deployment route caller data
  | .patch caller id data => patchEvent deployment caller id data
  | .extract caller id components => extractEvent caller id components
  | .patchText caller id index text => patchEventUpdateText caller id index text
  | .checkMaintenance => background (Checker.checkMaintenance deployment.publisher)
  | .checkInfo => background Checker.checkInfoEvents
  | .drain worker rounds => background (Notification.drain worker rounds)
  | .redrive ids => background (Notification.redriveFailed ids)
  | .retention rounds => background (Notification.runRetention rounds)

/-- An activity that was run to its end, what it did and how it ended. -/
structure Performed where
  activity : Activity
  events : List DbEvent
  outcome : Except ApiError Response

/-- Activities run one after another, each to its end, successful or not. -/
inductive Session (deployment : Deployment) : Store → List Performed → Store → Prop
  | rest (store : Store) : Session deployment store [] store
  | step {store middle final : Store} {first : Performed} {later : List Performed}
      (run : Run database (first.activity.program deployment) store first.events first.outcome middle)
      (tail : Session deployment middle later final) :
      Session deployment store (first :: later) final

/-- The events of a session follow each other. -/
theorem Session.chained {deployment : Deployment} {store final : Store}
    {entries : List Performed} (session : Session deployment store entries final) :
    Chained store (entries.flatMap Performed.events) final := by
  induction session with
  | rest => rfl
  | step run tail ih =>
    rw [List.flatMap_cons, chained_append]
    exact ⟨_, run.2, ih⟩

/-- Run listed activities one after another, each under one choice of the
environment. -/
def replay (deployment : Deployment) :
    List (Activity × Choice) → Store → List Performed × Store
  | [], store => ([], store)
  | (activity, choice) :: later, store =>
    let program := activity.program deployment
    let outcome := program.evaluate database choice store
    let rest := replay deployment later outcome.2
    ({ activity := activity
       events := program.trail database choice store
       outcome := outcome.1 } :: rest.1, rest.2)

theorem replay_session (deployment : Deployment) (activities : List (Activity × Choice))
    (store : Store) : Session deployment store (replay deployment activities store).1
      (replay deployment activities store).2 := by
  induction activities generalizing store with
  | nil => exact .rest store
  | cons first later ih =>
    exact .step (Program.evaluate_run database first.2 (first.1.program deployment) store) (ih _)

/-- Activities run at the same time, each statement and transaction atomic. -/
abbrev Pool {ι : Type} [DecidableEq ι] (deployment : Deployment) (activities : ι → Activity)
    (store : Store) (trace : List (ι × DbEvent)) (final : Store) : Prop :=
  Interleaving database (fun party => (activities party).program deployment) store trace final

/-! ## Inputs of concrete runs -/

/-- A deployment that sends no notifications. -/
def quietDeployment : Deployment where
  publisher := none
  parseAddress _ := true

def anAdmin : Caller where
  userID := some "admin"
  email := none
  role := .admin

/-- A faultless environment whose clock shows `now`. -/
def atTime (now : Time) : Choice where
  now := now

/-- A database without events that knows some components. -/
def bareStore (components : Nat) : Store :=
  { Store.empty with
    components := ⟨List.replicate components (some { name := "component", attrs := [] })⟩
    componentExists := by simp [Store.empty] }

/-- A report of an incident that has just started. -/
def incidentReport (system : Bool) (components : List Nat) (impact : Int) : IncidentData where
  title := "Incident"
  description := "Incident"
  impact := impact
  components := components
  startDate := 10
  endDate := none
  system := some system
  type := .incident
  updates := []
  contactEmail := ""
  status := .unset

/-- A maintenance of component 1. -/
def maintenanceRequest (startDate endDate : Time) : IncidentData where
  title := "Maintenance"
  description := "Maintenance"
  impact := 0
  components := [1]
  startDate := startDate
  endDate := some endDate
  system := none
  type := .maintenance
  updates := []
  contactEmail := ""
  status := .unset

/-- A request that changes nothing but the status. -/
def statusPatch (status : Status) (updateDate : Time) (version : Option Int) :
    PatchIncidentData where
  title := none
  description := none
  impact := none
  message := "update"
  status := status
  updateDate := updateDate
  startDate := none
  endDate := none
  type := none
  version := version

end StatusDashboard.Handlers
