import StatusDashboard.Process.Interleaving
import StatusDashboard.Storage.Outbox

namespace StatusDashboard.Storage

open Event Tables Notification Process

/-!
# Operations

The atomic steps of the system: one clock reading, one read statement, one
write transaction or one email.  Every handler, checker round and delivery
round is a program over these.

`EventWrite` names the transactions on events with the values they capture, and
`OutboxWrite` those on the outbox.  A write transaction that fails, by itself
or by a fault of the database, leaves the store as it was.
-/

/-! ## The transactions that also publish -/

/-- A missing text reads as the empty one. -/
def strDeref (text : Option String) : String := text.getD ""

def publishMaintenanceChange (publisher : Option Publisher) (now : Time) (changeId : String)
    (incident : Incident) (oldStatus : Status) (userID : Option String) : Tx Unit :=
  if Publisher.isEnabled publisher = false ∨ incident.type ≠ .maintenance then pure ()
  else publishTx publisher now changeId
    { incidentId := incident.id
      title := strDeref incident.text
      oldStatus := oldStatus
      newStatus := incident.status
      contactEmail := strDeref incident.contactEmail
      actor := strDeref userID }

/-- The first status of a new event and the text it is announced with. -/
def initialStatus (incident : Incident) : Status × String :=
  match incident.type with
  | .information => (.planned, infoPlannedText)
  | .maintenance =>
    if incident.status = .pendingReview then (.pendingReview, maintenancePendingReviewText)
    else (.planned, maintenancePlannedText)
  | .incident => (.detected, incidentDetectedText)

/-- The new event with its first update; a start in the past dates the update. -/
def withInitialStatus (now : Time) (userID : Option String) (incident : Incident) : Incident :=
  let startDate := incident.startDate.getD now
  { incident with
    statuses := incident.statuses ++ [{
      incidentId := incident.id
      status := (initialStatus incident).1
      text := (initialStatus incident).2
      timestamp := if startDate < now then startDate else now
      createdBy := userID }]
    status := (initialStatus incident).1 }

def createEventTx (publisher : Option Publisher) (now : Time) (changeId : String)
    (incident : Incident) (userID : Option String) : Tx Incident := do
  let saved ← saveIncidentTx now incident
  let modified ← modifyIncident now (withInitialStatus now userID saved)
  publishMaintenanceChange publisher now changeId modified .unset userID
  pure modified

def persistPatchTx (publisher : Option Publisher) (now : Time) (changeId : String)
    (stored : Incident) (oldStatus : Status) (userID : Option String) : Tx Incident := do
  let modified ← modifyIncident now stored
  if stored.status = oldStatus then
    pure modified
  else
    publishMaintenanceChange publisher now changeId modified oldStatus userID
    pure modified

def checkerPatchTx (publisher : Option Publisher) (now : Time) (changeId : String)
    (fresh : Incident) (oldStatus : Status) : Tx Incident := do
  let modified ← modifyIncident now fresh
  publishTx publisher now changeId
    { incidentId := modified.id
      title := strDeref modified.text
      oldStatus := oldStatus
      newStatus := modified.status
      contactEmail := strDeref modified.contactEmail
      actor := actorChecker }
  pure modified

/-! ## Named transactions -/

inductive EventWrite : Type → Type where
  | createEvent (publisher : Option Publisher) (incident : Incident) (userID : Option String) :
      EventWrite Incident
  | persistPatch (publisher : Option Publisher) (stored : Incident) (oldStatus : Status)
      (userID : Option String) : EventWrite Incident
  | checkerPatch (publisher : Option Publisher) (fresh : Incident) (oldStatus : Status) :
      EventWrite Incident
  | modifyIncident (incident : Incident) : EventWrite Incident
  | saveIncident (incident : Incident) : EventWrite Incident
  | addComponent (incident : Incident) (component : Component) (status : IncidentStatus) :
      EventWrite Incident
  | moveComponent (component : Component) (incOld incNew : Incident) (closeOld : Bool) :
      EventWrite (Incident × Incident)
  | extractComponents (components : List Component) (incident incOld : Incident) :
      EventWrite (Incident × Incident)
  | increaseImpact (timeNow : Time) (incident : Incident) (status : IncidentStatus) :
      EventWrite Unit
  | reOpenIncident (id : Nat) : EventWrite Unit
  | modifyEventUpdate (update : IncidentStatus) : EventWrite IncidentStatus

inductive OutboxWrite : Type → Type where
  | claimPending (limit : Nat) (leaseOwner : String) :
      OutboxWrite (List (Nat × NotificationOutbox))
  | markSent (id : Nat) : OutboxWrite Unit
  | markFailed (id : Nat) (errText : String) (attempts maxAttempts : Int) (retryAt : Time) :
      OutboxWrite Unit
  | markFailedTerminal (id : Nat) (errText : String) : OutboxWrite Unit
  | recoverStaleProcessing (leaseTimeout : Time) (maxAttempts : Int) :
      OutboxWrite (List (Nat × NotificationOutbox))
  | redriveFailed (ids : List Nat) : OutboxWrite Nat
  | deleteSentBatch (before : Time) (batchSize : Nat) : OutboxWrite Nat

/-- How the mail server answered. -/
inductive SendResult where
  | accepted
  | rejected (permanent : Bool) (errText : String)
deriving DecidableEq, Repr

inductive Op : Type → Type 1 where
  | now : Op Time
  | read {β : Type} (query : Query β) : Op (Except DbError β)
  | write {β : Type} (statement : EventWrite β) : Op (Except DbError β)
  | deliver {β : Type} (statement : OutboxWrite β) : Op (Except DbError β)
  | send (id : Nat) (row : NotificationOutbox) : Op SendResult
  | backoff (attempts : Int) : Op Time

/-- What the surroundings decide at one operation: the clock, the order of
equal rows, whether the database fails, the random change id, the answer of
the mail server, the retry time and the rows other transactions hold. -/
structure Choice where
  now : Time := 0
  rank : Nat → Nat := fun id => id
  fault : Bool := false
  changeId : String := ""
  sent : SendResult := .accepted
  retryAt : Time := 0
  locked : List Nat := []

def EventWrite.exec (choice : Choice) : {β : Type} → EventWrite β → Tx β
  | _, .createEvent publisher incident userID =>
    createEventTx publisher choice.now choice.changeId incident userID
  | _, .persistPatch publisher stored oldStatus userID =>
    persistPatchTx publisher choice.now choice.changeId stored oldStatus userID
  | _, .checkerPatch publisher fresh oldStatus =>
    checkerPatchTx publisher choice.now choice.changeId fresh oldStatus
  | _, .modifyIncident incident => Storage.modifyIncident choice.now incident
  | _, .saveIncident incident => saveIncidentTx choice.now incident
  | _, .addComponent incident component status =>
    addComponentTx choice.now incident component status
  | _, .moveComponent component incOld incNew closeOld =>
    moveComponentTx choice.now component incOld incNew closeOld
  | _, .extractComponents components incident incOld =>
    extractComponentsTx choice.now components incident incOld
  | _, .increaseImpact timeNow incident status => increaseImpactTx timeNow incident status
  | _, .reOpenIncident id => reOpenIncidentTx id
  | _, .modifyEventUpdate update => modifyEventUpdateTx choice.now update

def OutboxWrite.exec (choice : Choice) : {β : Type} → OutboxWrite β → Tx β
  | _, .claimPending limit leaseOwner => claimPendingTx choice.now choice.locked limit leaseOwner
  | _, .markSent id => markSentTx choice.now id
  | _, .markFailed id errText attempts maxAttempts retryAt =>
    markFailedTx choice.now id errText attempts maxAttempts retryAt
  | _, .markFailedTerminal id errText => markFailedTerminalTx choice.now id errText
  | _, .recoverStaleProcessing leaseTimeout maxAttempts =>
    recoverStaleProcessingTx choice.now choice.locked leaseTimeout maxAttempts
  | _, .redriveFailed ids => redriveFailedTx choice.now ids
  | _, .deleteSentBatch before batchSize => deleteSentBatchTx before batchSize

/-- Commit a transaction, or report why it had no effect. -/
def commit {β : Type} (choice : Choice) (transaction : Tx β) (store : Store) :
    Except DbError β × Store :=
  if choice.fault then (.error .driver, store)
  else match transaction store with
    | .ok (value, final) => (.ok value, final)
    | .error error => (.error error, store)

/-- The shared database and the mail server. -/
def database : Machine Op Choice Store where
  perform choice operation store :=
    match operation with
    | .now => (choice.now, store)
    | .read query =>
      (if choice.fault then .error .driver else query.eval choice.rank store, store)
    | .write statement => commit choice (statement.exec choice) store
    | .deliver statement => commit choice (statement.exec choice) store
    | .send _ _ => (choice.sent, store)
    | .backoff _ => (choice.retryAt, store)

abbrev DbProgram (α : Type) := Program Op DbError α

abbrev DbEvent := Process.Event Op Store

/-! ## What an operation does to the store -/

@[simp] theorem perform_read {β : Type} (choice : Choice) (query : Query β) (store : Store) :
    database.perform choice (.read query) store =
      (if choice.fault then .error .driver else query.eval choice.rank store, store) := rfl

@[simp] theorem perform_write {β : Type} (choice : Choice) (statement : EventWrite β)
    (store : Store) :
    database.perform choice (.write statement) store =
      commit choice (statement.exec choice) store := rfl

@[simp] theorem perform_deliver {β : Type} (choice : Choice) (statement : OutboxWrite β)
    (store : Store) :
    database.perform choice (.deliver statement) store =
      commit choice (statement.exec choice) store := rfl

/-- A transaction either commits its whole effect or leaves the store alone. -/
theorem commit_cases {β : Type} (choice : Choice) (transaction : Tx β) (store : Store) :
    (∃ error, commit choice transaction store = (.error error, store)) ∨
      (∃ value final, transaction store = .ok (value, final) ∧
        commit choice transaction store = (.ok value, final)) := by
  unfold commit
  split_ifs
  · exact Or.inl ⟨_, rfl⟩
  · cases transaction store with
    | error error => exact Or.inl ⟨error, rfl⟩
    | ok pair => exact Or.inr ⟨pair.1, pair.2, rfl, rfl⟩

end StatusDashboard.Storage
