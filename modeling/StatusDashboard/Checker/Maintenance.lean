import StatusDashboard.Handlers.Request

namespace StatusDashboard.Checker

open Event Storage Notification Process

/-!
# The maintenance checker

One round loads all maintenances, skips drafts, and for each one whose status
differs from the one its history and the clock call for, loads it again,
completes its history and writes it back under its version.
-/

structure MntStatusHistory where
  hasReviewed : Bool
  hasPlanned : Bool
  hasInProgress : Bool
  hasCompleted : Bool
  hasCancelled : Bool
deriving DecidableEq, Repr

/-- Whether a copy has an update with a status. -/
def hasUpdate (mn : Incident) (status : Status) : Bool :=
  mn.statuses.any (fun update => update.status == status)

def calculateMntStatusHistory (mn : Incident) : MntStatusHistory where
  hasReviewed := hasUpdate mn .reviewed
  hasPlanned := hasUpdate mn .planned
  hasInProgress := hasUpdate mn .inProgress
  hasCompleted := hasUpdate mn .completed
  hasCancelled := hasUpdate mn .cancelled

/-- The status at a time, without the rules for cancelled and reviewed. -/
def mntStatusAt (now : Time) (mn : Incident) : Status :=
  let startDate := mn.startDate.getD zeroTime
  if now < startDate then .planned
  else if startDate < now && mn.endDate.all (fun date => now < date) then .inProgress
  else .completed

/-- The clock is read only when the history and the status leave it open. -/
def calculateCurrentMntStatus (history : MntStatusHistory) (mn : Incident) : DbProgram Status :=
  if history.hasCancelled then pure .cancelled
  else if mn.status = .reviewed then pure .planned
  else do
    let now ← currentTime
    pure (mntStatusAt now mn)

def addUpdate (mn : Incident) (status : Status) (text : String) (timestamp : Time) : Incident :=
  { mn with
    statuses := mn.statuses ++ [{
      incidentId := mn.id, status := status, text := text, timestamp := timestamp }] }

def fixMntPlanned (history : MntStatusHistory) (mn : Incident) : MntStatusHistory × Incident :=
  if history.hasPlanned then (history, mn)
  else ({ history with hasPlanned := true },
    addUpdate mn .planned maintenancePlannedText (mn.startDate.getD zeroTime))

def fixMntInProgress (history : MntStatusHistory) (mn : Incident) : MntStatusHistory × Incident :=
  let fixed := fixMntPlanned history mn
  if fixed.1.hasInProgress then fixed
  else ({ fixed.1 with hasInProgress := true },
    addUpdate fixed.2 .inProgress maintenanceInProgressText (mn.startDate.getD zeroTime))

/-- Completing dereferences the end date. -/
def fixMntCompleted (history : MntStatusHistory) (mn : Incident) :
    Option (MntStatusHistory × Incident) :=
  let fixed := fixMntInProgress history mn
  if fixed.1.hasCompleted then some fixed
  else match mn.endDate with
    | none => none
    | some endDate => some ({ fixed.1 with hasCompleted := true },
        addUpdate fixed.2 .completed maintenanceCompletedText endDate)

/-- Append the updates a computed status presupposes.  A cancelled maintenance
gets a planned update only if it was reviewed or planned before. -/
def fixMntMissedStatuses (status : Status) (history : MntStatusHistory) (mn : Incident) :
    Option Incident :=
  match status with
  | .planned => some (fixMntPlanned history mn).2
  | .inProgress => some (fixMntInProgress history mn).2
  | .completed => (fixMntCompleted history mn).map Prod.snd
  | .cancelled =>
    if history.hasReviewed || history.hasPlanned then some (fixMntPlanned history mn).2
    else some mn
  | _ => some mn

def needsRefetch (mn : Incident) : DbProgram Bool := do
  let status ← calculateCurrentMntStatus (calculateMntStatusHistory mn) mn
  pure (mn.status != status)

/-- Load, complete and write one maintenance under its version. -/
def refreshMaintenance (publisher : Option Publisher) (id : Nat) : DbProgram Unit := do
  let fresh ← getIncident id
  let actualStatus ← calculateCurrentMntStatus (calculateMntStatusHistory fresh) fresh
  match fixMntMissedStatuses actualStatus (calculateMntStatusHistory fresh) fresh with
  | none => .fail .nilDereference
  | some fixed =>
    if fresh.status = actualStatus then pure ()
    else do
      let _ ← write (.checkerPatch publisher { fixed with status := actualStatus } fresh.status)
      pure ()

def processMaintenance (publisher : Option Publisher) (mn : Incident) : DbProgram Unit := do
  let changes ← needsRefetch mn
  if changes then refreshMaintenance publisher mn.id else pure ()

/-- A failed event is logged and the next one is taken. -/
def processMaintenances (publisher : Option Publisher) : List Incident → DbProgram Unit
  | [] => pure ()
  | mn :: others => do
      if mn.status = .pendingReview then
        processMaintenances publisher others
      else
        let outcome ← (processMaintenance publisher mn).attempt
        if outcome = .error .nilDereference then .fail .nilDereference
        else processMaintenances publisher others

def checkMaintenance (publisher : Option Publisher) : DbProgram Unit := do
  let maintenances ← getMaintenances
  processMaintenances publisher maintenances

end StatusDashboard.Checker
