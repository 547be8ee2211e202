import StatusDashboard.Checker.Maintenance

namespace StatusDashboard.Checker

open Event Storage Process

/-!
# The info checker

One round loads all informational events and writes back each one whose status
differs from the one its history and the clock call for.  Nothing is loaded
again before the write, and the write does not check a version.
-/

structure InfoStatusHistory where
  hasPlanned : Bool
  hasActive : Bool
  hasCompleted : Bool
  hasCancelled : Bool
deriving DecidableEq, Repr

def calculateInfoStatusHistory (info : Incident) : InfoStatusHistory where
  hasPlanned := hasUpdate info .planned
  hasActive := hasUpdate info .active
  hasCompleted := hasUpdate info .completed
  hasCancelled := hasUpdate info .cancelled

def infoStatusAt (now : Time) (info : Incident) : Status :=
  let startDate := info.startDate.getD zeroTime
  if now < startDate then .planned
  else if startDate < now && info.endDate.all (fun date => now < date) then .active
  else .completed

def calculateCurrentInfoStatus (history : InfoStatusHistory) (info : Incident) :
    DbProgram Status :=
  if history.hasCancelled then pure .cancelled
  else do
    let now ← currentTime
    pure (infoStatusAt now info)

def fixInfoPlanned (history : InfoStatusHistory) (info : Incident) :
    InfoStatusHistory × Incident :=
  if history.hasPlanned then (history, info)
  else ({ history with hasPlanned := true },
    addUpdate info .planned infoPlannedText (info.startDate.getD zeroTime))

def fixInfoActive (history : InfoStatusHistory) (info : Incident) :
    InfoStatusHistory × Incident :=
  let fixed := fixInfoPlanned history info
  if fixed.1.hasActive then fixed
  else ({ fixed.1 with hasActive := true },
    addUpdate fixed.2 .active infoActiveText (info.startDate.getD zeroTime))

/-- Completing dereferences the end date. -/
def fixInfoCompleted (history : InfoStatusHistory) (info : Incident) :
    Option (InfoStatusHistory × Incident) :=
  let fixed := fixInfoActive history info
  if fixed.1.hasCompleted then some fixed
  else match info.endDate with
    | none => none
    | some endDate => some ({ fixed.1 with hasCompleted := true },
        addUpdate fixed.2 .completed infoCompletedText endDate)

def fixInfoMissedStatuses (status : Status) (history : InfoStatusHistory) (info : Incident) :
    Option Incident :=
  match status with
  | .planned => some (fixInfoPlanned history info).2
  | .active => some (fixInfoActive history info).2
  | .completed => (fixInfoCompleted history info).map Prod.snd
  | .cancelled => some (fixInfoPlanned history info).2
  | _ => some info

/-- A failed write ends the round. -/
def processInfoEvents : List Incident → DbProgram Unit
  | [] => pure ()
  | info :: others => do
      let actualStatus ← calculateCurrentInfoStatus (calculateInfoStatusHistory info) info
      match fixInfoMissedStatuses actualStatus (calculateInfoStatusHistory info) info with
      | none => .fail .nilDereference
      | some fixed =>
        if info.status = actualStatus then processInfoEvents others
        else do
          let _ ← write (.modifyIncident { fixed with status := actualStatus })
          processInfoEvents others

def checkInfoEvents : DbProgram Unit := do
  let infos ← getInfoEvents
  processInfoEvents infos

end StatusDashboard.Checker
