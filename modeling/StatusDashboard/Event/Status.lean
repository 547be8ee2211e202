import Mathlib

namespace StatusDashboard.Event

/-!
# Event types and statuses

An event is an incident, a maintenance or an informational notice.  The status
column is free text in the database; the texts the program knows are
constructors here and any other text is kept verbatim in `other`.  `unset` is
the empty text, which the program uses for "no status".
-/

inductive EventType where
  | information
  | incident
  | maintenance
deriving DecidableEq, Repr

inductive Status where
  | unset
  | outDatedSystem
  | detected
  | analysing
  | fixing
  | impactChanged
  | observing
  | resolved
  | reopened
  | changed
  | pendingReview
  | reviewed
  | planned
  | inProgress
  | modified
  | completed
  | cancelled
  | active
  | other (text : String)
deriving DecidableEq, Repr

def Status.text : Status → String
  | .unset => ""
  | .outDatedSystem => "SYSTEM"
  | .detected => "detected"
  | .analysing => "analysing"
  | .fixing => "fixing"
  | .impactChanged => "impact changed"
  | .observing => "observing"
  | .resolved => "resolved"
  | .reopened => "reopened"
  | .changed => "changed"
  | .pendingReview => "pending_review"
  | .reviewed => "reviewed"
  | .planned => "planned"
  | .inProgress => "in_progress"
  | .modified => "modified"
  | .completed => "completed"
  | .cancelled => "cancelled"
  | .active => "active"
  | .other text => text

def incidentDetectedText : String := "The incident is detected."

def maintenancePendingReviewText : String := "Maintenance is pending_review."

def maintenancePlannedText : String := "Maintenance is planned."

def maintenanceInProgressText : String := "Maintenance is in_progress."

def maintenanceCompletedText : String := "Maintenance is completed."

def infoPlannedText : String := "The informational notification is planned."

def infoActiveText : String := "The informational notification is active."

def infoCompletedText : String := "The informational notification is completed."

def isIncidentOpenStatus : Status → Bool
  | .detected | .analysing | .fixing | .impactChanged | .observing | .resolved => true
  | _ => false

def isIncidentClosedStatus : Status → Bool
  | .reopened | .changed => true
  | _ => false

def isMaintenanceStatus : Status → Bool
  | .pendingReview | .reviewed | .planned | .inProgress | .modified | .completed
  | .cancelled => true
  | _ => false

def isInformationStatus : Status → Bool
  | .planned | .active | .completed | .cancelled => true
  | _ => false

/-- The statuses that publish a maintenance. -/
def isPublicMaintenanceStatus : Status → Bool
  | .planned | .inProgress | .modified | .completed => true
  | _ => false

end StatusDashboard.Event
