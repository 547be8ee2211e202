import StatusDashboard.Storage.Model

namespace StatusDashboard.Notification

open Event Storage

/-!
# Who is notified of a change

A maintenance change is turned into one outbox row for each recipient.  The
review audience comes from the configuration, the creator's address from the
change.  Lower-casing and trimming an address are functions of the standard
library; they are fields of `Resolver`, so that nothing here depends on how
they treat a particular character.
-/

structure Resolver where
  smod : String
  operators : List String
  admins : List String
  excluded : List String
  allowed : List String
  baseURL : String
  toLower : String → String
  trimSpace : String → String

/-- A committed maintenance change. -/
structure Change where
  incidentId : Nat
  title : String
  oldStatus : Status
  newStatus : Status
  contactEmail : String
  actor : String
deriving DecidableEq, Repr

/-- The actor recorded for automatic transitions. -/
def actorChecker : String := "checker"

def kindForStatus : Status → NotificationKind
  | .pendingReview => .pendingReview
  | .reviewed => .reviewed
  | _ => .statusChanged

def isReviewStatus (status : Status) : Bool :=
  status == .pendingReview || status == .reviewed

namespace Resolver

def normalizeEmail (resolver : Resolver) (email : String) : String :=
  resolver.toLower (resolver.trimSpace email)

/-- The characters after the last `@`, if there is one. -/
def domainOf (email : List Char) : Option (List Char) :=
  if '@' ∈ email then some (email.reverse.takeWhile (fun c => c ≠ '@')).reverse else none

/-- An empty allow-list permits every domain. -/
def allowedDomain (resolver : Resolver) (allowed : List String) (email : String) : Bool :=
  if allowed = [] then true
  else match domainOf email.toList with
    | none => false
    | some domain => allowed.contains (resolver.normalizeEmail (String.ofList domain))

/-- Append an address unless it is empty, excluded or already listed. -/
def add (resolver : Resolver) (ordered : List String) (raw : String) : List String :=
  let email := resolver.normalizeEmail raw
  if email = "" then ordered
  else if email ∈ resolver.excluded.map resolver.normalizeEmail then ordered
  else if email ∈ ordered then ordered
  else ordered ++ [email]

def recipients (resolver : Resolver) (status : Status) (contactEmail : String) : List String :=
  let audience := if isReviewStatus status then
      (resolver.smod :: resolver.operators ++ resolver.admins).foldl resolver.add []
    else []
  if resolver.allowedDomain resolver.allowed contactEmail then
    resolver.add audience contactEmail
  else audience

def dedupKey (incidentID : Nat) (kind : NotificationKind) (oldStatus newStatus : Status)
    (recipient : String) : String :=
  toString incidentID ++ ":" ++ kind.text ++ ":" ++ oldStatus.text ++ ">" ++ newStatus.text ++
    ":" ++ recipient

def link (resolver : Resolver) (incidentID : Nat) : String :=
  resolver.baseURL ++ "/incidents/" ++ toString incidentID

def buildPayload (change : Change) (changedAt : Time) (link : String) : Payload where
  incidentId := toString change.incidentId
  title := change.title
  oldStatus := change.oldStatus.text
  newStatus := change.newStatus.text
  actor := change.actor
  changedAt := changedAt
  link := link

/-- One pending row for a recipient of a change. -/
def buildRow (resolver : Resolver) (changedAt : Time) (changeId : String) (change : Change)
    (recipient : String) : NotificationOutbox where
  kind := kindForStatus change.newStatus
  incidentId := change.incidentId
  recipient := recipient
  payload := buildPayload change changedAt (resolver.link change.incidentId)
  changeId := changeId
  dedupKey := dedupKey change.incidentId (kindForStatus change.newStatus) change.oldStatus
    change.newStatus recipient
  status := .pending
  attempts := 0
  nextAttemptAt := none
  lockedBy := none
  lockedAt := none
  lastError := none
  createdAt := changedAt
  updatedAt := changedAt

def buildRows (resolver : Resolver) (changedAt : Time) (changeId : String) (change : Change) :
    List NotificationOutbox :=
  (resolver.recipients change.newStatus change.contactEmail).map
    (resolver.buildRow changedAt changeId change)

theorem add_nodup (resolver : Resolver) {ordered : List String} (raw : String)
    (nodup : ordered.Nodup) : (resolver.add ordered raw).Nodup := by
  unfold add
  dsimp only
  split_ifs with missing excluded listed
  · exact nodup
  · exact nodup
  · exact nodup
  · rw [List.nodup_append]
    refine ⟨nodup, List.nodup_singleton _, ?_⟩
    intro first member second added
    rw [List.mem_singleton.mp added]
    rintro rfl
    exact listed member

/-- Nobody is notified twice of one change. -/
theorem recipients_nodup (resolver : Resolver) (status : Status) (contactEmail : String) :
    (resolver.recipients status contactEmail).Nodup := by
  have folded : ∀ (addresses ordered : List String), ordered.Nodup →
      (addresses.foldl resolver.add ordered).Nodup := by
    intro addresses
    induction addresses with
    | nil => exact fun ordered nodup => nodup
    | cons address addresses ih =>
      intro ordered nodup
      exact ih _ (resolver.add_nodup address nodup)
  unfold recipients
  dsimp only
  split_ifs
  · exact resolver.add_nodup _ (folded _ _ List.nodup_nil)
  · exact resolver.add_nodup _ List.nodup_nil
  · exact folded _ _ List.nodup_nil
  · exact List.nodup_nil

/-- Keys of one change to two recipients differ. -/
theorem dedupKey_recipient_inj {incidentID : Nat} {kind : NotificationKind}
    {oldStatus newStatus : Status} {first second : String}
    (equal : dedupKey incidentID kind oldStatus newStatus first =
      dedupKey incidentID kind oldStatus newStatus second) : first = second := by
  unfold dedupKey at equal
  exact String.append_right_inj _ |>.mp equal

end Resolver

/-- The publisher of a deployment; a missing one is no publisher at all. -/
structure Publisher where
  enabled : Bool
  resolver : Resolver
  allowedDomains : List String

namespace Publisher

def isEnabled : Option Publisher → Bool
  | none => false
  | some publisher => publisher.enabled

/-- Whether a user-supplied address may receive notifications. -/
def allowsDomain : Option Publisher → String → Bool
  | none, _ => true
  | some publisher, email =>
    !publisher.enabled || publisher.resolver.allowedDomain publisher.allowedDomains email

def allowedDomainList : Option Publisher → List String
  | none => []
  | some publisher => publisher.allowedDomains

end Publisher

end StatusDashboard.Notification
