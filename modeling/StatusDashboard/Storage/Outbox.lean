import StatusDashboard.Notification.Resolver
import StatusDashboard.Storage.Write

namespace StatusDashboard.Storage

open Event Tables Notification

/-!
# Outbox statements

Enqueueing happens inside the transaction of the change it announces.  The
delivery statements are transactions of their own: claiming due rows, recording
an outcome, taking back rows whose lease ran out, re-driving failed rows and
pruning delivered ones.
-/

namespace NotificationOutbox

def storable (row : NotificationOutbox) : Bool :=
  row.kind.text.length ≤ 64 && row.recipient.length ≤ 255 && row.dedupKey.length ≤ 255

/-- Whether a row may be claimed. -/
def due (now : Time) (row : NotificationOutbox) : Bool :=
  row.status == .pending && row.nextAttemptAt.all (fun time => time ≤ now)

def claimed (now : Time) (leaseOwner : String) (row : NotificationOutbox) : NotificationOutbox :=
  { row with
    status := .processing
    attempts := row.attempts + 1
    lockedBy := some leaseOwner
    lockedAt := some now
    updatedAt := now }

def markedSent (now : Time) (row : NotificationOutbox) : NotificationOutbox :=
  { row with
    status := .sent
    lockedBy := none
    lockedAt := none
    lastError := none
    updatedAt := now }

/-- The outcome of a failed attempt, decided from the attempts read before. -/
def markedFailed (now : Time) (errText : String) (attempts maxAttempts : Int) (retryAt : Time)
    (row : NotificationOutbox) : NotificationOutbox :=
  if maxAttempts ≤ attempts then
    { row with
      status := .failed
      nextAttemptAt := none
      lastError := some errText
      lockedBy := none
      lockedAt := none
      updatedAt := now }
  else
    { row with
      status := .pending
      nextAttemptAt := some retryAt
      lastError := some errText
      lockedBy := none
      lockedAt := none
      updatedAt := now }

def markedFailedTerminal (now : Time) (errText : String) (row : NotificationOutbox) :
    NotificationOutbox :=
  { row with
    status := .failed
    lastError := some errText
    nextAttemptAt := none
    lockedBy := none
    lockedAt := none
    updatedAt := now }

/-- Whether the lease of a row ran out before `cutoff`. -/
def stale (cutoff : Time) (row : NotificationOutbox) : Bool :=
  row.status == .processing && row.lockedAt.any (fun time => time < cutoff)

def recovered (now : Time) (maxAttempts : Int) (row : NotificationOutbox) : NotificationOutbox :=
  if maxAttempts ≤ row.attempts then
    { row with
      status := .failed
      nextAttemptAt := none
      lockedBy := none
      lockedAt := none
      updatedAt := now }
  else
    { row with
      status := .pending
      nextAttemptAt := some now
      lockedBy := none
      lockedAt := none
      updatedAt := now }

def redriven (now : Time) (row : NotificationOutbox) : NotificationOutbox :=
  { row with
    status := .pending
    attempts := 0
    nextAttemptAt := some now
    lastError := none
    lockedBy := none
    lockedAt := none
    updatedAt := now }

end NotificationOutbox

/-! ## Enqueueing -/

def rowExists (store : Store) (dedupKey : String) : Bool :=
  store.outbox.rows.any (fun entry => entry.2.dedupKey == dedupKey)

/-- Insert a row unless its key is taken; tell whether it was inserted. -/
def enqueue (row : NotificationOutbox) : Tx Bool := fun store =>
  if row.dedupKey = "" then .error .dedupKeyRequired
  else if rowExists store row.dedupKey then .ok (false, store)
  else if row.storable ∧ (store.incidents.get? row.incidentId).isSome then
    .ok (true, store.insertOutbox row)
  else .error .constraint

def enqueueAll : List NotificationOutbox → Tx Unit
  | [] => pure ()
  | row :: rows => do
      let _ ← enqueue row
      enqueueAll rows

/-- Enqueue the rows of a change; a duplicate was notified before and is skipped. -/
def publishTx (publisher : Option Publisher) (now : Time) (changeId : String) (change : Change) :
    Tx Unit :=
  match publisher with
  | none => pure ()
  | some publisher =>
    if publisher.enabled then
      enqueueAll (publisher.resolver.buildRows now changeId change)
    else pure ()

/-! ## Delivery

The statements that claim and take back rows skip those in `locked`, which other
transactions hold. -/

def claimPendingTx (now : Time) (locked : List Nat) (limit : Nat) (leaseOwner : String) :
    Tx (List (Nat × NotificationOutbox)) := fun store =>
  let picked := (store.outbox.rows.filter (fun entry =>
    entry.2.due now && !locked.contains entry.1)).take limit
  .ok (picked.map (fun entry => (entry.1, entry.2.claimed now leaseOwner)),
    { store with outbox := store.outbox.alter (fun id row =>
        some (if id ∈ picked.map Prod.fst then row.claimed now leaseOwner else row)) })

/-- Rewrite one row by id only; report a missing one. -/
def updateOutboxRow (id : Nat) (rewrite : NotificationOutbox → NotificationOutbox) :
    Tx Bool := fun store =>
  match store.outbox.get? id with
  | none => .ok (false, store)
  | some _ => .ok (true, { store with outbox := store.outbox.update id rewrite })

def requireAffected (affected : Bool) : Tx Unit :=
  if affected then pure () else Tx.fail .notificationNotFound

def markSentTx (now : Time) (id : Nat) : Tx Unit := do
  let affected ← updateOutboxRow id (NotificationOutbox.markedSent now)
  requireAffected affected

def markFailedTx (now : Time) (id : Nat) (errText : String) (attempts maxAttempts : Int)
    (retryAt : Time) : Tx Unit := do
  let _ ← updateOutboxRow id
    (NotificationOutbox.markedFailed now errText attempts maxAttempts retryAt)
  pure ()

def markFailedTerminalTx (now : Time) (id : Nat) (errText : String) : Tx Unit := do
  let affected ← updateOutboxRow id (NotificationOutbox.markedFailedTerminal now errText)
  requireAffected affected

/-- The update repeats the condition of the select, so it hits only rows that
are still stale. -/
def recoverStaleProcessingTx (now : Time) (locked : List Nat) (leaseTimeout : Time)
    (maxAttempts : Int) : Tx (List (Nat × NotificationOutbox)) := fun store =>
  let hit := fun (id : Nat) (row : NotificationOutbox) =>
    row.stale (now - leaseTimeout) && !locked.contains id
  .ok ((store.outbox.rows.filter (fun entry => hit entry.1 entry.2)).map (fun entry =>
      (entry.1, entry.2.recovered now maxAttempts)),
    { store with outbox := store.outbox.alter (fun id row =>
        some (if hit id row then row.recovered now maxAttempts else row)) })

def redriveFailedTx (now : Time) (ids : List Nat) : Tx Nat := fun store =>
  let hit := fun (id : Nat) (row : NotificationOutbox) =>
    row.status == .failed && (ids.isEmpty || ids.contains id)
  .ok ((store.outbox.rows.filter (fun entry => hit entry.1 entry.2)).length,
    { store with outbox := store.outbox.alter (fun id row =>
        some (if hit id row then row.redriven now else row)) })

def deleteSentBatchTx (before : Time) (batchSize : Nat) : Tx Nat := fun store =>
  let picked := ((store.outbox.rows.filter (fun entry =>
    entry.2.status == .sent && entry.2.updatedAt < before)).take batchSize).map Prod.fst
  .ok (picked.length,
    { store with outbox := store.outbox.alter (fun id row =>
        if id ∈ picked then none else some row) })

end StatusDashboard.Storage
