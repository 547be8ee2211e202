import StatusDashboard.Storage.Database

namespace StatusDashboard.Notification

open Storage Process

/-!
# Delivery

A worker takes back rows whose lease ran out, then claims due rows one batch
after another, sends them and records each outcome by the id of the row.  The
email is sent outside any transaction.  Any number of workers may run, and
failed rows may be re-driven and delivered ones pruned at any time.
-/

structure Worker where
  leaseOwner : String
  leaseTimeout : Time
  maxAttempts : Int
  batchSize : Nat
deriving DecidableEq, Repr

def deliverStatement {β : Type} (statement : OutboxWrite β) : DbProgram β :=
  .callExcept (.deliver statement)

/-- The attempts are read first; the update that uses them is a second statement. -/
def markFailed (worker : Worker) (id : Nat) (errText : String) : DbProgram Unit := do
  let row ← read (.outboxRow id)
  if worker.maxAttempts ≤ row.attempts then
    deliverStatement (.markFailed id errText row.attempts worker.maxAttempts zeroTime)
  else
    let retryAt ← .call (.backoff row.attempts)
    deliverStatement (.markFailed id errText row.attempts worker.maxAttempts retryAt)

def markFailure (worker : Worker) (id : Nat) (permanent : Bool) (errText : String) :
    DbProgram Unit :=
  if permanent then deliverStatement (.markFailedTerminal id errText)
  else markFailed worker id errText

/-- Send one claimed row and record the outcome; a failed record is only logged. -/
def deliver (worker : Worker) (id : Nat) (row : NotificationOutbox) : DbProgram Unit := do
  let answer ← .call (.send id row)
  match answer with
  | .accepted =>
    let _ ← (deliverStatement (.markSent id)).attempt
    pure ()
  | .rejected permanent errText =>
    let _ ← (markFailure worker id permanent errText).attempt
    pure ()

def deliverAll (worker : Worker) : List (Nat × NotificationOutbox) → DbProgram Unit
  | [] => pure ()
  | (id, row) :: rows => do
      deliver worker id row
      deliverAll worker rows

/-- Claim and deliver until nothing is due, at most `rounds` times. -/
def claimLoop (worker : Worker) : Nat → DbProgram Unit
  | 0 => pure ()
  | rounds + 1 => do
      let rows ← deliverStatement (.claimPending worker.batchSize worker.leaseOwner)
      if rows.isEmpty then pure ()
      else do
        deliverAll worker rows
        claimLoop worker rounds

def drain (worker : Worker) (rounds : Nat) : DbProgram Unit := do
  let _ ← deliverStatement (.recoverStaleProcessing worker.leaseTimeout worker.maxAttempts)
  claimLoop worker rounds

def redriveFailed (ids : List Nat) : DbProgram Unit := do
  let _ ← deliverStatement (.redriveFailed ids)
  pure ()

/-- Thirty days. -/
def retentionAge : Time := 30 * 24 * 3600 * 10 ^ 9

def retentionBatch : Nat := 500

def deleteSentBefore (before : Time) : Nat → DbProgram Unit
  | 0 => pure ()
  | rounds + 1 => do
      let removed ← deliverStatement (.deleteSentBatch before retentionBatch)
      if removed < retentionBatch then pure () else deleteSentBefore before rounds

/-- Prune delivered rows, at most `rounds` batches of them. -/
def runRetention (rounds : Nat) : DbProgram Unit := do
  let time ← currentTime
  deleteSentBefore (time - retentionAge) rounds

end StatusDashboard.Notification
