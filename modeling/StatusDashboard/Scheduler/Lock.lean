import StatusDashboard.Process.Automaton
import StatusDashboard.Tables.Locks
import StatusDashboard.Tables.Serial

namespace StatusDashboard.Scheduler

open Tables Process

/-!
# Tasks under an advisory lock

`WithAdvisoryLock` takes a connection from the pool of its replica, tries the
session lock of the task without waiting, runs the task, unlocks and returns the
connection.  Every statement is a step of its own, and the calls of all
replicas interleave.

A statement that fails may have reached the database or not: the context was
cancelled while it was under way, or the connection broke.  The unlock discards
its error, so a connection may go back to the pool with the lock still held.
The session behind a connection ends when the pool or the server closes it, but
not while a task runs under its lock.
-/

/-- The key of the scheduled scan. -/
def keyScan : Int := 9001

/-- What a call returns: the error of the task or none, an error of the database,
or the report that another session holds the lock. -/
inductive Outcome where
  | ok
  | failed
  | lockBusy
deriving DecidableEq, Repr

/-- Where a call of `WithAdvisoryLock` stands.  Its deferred statements run in the
phases `unlocking` and `closing`. -/
inductive Phase where
  | connecting
  | locking (conn : Nat)
  | running (conn : Nat)
  | unlocking (conn : Nat) (outcome : Outcome)
  | closing (conn : Nat) (outcome : Outcome)
  | returned (outcome : Outcome)
deriving DecidableEq, Repr

/-- The connection a call holds. -/
def Phase.conn : Phase → Option Nat
  | .connecting => none
  | .locking conn => some conn
  | .running conn => some conn
  | .unlocking conn _ => some conn
  | .closing conn _ => some conn
  | .returned _ => none

structure Call where
  replica : Nat
  key : Int
  phase : Phase
deriving DecidableEq, Repr

/-- A connection is in the pool of its replica, used by one caller, or closed by
the pool. -/
inductive Place where
  | idle
  | used
  | closed
deriving DecidableEq, Repr

/-- A connection and whether the session behind it still exists. -/
structure Session where
  replica : Nat
  place : Place
  alive : Bool
deriving DecidableEq, Repr

structure Cluster where
  sessions : SerialTable Session
  calls : SerialTable Call
  locks : LockTable Nat Int

namespace Cluster

def initial : Cluster where
  sessions := .empty
  calls := .empty
  locks := .empty

def enter (cluster : Cluster) (id : Nat) (phase : Phase) : Cluster :=
  { cluster with calls := cluster.calls.update id (fun call => { call with phase := phase }) }

def put (cluster : Cluster) (conn : Nat) (place : Place) : Cluster :=
  { cluster with
    sessions := cluster.sessions.update conn (fun session => { session with place := place }) }

def alive (cluster : Cluster) (conn : Nat) : Bool :=
  (cluster.sessions.get? conn).any Session.alive

/-- The pool closed the connection, but the session has not ended. -/
def lingers (cluster : Cluster) (conn : Nat) : Bool :=
  (cluster.sessions.get? conn).any (fun session => session.place = .closed && session.alive)

/-- Some task runs under a lock of the session. -/
def runsOn (cluster : Cluster) (conn : Nat) : Bool :=
  cluster.calls.rows.any (fun entry => entry.2.phase = .running conn)

end Cluster

/-! ## Steps -/

/-- The steps of one call.  `reached` says that a statement whose answer is lost
took effect, `keep` that the pool takes the connection back. -/
inductive Move where
  | connect (conn : Nat)
  | connectFails
  | tryLock
  | tryLockFails (reached : Bool)
  | finish (outcome : Outcome)
  | unlock (reached : Bool)
  | close (keep : Bool)
deriving DecidableEq, Repr

/-- The steps of the cluster: the pool opens a connection, a scheduler calls, a
session ends, a statement that was under way when its connection was closed takes
effect after all, or a call goes on. -/
inductive Step where
  | openSession (replica : Nat)
  | withAdvisoryLock (replica : Nat) (key : Int)
  | lose (conn : Nat)
  | lateLock (conn : Nat) (key : Int)
  | lateUnlock (conn : Nat) (key : Int)
  | move (id : Nat) (move : Move)
deriving DecidableEq, Repr

/-- The next statement of a call. -/
def advance (cluster : Cluster) (id : Nat) (call : Call) : Move → Phase → Option Cluster
  | .connect conn, .connecting =>
    match cluster.sessions.get? conn with
    | some session =>
      if session.replica = call.replica ∧ session.place = .idle then
        some ((cluster.put conn .used).enter id (.locking conn))
      else none
    | none => none
  | .connectFails, .connecting => some (cluster.enter id (.returned .failed))
  | .tryLock, .locking conn =>
    if cluster.alive conn then
      if (cluster.locks.tryAcquire conn call.key).1 then
        some ({ cluster with locks := (cluster.locks.tryAcquire conn call.key).2 }.enter id
          (.running conn))
      else some (cluster.enter id (.closing conn .lockBusy))
    else none
  | .tryLockFails reached, .locking conn =>
    if reached && cluster.alive conn then
      some ({ cluster with locks := (cluster.locks.tryAcquire conn call.key).2 }.enter id
        (.closing conn .failed))
    else some (cluster.enter id (.closing conn .failed))
  | .finish outcome, .running conn => some (cluster.enter id (.unlocking conn outcome))
  | .unlock reached, .unlocking conn outcome =>
    -- The error of the statement is discarded, so both cases go on alike.
    if reached && cluster.alive conn then
      some ({ cluster with locks := cluster.locks.release conn call.key }.enter id
        (.closing conn outcome))
    else some (cluster.enter id (.closing conn outcome))
  | .close keep, .closing conn outcome =>
    some ((cluster.put conn (if keep then .idle else .closed)).enter id (.returned outcome))
  | _, _ => none

def step (cluster : Cluster) : Step → Option Cluster
  | .openSession replica =>
    some { cluster with
      sessions := cluster.sessions.insert { replica := replica, place := .idle, alive := true } }
  | .withAdvisoryLock replica key =>
    some { cluster with
      calls := cluster.calls.insert { replica := replica, key := key, phase := .connecting } }
  | .lose conn =>
    if cluster.runsOn conn then none
    else some { cluster with
      sessions := cluster.sessions.update conn (fun session => { session with alive := false })
      locks := cluster.locks.drop conn }
  | .lateLock conn key =>
    if cluster.lingers conn then
      some { cluster with locks := (cluster.locks.tryAcquire conn key).2 }
    else none
  | .lateUnlock conn key =>
    if cluster.lingers conn then some { cluster with locks := cluster.locks.release conn key }
    else none
  | .move id move =>
    (cluster.calls.get? id).bind (fun call => advance cluster id call move call.phase)

/-- The calls whose task runs under a key. -/
def bodies (cluster : Cluster) (key : Int) : List Nat :=
  (cluster.calls.rows.filter (fun entry =>
    match entry.2.phase with
    | .running _ => decide (entry.2.key = key)
    | _ => false)).map Prod.fst

end StatusDashboard.Scheduler
