import StatusDashboard.Scheduler.Lock

namespace StatusDashboard.Properties

open Scheduler Tables Process

/-!
# One task at a time

A session lock alone does not exclude two tasks: a session may take its lock
again, and connections return to the pool with locks that were never released.
What excludes them is that a running task holds its key in the session of a
connection that it alone uses.
-/

variable {cluster : Cluster} {id : Nat} {call : Call}

/-- The connection a call uses. -/
def uses (cluster : Cluster) (id : Nat) : Option Nat :=
  (cluster.calls.get? id).bind (fun call => call.phase.conn)

/-- Each used connection is out of the pool and has one user, and a task runs only
while its session holds its key. -/
structure Guarded (cluster : Cluster) : Prop where
  connected : ∀ id conn, uses cluster id = some conn →
    ∃ session, cluster.sessions.get? conn = some session ∧ session.place = .used
  single : ∀ first second conn, uses cluster first = some conn →
    uses cluster second = some conn → first = second
  holds : ∀ id call conn, cluster.calls.get? id = some call → call.phase = .running conn →
    (conn, call.key) ∈ cluster.locks.held

theorem uses_of_running {conn : Nat} (found : cluster.calls.get? id = some call)
    (running : call.phase = .running conn) :
    uses cluster id = some conn := by
  unfold uses
  rw [found, Option.bind_some, running]
  rfl

theorem uses_enter {other : Nat} {phase : Phase} (found : cluster.calls.get? id = some call) :
    uses (cluster.enter id phase) other = if other = id then phase.conn else uses cluster other := by
  unfold uses Cluster.enter
  rw [SerialTable.get?_update]
  split_ifs with same
  · rw [same, found]
    rfl
  · rfl

/-- The calls of an entered phase that run their task. -/
theorem running_enter {other conn : Nat} {entered : Call} {phase : Phase}
    (found : cluster.calls.get? id = some call)
    (present : (cluster.enter id phase).calls.get? other = some entered)
    (running : entered.phase = .running conn) :
    (other = id ∧ phase = .running conn ∧ entered.key = call.key) ∨
      (other ≠ id ∧ cluster.calls.get? other = some entered) := by
  unfold Cluster.enter at present
  rw [SerialTable.get?_update] at present
  split_ifs at present with same
  · rw [same, found] at present
    cases present
    exact Or.inl ⟨same, running, rfl⟩
  · exact Or.inr ⟨same, present⟩

namespace Guarded

variable {cluster : Cluster} {id : Nat} {call : Call} {phase : Phase}

variable {locks : LockTable Nat Int} {conn : Nat}

/-- A statement on the connection that the call holds anyway.  What it does to the
locks must leave every other running task its key. -/
theorem statement (guarded : Guarded cluster) (found : cluster.calls.get? id = some call)
    (same : phase.conn = call.phase.conn)
    (others : ∀ other entered conn, other ≠ id → cluster.calls.get? other = some entered →
      entered.phase = .running conn → (conn, entered.key) ∈ locks.held)
    (own : ∀ conn, phase = .running conn → (conn, call.key) ∈ locks.held) :
    Guarded ({ cluster with locks := locks }.enter id phase) := by
  have kept : ∀ other, uses ({ cluster with locks := locks }.enter id phase) other =
      uses cluster other := by
    intro other
    rw [uses_enter (show ({ cluster with locks := locks } : Cluster).calls.get? id = some call
      from found)]
    split_ifs with here
    · unfold uses
      rw [here, found, Option.bind_some, same]
    · rfl
  refine ⟨?_, ?_, ?_⟩
  · intro other conn used
    rw [kept] at used
    exact guarded.connected other conn used
  · intro first second conn one two
    rw [kept] at one two
    exact guarded.single first second conn one two
  · intro other entered conn present running
    have before : ({ cluster with locks := locks } : Cluster).calls.get? id = some call := found
    rcases running_enter before present running with ⟨_, entry, key⟩ | ⟨different, before⟩
    · rw [key]
      exact own conn entry
    · exact others other entered conn different before running

/-- A call that has no connection yet. -/
theorem start (guarded : Guarded cluster) (call : Call) (connecting : call.phase = .connecting) :
    Guarded { cluster with calls := cluster.calls.insert call } := by
  have fresh : ∀ id conn, uses { cluster with calls := cluster.calls.insert call } id = some conn →
      uses cluster id = some conn := by
    intro id conn used
    unfold uses at used ⊢
    rw [SerialTable.get?_insert] at used
    split_ifs at used
    · rw [Option.bind_some, connecting] at used
      cases used
    · exact used
  refine ⟨?_, ?_, ?_⟩
  · intro id conn used
    exact guarded.connected id conn (fresh id conn used)
  · intro first second conn one two
    exact guarded.single first second conn (fresh first conn one) (fresh second conn two)
  · intro id started conn found running
    rw [SerialTable.get?_insert] at found
    split_ifs at found
    · cases found
      rw [connecting] at running
      cases running
    · exact guarded.holds id started conn found running

/-- A connection leaves the pool. -/
theorem connect (guarded : Guarded cluster) (found : cluster.calls.get? id = some call)
    {session : Session} (pooled : cluster.sessions.get? conn = some session)
    (idle : session.place = .idle) :
    Guarded ((cluster.put conn .used).enter id (.locking conn)) := by
  have before : (cluster.put conn .used).calls.get? id = some call := found
  have unused : ∀ other, uses cluster other ≠ some conn := by
    intro other used
    rcases guarded.connected other conn used with ⟨taken, present, place⟩
    cases pooled.symm.trans present
    exact absurd (idle.symm.trans place) (by decide)
  have after : ∀ other taken, uses ((cluster.put conn .used).enter id (.locking conn)) other =
      some taken → (other = id ∧ taken = conn) ∨ (taken ≠ conn ∧ uses cluster other = some taken) := by
    intro other taken used
    rw [uses_enter before] at used
    split_ifs at used with same
    · exact Or.inl ⟨same, (Option.some.inj used).symm⟩
    · have was : uses cluster other = some taken := used
      refine Or.inr ⟨?_, was⟩
      rintro rfl
      exact unused other was
  refine ⟨?_, ?_, ?_⟩
  · intro other taken used
    change ∃ session, (cluster.sessions.update conn _).get? taken = some session ∧ _
    rw [SerialTable.get?_update]
    rcases after other taken used with ⟨_, rfl⟩ | ⟨different, was⟩
    · rw [if_pos rfl, pooled]
      exact ⟨_, rfl, rfl⟩
    · rw [if_neg different]
      exact guarded.connected other taken was
  · intro first second taken one two
    rcases after first taken one with ⟨rfl, rfl⟩ | ⟨different, was⟩
    · rcases after second _ two with ⟨same, _⟩ | ⟨different, _⟩
      · exact same.symm
      · exact absurd rfl different
    · rcases after second taken two with ⟨_, same⟩ | ⟨_, also⟩
      · exact absurd same different
      · exact guarded.single first second taken was also
  · intro other entered taken present running
    rcases running_enter before present running with ⟨_, entry, _⟩ | ⟨_, was⟩
    · cases entry
    · exact guarded.holds other entered taken was running

/-- A connection is given back or closed. -/
theorem close (guarded : Guarded cluster) (found : cluster.calls.get? id = some call)
    {outcome : Outcome} (closing : call.phase = .closing conn outcome) (place : Place) :
    Guarded ((cluster.put conn place).enter id (.returned outcome)) := by
  have before : (cluster.put conn place).calls.get? id = some call := found
  have closes : uses cluster id = some conn := by
    unfold uses
    rw [found, Option.bind_some, closing]
    rfl
  have after : ∀ other taken, uses ((cluster.put conn place).enter id (.returned outcome)) other =
      some taken → taken ≠ conn ∧ uses cluster other = some taken := by
    intro other taken used
    rw [uses_enter before] at used
    split_ifs at used with same
    · cases used
    · have was : uses cluster other = some taken := used
      refine ⟨?_, was⟩
      rintro rfl
      exact same (guarded.single other id taken was closes)
  refine ⟨?_, ?_, ?_⟩
  · intro other taken used
    rcases after other taken used with ⟨different, was⟩
    change ∃ session, (cluster.sessions.update conn _).get? taken = some session ∧ _
    rw [SerialTable.get?_update_of_ne _ different]
    exact guarded.connected other taken was
  · intro first second taken one two
    exact guarded.single first second taken (after first taken one).2 (after second taken two).2
  · intro other entered taken present running
    rcases running_enter before present running with ⟨_, entry, _⟩ | ⟨_, was⟩
    · cases entry
    · exact guarded.holds other entered taken was running

/-- A statement after which no task of the call runs, and that takes no lock away. -/
theorem passes (guarded : Guarded cluster) (found : cluster.calls.get? id = some call)
    (same : phase.conn = call.phase.conn) (stops : ∀ conn, phase ≠ .running conn)
    (kept : ∀ entry ∈ cluster.locks.held, entry ∈ locks.held) :
    Guarded ({ cluster with locks := locks }.enter id phase) := by
  apply guarded.statement found same
  · intro other entered conn _ present running
    exact kept _ (guarded.holds other entered conn present running)
  · intro conn running
    exact absurd running (stops conn)

theorem advance (guarded : Guarded cluster) (found : cluster.calls.get? id = some call)
    {move : Move} {next : Cluster}
    (taken : Scheduler.advance cluster id call move call.phase = some next) : Guarded next := by
  generalize shape : call.phase = phase at taken
  unfold Scheduler.advance at taken
  split at taken
  case h_1 conn =>
    cases pooled : cluster.sessions.get? conn with
    | none => simp [pooled] at taken
    | some =>
      simp only [pooled] at taken
      split_ifs at taken with idle
      cases taken
      exact guarded.connect found pooled idle.2
  case h_2 =>
    cases taken
    exact guarded.passes found (by rw [shape]; rfl) (by simp) (fun _ held => held)
  case h_3 conn =>
    split_ifs at taken with alive got
    · cases taken
      apply guarded.statement found (by rw [shape]; rfl)
      · intro other entered taken _ present running
        exact LockTable.mem_tryAcquire (guarded.holds other entered taken present running)
      · intro taken running
        cases running
        exact LockTable.mem_tryAcquire_of_got got
    · cases taken
      exact guarded.passes found (by rw [shape]; rfl) (by simp) (fun _ held => held)
  case h_4 reached conn =>
    split_ifs at taken with effective
    · cases taken
      exact guarded.passes found (by rw [shape]; rfl) (by simp)
        (fun _ held => LockTable.mem_tryAcquire held)
    · cases taken
      exact guarded.passes found (by rw [shape]; rfl) (by simp) (fun _ held => held)
  case h_5 outcome conn =>
    cases taken
    exact guarded.passes found (by rw [shape]; rfl) (by simp) (fun _ held => held)
  case h_6 reached conn outcome =>
    have own : uses cluster id = some conn := by
      unfold uses
      rw [found, Option.bind_some, shape]
      rfl
    split_ifs at taken with effective
    · cases taken
      apply guarded.statement found (by rw [shape]; rfl)
      · -- Another running task uses another connection, so its lock stays.
        intro other entered taken different present running
        apply LockTable.mem_release _ (guarded.holds other entered taken present running)
        rintro rfl
        exact different (guarded.single other id taken (uses_of_running present running) own)
      · intro taken running
        cases running
    · cases taken
      exact guarded.passes found (by rw [shape]; rfl) (by simp) (fun _ held => held)
  case h_7 keep conn outcome =>
    cases taken
    exact guarded.close found shape _
  case h_8 => cases taken

/-- Changes of the connections and locks that leave each user its place and each
running task its key. -/
theorem around (guarded : Guarded cluster) {sessions : SerialTable Session}
    (places : ∀ conn session, cluster.sessions.get? conn = some session → session.place = .used →
      ∃ later, sessions.get? conn = some later ∧ later.place = .used)
    (kept : ∀ id call conn, cluster.calls.get? id = some call → call.phase = .running conn →
      (conn, call.key) ∈ locks.held) :
    Guarded { cluster with sessions := sessions, locks := locks } := by
  refine ⟨?_, guarded.single, kept⟩
  intro id conn used
  rcases guarded.connected id conn used with ⟨session, present, place⟩
  exact places conn session present place

/-- A connection that lingers after it was closed has no user. -/
theorem not_lingering (guarded : Guarded cluster) (lingers : cluster.lingers conn = true)
    (used : uses cluster id = some conn) : False := by
  rcases guarded.connected id conn used with ⟨session, present, place⟩
  unfold Cluster.lingers at lingers
  rw [present] at lingers
  simp [place] at lingers

theorem step (guarded : Guarded cluster) {taken : Step} {next : Cluster}
    (stepped : Scheduler.step cluster taken = some next) : Guarded next := by
  cases taken with
  | openSession =>
    cases stepped
    apply guarded.around
    · intro conn session present place
      exact ⟨session, SerialTable.get?_insert_of_get? _ present, place⟩
    · exact guarded.holds
  | withAdvisoryLock =>
    cases stepped
    exact guarded.start _ rfl
  | lose =>
    simp only [Scheduler.step] at stepped
    split_ifs at stepped with quiet
    cases stepped
    apply guarded.around
    · intro other session present place
      rw [SerialTable.get?_update, present]
      split_ifs
      · exact ⟨_, rfl, place⟩
      · exact ⟨session, rfl, place⟩
    · intro id call other found running
      apply LockTable.mem_drop _ (guarded.holds id call other found running)
      rintro rfl
      exact quiet (List.any_eq_true.mpr
        ⟨(id, call), SerialTable.mem_rows.mpr found, decide_eq_true running⟩)
  | lateLock =>
    simp only [Scheduler.step] at stepped
    split_ifs at stepped
    cases stepped
    exact guarded.around (fun _ session present place => ⟨session, present, place⟩)
      (fun id call other found running =>
        LockTable.mem_tryAcquire (guarded.holds id call other found running))
  | lateUnlock =>
    simp only [Scheduler.step] at stepped
    split_ifs at stepped with lingers
    cases stepped
    apply guarded.around (fun _ session present place => ⟨session, present, place⟩)
    intro id call other found running
    apply LockTable.mem_release _ (guarded.holds id call other found running)
    rintro rfl
    exact guarded.not_lingering lingers (uses_of_running found running)
  | move =>
    rcases Option.bind_eq_some_iff.mp stepped with ⟨call, found, advanced⟩
    exact guarded.advance found advanced

theorem initial : Guarded Cluster.initial := by
  have noCalls : ∀ id, Cluster.initial.calls.get? id = none := SerialTable.get?_empty
  have unused : ∀ id, uses Cluster.initial id = none := by
    intro id
    unfold uses
    rw [noCalls]
    rfl
  refine ⟨?_, ?_, ?_⟩
  · intro id conn used
    rw [unused] at used
    cases used
  · intro first second conn used
    rw [unused] at used
    cases used
  · intro id call conn found
    rw [noCalls] at found
    cases found

/-- Two tasks that run under one key are one call. -/
theorem body_unique (guarded : Guarded cluster) {key : Int} {first second : Nat}
    (one : first ∈ bodies cluster key) (two : second ∈ bodies cluster key) : first = second := by
  have runs : ∀ id ∈ bodies cluster key, ∃ call conn, cluster.calls.get? id = some call ∧
      call.phase = .running conn ∧ call.key = key := by
    intro id member
    rcases List.mem_map.mp member with ⟨⟨_, call⟩, listed, rfl⟩
    rcases List.mem_filter.mp listed with ⟨stored, running⟩
    dsimp only at running
    split at running
    · rename_i conn phase
      exact ⟨call, conn, SerialTable.mem_rows.mp stored, phase, of_decide_eq_true running⟩
    · cases running
  rcases runs first one with ⟨call, conn, found, running, rfl⟩
  rcases runs second two with ⟨other, otherConn, otherFound, otherRunning, same⟩
  have held := guarded.holds first call conn found running
  have otherHeld := guarded.holds second other otherConn otherFound otherRunning
  rw [same] at otherHeld
  obtain rfl : conn = otherConn := cluster.locks.holder_unique held otherHeld
  exact guarded.single first second conn (uses_of_running found running)
    (uses_of_running otherFound otherRunning)

end Guarded

/-- In every state that the replicas reach, at most one task runs under a key. -/
theorem tasks_exclusive {steps : List Step} {final : Cluster}
    (executed : execute step steps Cluster.initial = some final) (key : Int) :
    (bodies final key).length ≤ 1 := by
  have guarded : Guarded final :=
    execute_invariant (fun _ _ _ guarded _ stepped => guarded.step stepped) Guarded.initial
      (meets_of_forall (fun _ _ => trivial) steps _) executed
  have distinct : (bodies final key).Nodup :=
    final.calls.rows_ids_nodup.sublist (List.filter_sublist.map Prod.fst)
  have unique : ∀ first ∈ bodies final key, ∀ second ∈ bodies final key, first = second :=
    fun _ one _ two => guarded.body_unique one two
  match running : bodies final key with
  | [] => exact Nat.zero_le 1
  | [_] => exact Nat.le_refl 1
  | first :: second :: rest =>
    rw [running] at distinct unique
    have same := unique first (by simp) second (by simp)
    simp [same] at distinct

/-- The first task of a replica ends, its unlock fails unnoticed and the connection
goes back to the pool with the lock.  The next call on that connection takes the
lock again and runs, while a call of another replica finds it busy. -/
def leakingRun : List Step :=
  [.openSession 1, .openSession 2, .withAdvisoryLock 1 keyScan, .move 1 (.connect 1),
    .move 1 .tryLock, .move 1 (.finish .ok), .move 1 (.unlock false), .move 1 (.close true),
    .withAdvisoryLock 1 keyScan, .withAdvisoryLock 2 keyScan, .move 2 (.connect 1),
    .move 3 (.connect 2), .move 3 .tryLock, .move 2 .tryLock]

theorem tasks_exclusive_leaking : ∃ final,
    execute step leakingRun Cluster.initial = some final ∧
    bodies final keyScan = [2] ∧
    (final.calls.get? 3).map Call.phase = some (.closing 2 .lockBusy) ∧
    (bodies final keyScan).length ≤ 1 := by
  have reached : ∃ final, execute step leakingRun Cluster.initial = some final := by
    refine Option.isSome_iff_exists.mp ?_
    decide +kernel
  rcases reached with ⟨final, executed⟩
  have bodiesThen : (execute step leakingRun Cluster.initial).map (fun cluster =>
      bodies cluster keyScan) = some [2] := by decide +kernel
  have busyThen : (execute step leakingRun Cluster.initial).map (fun cluster =>
      (cluster.calls.get? 3).map Call.phase) = some (some (.closing 2 .lockBusy)) := by
    decide +kernel
  rw [executed] at bodiesThen busyThen
  exact ⟨final, executed, Option.some.inj bodiesThen, Option.some.inj busyThen,
    tasks_exclusive executed keyScan⟩

end StatusDashboard.Properties
