import StatusDashboard.Process.Inversion
import StatusDashboard.Properties.Leases

namespace StatusDashboard.Properties

open Event Storage Tables Notification Handlers Process

/-!
# Draining terminates

A worker that runs alone claims until nothing is due.  A failed send may make
a row due again at once, so the argument counts for each row the claims it can
still cause.  The potential of the outbox is their sum: a waiting row can be
claimed until its attempts are used up and at least once, a row that is held
for delivery as often as attempts are left when its failure is recorded.
-/

variable {limit : Int} {held : List Nat} {id : Nat} {store middle final : Store} {worker : Worker}

/-- The claims a row can still cause while the rows in `held` are delivered. -/
def claimsLeft (limit : Int) (held : List Nat) (id : Nat) : Option NotificationOutbox → Nat
  | none => 0
  | some row =>
    if id ∈ held then (limit - row.attempts).toNat
    else if row.status = .pending then (max 1 (limit - row.attempts)).toNat
    else 0

def potential (limit : Int) (held : List Nat) (store : Store) : Nat :=
  ∑ id ∈ Finset.range store.outbox.nextId, claimsLeft limit held id (store.outbox.get? id)

/-- The rows held for delivery do not wait. -/
def Held (held : List Nat) (store : Store) : Prop :=
  ∀ id ∈ held, ∀ row, store.outbox.get? id = some row → row.status ≠ .pending

/-! ## Recording an outcome -/

/-- An outcome concerns one row, which waits again only if it has attempts left. -/
structure Accounted (limit : Int) (id : Nat) (store final : Store) : Prop where
  ids : final.outbox.nextId = store.outbox.nextId
  rows : ∀ other, final.outbox.get? other = store.outbox.get? other ∨
    other = id ∧ ∃ row later, store.outbox.get? id = some row ∧
      final.outbox.get? id = some later ∧
      (later.status = .pending → later.attempts = row.attempts ∧ row.attempts < limit)

theorem Accounted.refl (limit : Int) (id : Nat) (store : Store) : Accounted limit id store store :=
  ⟨rfl, fun _ => Or.inl rfl⟩

/-- What is left for the other rows once the outcome of one is recorded. -/
theorem Accounted.settles (recorded : Accounted limit id store final) (apart : id ∉ held)
    (waits : Held (id :: held) store) :
    potential limit held final ≤ potential limit (id :: held) store ∧ Held held final := by
  constructor
  · unfold potential
    rw [recorded.ids]
    refine Finset.sum_le_sum ?_
    intro other _
    rcases recorded.rows other with same | ⟨rfl, row, later, found, after, again⟩
    · rw [same]
      cases found : store.outbox.get? other with
      | none => exact le_rfl
      | some row =>
        by_cases here : other = id
        · subst here
          simp [claimsLeft, apart, waits other List.mem_cons_self row found]
        · simp [claimsLeft, here]
    · rw [found, after]
      dsimp only [claimsLeft]
      rw [if_neg apart, if_pos List.mem_cons_self]
      split_ifs with pending
      · rw [(again pending).1]
        have left := (again pending).2
        rw [max_eq_right (by omega)]
      · exact Nat.zero_le _
  · intro other member later found
    rcases recorded.rows other with same | ⟨rfl, _⟩
    · exact waits other (List.mem_cons_of_mem id member) later (same.symm.trans found)
    · exact absurd member apart

/-- Rows that are held no longer can cause no claims, as they do not wait. -/
theorem potential_release (waits : Held held store) :
    potential limit [] store ≤ potential limit held store := by
  refine Finset.sum_le_sum ?_
  intro id _
  cases found : store.outbox.get? id with
  | none => exact le_rfl
  | some row =>
    by_cases member : id ∈ held
    · simp [claimsLeft, waits id member row found]
    · simp [claimsLeft, member]

/-- A program that runs alone and claims nothing. -/
abbrev Delivers {ε α : Type} (post : Store → Prop) (program : Program Op ε α) (store : Store) :
    Prop :=
  Ensures database Eq (fun _ => True) (fun event => isClaim event.operation = false)
    (fun _ final => post final) program store

theorem delivers_statement {β : Type} {statement : OutboxWrite β}
    (unclaimed : isClaim (.deliver statement) = false)
    (records : ∀ now other row after, store.outbox.get? other = some row →
      RowChange now statement other row after → other = id ∧ ∃ later, after = some later ∧
        (later.status = .pending → later.attempts = row.attempts ∧ row.attempts < limit)) :
    Delivers (Accounted limit id store) (deliverStatement statement) store := by
  rintro _ rfl choice _
  refine ⟨unclaimed, ?_⟩
  have recorded : Accounted limit id store
      (database.perform choice (.deliver statement) store).2 := by
    rw [perform_deliver]
    rcases commit_cases choice (statement.exec choice) store with
      ⟨error, failed⟩ | ⟨value, final, committed, commits⟩
    · rw [failed]
      exact .refl limit id store
    · rw [commits]
      rcases deliver_ok committed with ⟨rewrite, rfl, changes⟩
      refine ⟨SerialTable.nextId_alter _ _, ?_⟩
      intro other
      dsimp only
      rw [SerialTable.get?_alter, SerialTable.get?_alter]
      cases found : store.outbox.get? other with
      | none => exact Or.inl rfl
      | some row =>
        rcases changes other row found with same | changed
        · exact Or.inl same
        · rcases records choice.now other row _ found changed with ⟨rfl, later, after, again⟩
          rw [found]
          exact Or.inr ⟨rfl, row, later, rfl, after, again⟩
  cases (database.perform choice (.deliver statement) store).1 with
  | ok | error => exact fun later same => same ▸ recorded

theorem delivers_markFailed (worker : Worker) (id : Nat) (errText : String) (store : Store) :
    Delivers (Accounted worker.maxAttempts id store) (markFailed worker id errText) store := by
  have marks : ∀ {row : NotificationOutbox} (retryAt : Time), store.outbox.get? id = some row →
      Delivers (Accounted worker.maxAttempts id store) (deliverStatement
        (.markFailed id errText row.attempts worker.maxAttempts retryAt)) store := by
    intro row retryAt found
    refine delivers_statement rfl ?_
    intro now other stored after present change
    rcases change with ⟨rfl, rfl⟩
    cases found.symm.trans present
    refine ⟨rfl, _, rfl, ?_⟩
    unfold NotificationOutbox.markedFailed
    split_ifs with exhausted
    · exact nofun
    · exact fun _ => ⟨rfl, not_le.mp exhausted⟩
  rintro _ rfl choice _
  refine ⟨rfl, ?_⟩
  rw [perform_read]
  split_ifs
  · exact fun later same => same ▸ .refl _ id store
  · cases answer : (Query.outboxRow id).eval choice.rank store with
    | error => exact fun later same => same ▸ .refl _ id store
    | ok row =>
      have found : store.outbox.get? id = some row := by
        dsimp only [Query.eval] at answer
        split at answer
        · cases answer
          assumption
        · cases answer
      change Delivers _ (if worker.maxAttempts ≤ row.attempts then _ else _) store
      split_ifs
      · exact marks _ found
      · rintro _ rfl again _
        exact ⟨rfl, marks _ found⟩

/-- Sending one row and recording the outcome, also when recording fails. -/
theorem delivers_deliver (id : Nat) (row : NotificationOutbox) (store : Store) :
    Delivers (Accounted worker.maxAttempts id store) (deliver worker id row) store := by
  have recorded : ∀ {program : DbProgram Unit},
      Delivers (Accounted worker.maxAttempts id store) program store →
      Delivers (Accounted worker.maxAttempts id store)
        (program.attempt >>= fun _ => pure () : DbProgram Unit) store := by
    intro program delivers
    have attempted : Delivers (Accounted worker.maxAttempts id store)
        (program.attempt : DbProgram (Except DbError Unit)) store := ensures_attempt.mpr delivers
    refine Ensures.bind attempted ?_ ?_
    · exact fun _ _ held later same => same ▸ held
    · exact fun _ _ held => held
  rintro _ rfl choice _
  refine ⟨rfl, ?_⟩
  rcases choice with ⟨now, rank, fault, changeId, sent, retryAt⟩
  cases sent with
  | accepted =>
    refine recorded (delivers_statement rfl ?_)
    rintro now other stored after _ ⟨rfl, rfl⟩
    exact ⟨rfl, _, rfl, by rintro ⟨⟩⟩
  | rejected permanent errText =>
    refine recorded ?_
    unfold markFailure
    split_ifs
    · refine delivers_statement rfl ?_
      rintro now other stored after _ ⟨rfl, rfl⟩
      exact ⟨rfl, _, rfl, by rintro ⟨⟩⟩
    · exact delivers_markFailed worker id errText store

theorem delivers_deliverAll (rows : List (Nat × NotificationOutbox))
    (distinct : (rows.map Prod.fst).Nodup) (waits : Held (rows.map Prod.fst) store) :
    Delivers (fun final => potential worker.maxAttempts [] final ≤
      potential worker.maxAttempts (rows.map Prod.fst) store) (deliverAll worker rows) store := by
  induction rows generalizing store with
  | nil => exact fun later same => same ▸ le_rfl
  | cons entry rows ih =>
    obtain ⟨apart, distinct⟩ := List.nodup_cons.mp distinct
    refine (delivers_deliver entry.1 entry.2 store).bind ?_ ?_
    · intro _ middle recorded
      rcases recorded.settles apart waits with ⟨less, waiting⟩
      exact (ih distinct waiting).mono (fun _ _ bound => le_trans bound less)
    · intro error middle recorded
      rcases recorded.settles apart waits with ⟨less, waiting⟩
      exact le_trans (potential_release waiting) less

/-! ## Claiming -/

/-- The number of rows an event claims. -/
def claimsOf (event : DbEvent) : Nat :=
  match event with
  | { operation := .deliver (.claimPending _ _), result := .ok rows, .. } => rows.length
  | _ => 0

def claimCount (events : List DbEvent) : Nat := (events.map claimsOf).sum

theorem claimCount_append (first second : List DbEvent) :
    claimCount (first ++ second) = claimCount first + claimCount second := by
  simp [claimCount]

theorem claimsOf_of_not_claim {event : DbEvent} (unclaimed : isClaim event.operation = false) :
    claimsOf event = 0 := by
  rcases event with ⟨operation, result, before, after⟩
  cases operation with
  | deliver statement =>
    cases statement with
    | claimPending => cases unclaimed
    | _ => rfl
  | _ => rfl

/-- A claim takes one from the potential for each row it hands out. -/
theorem claim_potential (limit : Int) {choice : Choice} {batch : Nat} {leaseOwner : String}
    {rows : List (Nat × NotificationOutbox)}
    (committed : claimPendingTx choice.now choice.locked batch leaseOwner store =
      .ok (rows, final)) :
    (rows.map Prod.fst).Nodup ∧ Held (rows.map Prod.fst) final ∧
      potential limit (rows.map Prod.fst) final + rows.length = potential limit [] store := by
  cases committed
  rw [List.map_map, List.length_map]
  set picked := (store.outbox.rows.filter (fun entry =>
    entry.2.due choice.now && !choice.locked.contains entry.1)).take batch
  change (picked.map Prod.fst).Nodup ∧ Held (picked.map Prod.fst) _ ∧
    potential limit (picked.map Prod.fst) _ + picked.length = _
  have sublist : picked.Sublist store.outbox.rows :=
    (List.take_sublist _ _).trans List.filter_sublist
  have distinct : (picked.map Prod.fst).Nodup :=
    (SerialTable.rows_ids_nodup store.outbox).sublist (sublist.map Prod.fst)
  have waiting : ∀ id ∈ picked.map Prod.fst, ∃ row, store.outbox.get? id = some row ∧
      row.status = .pending := by
    intro id member
    rcases List.mem_map.mp member with ⟨⟨_, row⟩, listed, rfl⟩
    have due := (Bool.and_eq_true_iff.mp (List.mem_filter.mp (List.mem_of_mem_take listed)).2).1
    simp only [NotificationOutbox.due, Bool.and_eq_true, beq_iff_eq] at due
    exact ⟨row, SerialTable.mem_rows.mp (sublist.subset listed), due.1⟩
  refine ⟨distinct, ?_, ?_⟩
  · intro id member row found
    rcases waiting id member with ⟨before, present, _⟩
    dsimp only at found
    rw [SerialTable.get?_alter, present, Option.bind_some, if_pos member] at found
    cases found
    simp [NotificationOutbox.claimed]
  · have counted : picked.length =
        ∑ id ∈ Finset.range store.outbox.nextId, if id ∈ picked.map Prod.fst then 1 else 0 := by
      have inside : Finset.range store.outbox.nextId ∩ (picked.map Prod.fst).toFinset =
          (picked.map Prod.fst).toFinset := by
        refine Finset.inter_eq_right.mpr ?_
        intro id member
        rcases waiting id (List.mem_toFinset.mp member) with ⟨row, present, _⟩
        exact Finset.mem_range.mpr (SerialTable.lt_nextId_of_get? present)
      simp only [← List.mem_toFinset (l := picked.map Prod.fst)]
      rw [Finset.sum_ite_mem, inside, Finset.sum_const, List.toFinset_card_of_nodup distinct,
        List.length_map, smul_eq_mul, mul_one]
    unfold potential
    dsimp only
    rw [counted, SerialTable.nextId_alter, ← Finset.sum_add_distrib]
    refine Finset.sum_congr rfl ?_
    intro id _
    rw [SerialTable.get?_alter]
    by_cases member : id ∈ picked.map Prod.fst
    · rcases waiting id member with ⟨row, present, pending⟩
      simp only [present, Option.bind_some, if_pos member, claimsLeft, if_pos pending,
        List.not_mem_nil, if_false, NotificationOutbox.claimed]
      omega
    · cases store.outbox.get? id with
      | none | some => simp [claimsLeft, member]

theorem claimCount_of_not_claim {events : List DbEvent}
    (unclaimed : ∀ event ∈ events, isClaim event.operation = false) : claimCount events = 0 := by
  unfold claimCount
  rw [List.sum_eq_zero_iff]
  intro count member
  rcases List.mem_map.mp member with ⟨event, listed, rfl⟩
  exact claimsOf_of_not_claim (unclaimed event listed)

theorem claim_run {batch : Nat} {leaseOwner : String} {events : List DbEvent}
    {outcome : Except DbError (List (Nat × NotificationOutbox))}
    (run : Run database (deliverStatement (.claimPending batch leaseOwner)) store events outcome
      final) :
    (∃ error, outcome = .error error ∧ final = store ∧ claimCount events = 0) ∨
      ∃ rows choice, outcome = .ok rows ∧ claimCount events = rows.length ∧
        claimPendingTx (Choice.now choice) choice.locked batch leaseOwner store =
          .ok (rows, final) := by
  rcases Run.perform_cases run with ⟨choice, later, rfl, remaining⟩
  rcases commit_cases choice (claimPendingTx choice.now choice.locked batch leaseOwner) store with
    ⟨error, failed⟩ | ⟨rows, middle, committed, commits⟩
  · have performed : database.perform choice (.deliver (.claimPending batch leaseOwner)) store =
        (.error error, store) := failed
    rw [performed] at remaining
    rcases Run.fail_cases remaining with ⟨rfl, rfl, rfl⟩
    exact Or.inl ⟨error, rfl, rfl, by simp [claimCount, claimsOf, Machine.event, performed]⟩
  · have performed : database.perform choice (.deliver (.claimPending batch leaseOwner)) store =
        (.ok rows, middle) := commits
    rw [performed] at remaining
    rcases Run.done_cases remaining with ⟨rfl, rfl, rfl⟩
    exact Or.inr ⟨rows, choice, rfl, by simp [claimCount, claimsOf, Machine.event, performed],
      committed⟩

/-- One round of the loop: claim, and deliver what was claimed before going on. -/
def claimRound (worker : Worker) (next : DbProgram Unit) : DbProgram Unit := do
  let rows ← deliverStatement (.claimPending worker.batchSize worker.leaseOwner)
  if rows.isEmpty then pure ()
  else do
    deliverAll worker rows
    next

/-- A round either ends the loop, whatever would follow, or takes at least one
from the potential. -/
theorem claimRound_run {next : DbProgram Unit} {events : List DbEvent}
    {outcome : Except DbError Unit}
    (run : Run database (claimRound worker next) store events outcome final) :
    (claimCount events + potential worker.maxAttempts [] final ≤
        potential worker.maxAttempts [] store ∧
      ∀ other, Run database (claimRound worker other) store events outcome final) ∨
    ∃ first second middle, events = first ++ second ∧
      claimCount first + potential worker.maxAttempts [] middle ≤
        potential worker.maxAttempts [] store ∧ 0 < claimCount first ∧
      Run database next middle second outcome final ∧
      ∀ other, Run database other middle second outcome final →
        Run database (claimRound worker other) store events outcome final := by
  rcases Run.bind_cases run with ⟨error, rfl, failed⟩ | ⟨rows, claim, others, claimed, rfl, ok, rest⟩
  · rcases claim_run failed with ⟨_, _, rfl, none⟩ | ⟨_, _, impossible, _⟩
    · exact Or.inl ⟨by omega, fun other => failed.bind_error _⟩
    · cases impossible
  · rcases claim_run ok with ⟨_, impossible, _⟩ | ⟨_, choice, ⟨⟩, count, committed⟩
    · cases impossible
    rcases claim_potential worker.maxAttempts committed with ⟨distinct, waits, taken⟩
    have delivers := @delivers_deliverAll claimed worker rows distinct waits
    by_cases empty : rows.isEmpty = true
    · have again : ∀ other, Run database (claimRound worker other) store (claim ++ others) outcome
          final := fun other => ok.bind_ok (by rw [if_pos empty] at rest ⊢; exact rest)
      rw [if_pos empty] at rest
      rcases Run.done_cases rest with ⟨rfl, _, rfl⟩
      rw [List.isEmpty_iff.mp empty] at taken count
      refine Or.inl ⟨?_, again⟩
      rw [List.append_nil, count, Nat.add_comm]
      exact le_of_eq taken
    · have positive : 0 < rows.length :=
        List.length_pos_iff.mpr (fun none => empty (List.isEmpty_iff.mpr none))
      rw [if_neg empty] at rest
      rcases Run.bind_cases rest with ⟨error, rfl, failed⟩ |
        ⟨_, first, second, middle, rfl, delivered, onward⟩
      · rcases delivers.run failed (fun _ _ => trivial) with ⟨unclaimed, less⟩
        refine Or.inl ⟨?_, fun other => ok.bind_ok ?_⟩
        · have none := claimCount_of_not_claim unclaimed
          rw [claimCount_append]
          omega
        · rw [if_neg empty]
          exact failed.bind_error _
      · rcases delivers.run delivered (fun _ _ => trivial) with ⟨unclaimed, less⟩
        have none := claimCount_of_not_claim unclaimed
        refine Or.inr ⟨claim ++ first, second, middle, (List.append_assoc _ _ _).symm, ?_, ?_,
          onward, fun other run => ok.bind_ok ?_⟩
        · rw [claimCount_append]
          omega
        · rw [claimCount_append]
          omega
        · rw [if_neg empty]
          exact delivered.bind_ok run

/-- The loop claims no more than the potential, and ends by itself when it has
more rounds than that. -/
theorem claimLoop_run {rounds : Nat} {events : List DbEvent} {outcome : Except DbError Unit}
    (run : Run database (claimLoop worker rounds) store events outcome final) :
    claimCount events + potential worker.maxAttempts [] final ≤
        potential worker.maxAttempts [] store ∧
      (potential worker.maxAttempts [] store < rounds → ∀ extra,
        Run database (claimLoop worker (rounds + extra)) store events outcome final) := by
  induction rounds generalizing store events with
  | zero =>
    rcases Run.done_cases run with ⟨rfl, _, rfl⟩
    exact ⟨le_of_eq (Nat.zero_add _), fun impossible => absurd impossible (Nat.not_lt_zero _)⟩
  | succ rounds ih =>
    rcases claimRound_run run with ⟨bound, again⟩ |
      ⟨first, second, middle, rfl, bound, positive, rest, again⟩
    · refine ⟨bound, fun _ extra => ?_⟩
      rw [Nat.succ_add]
      exact again _
    · rcases ih rest with ⟨less, enough⟩
      rw [claimCount_append]
      refine ⟨by omega, fun small extra => ?_⟩
      rw [Nat.succ_add]
      exact again _ (enough (by omega) extra)

/-! ## A whole drain -/

/-- What the waiting rows allow: for each as many claims as it has attempts
left, and at least one. -/
def claimBudget (limit : Int) (store : Store) : Nat :=
  ∑ id ∈ Finset.range store.outbox.nextId,
    match store.outbox.get? id with
    | some row => if row.status = .pending then (max 1 (limit - row.attempts)).toNat else 0
    | none => 0

theorem potential_nil (limit : Int) (store : Store) :
    potential limit [] store = claimBudget limit store := by
  refine Finset.sum_congr rfl ?_
  intro id _
  cases store.outbox.get? id with
  | none => rfl
  | some => simp [claimsLeft]

/-- The first operation of a drain. -/
def recovery (worker : Worker) : Op (Except DbError (List (Nat × NotificationOutbox))) :=
  .deliver (.recoverStaleProcessing worker.leaseTimeout worker.maxAttempts)

theorem statement_run {β : Type} {statement : OutboxWrite β} {events : List DbEvent}
    {outcome : Except DbError β}
    (run : Run database (deliverStatement statement) store events outcome final) :
    ∃ choice, events = [database.event choice (.deliver statement) store] ∧
      final = (database.perform choice (.deliver statement) store).2 := by
  rcases Run.perform_cases run with ⟨choice, later, rfl, remaining⟩
  cases result : (database.perform choice (.deliver statement) store).1 with
  | ok =>
    rw [result] at remaining
    rcases Run.done_cases remaining with ⟨rfl, _, rfl⟩
    exact ⟨choice, rfl, rfl⟩
  | error =>
    rw [result] at remaining
    rcases Run.fail_cases remaining with ⟨rfl, _, rfl⟩
    exact ⟨choice, rfl, rfl⟩

/-- After its recovery step a drain claims at most what the waiting rows then
allow, and with more rounds than that it ends by itself: further rounds change
nothing. -/
theorem drain_terminates {rounds : Nat} {events : List DbEvent} {outcome : Except DbError Unit}
    (run : Run database (drain worker rounds) store events outcome final) :
    ∃ choice later, events = database.event choice (recovery worker) store :: later ∧
      claimCount events ≤ claimBudget worker.maxAttempts
        (database.perform choice (recovery worker) store).2 ∧
      (claimBudget worker.maxAttempts (database.perform choice (recovery worker) store).2 < rounds →
        ∀ extra, Run database (drain worker (rounds + extra)) store events outcome final) := by
  have quiet : ∀ choice, claimCount [database.event choice (recovery worker) store] = 0 := by
    intro choice
    refine claimCount_of_not_claim ?_
    intro event member
    rw [List.mem_singleton.mp member]
    rfl
  rcases Run.bind_cases run with ⟨error, rfl, failed⟩ |
    ⟨rows, first, second, recovered, rfl, ok, rest⟩
  · rcases statement_run failed with ⟨choice, rfl, _⟩
    refine ⟨choice, [], rfl, ?_, fun _ extra => failed.bind_error _⟩
    exact le_of_eq_of_le (quiet choice) (Nat.zero_le _)
  · rcases statement_run ok with ⟨choice, rfl, rfl⟩
    rcases claimLoop_run rest with ⟨bound, enough⟩
    simp only [potential_nil] at bound enough
    refine ⟨choice, second, rfl, ?_, fun small extra => ok.bind_ok (enough small extra)⟩
    have total := congrArg (· + claimCount second) (quiet choice)
    refine le_of_eq_of_le ((claimCount_append _ _).trans (total.trans (Nat.zero_add _))) ?_
    exact le_trans (Nat.le_add_right _ _) bound

theorem drain_terminates_refused :
    ∃ events outcome final, claimCount events = 2 ∧ ∀ extra,
      Run database (drain (aWorker "worker" 2) (3 + extra)) waitingStore events outcome final := by
  have run := Program.evaluate_run database { sent := .rejected false "refused" }
    (drain (aWorker "worker" 2) 3) waitingStore
  rcases drain_terminates run with ⟨choice, later, shape, bound, enough⟩
  refine ⟨_, _, _, by decide +kernel, enough ?_⟩
  have budget := congrArg (fun events : List DbEvent =>
    events.head?.map (fun event => claimBudget 2 event.after)) shape
  have value : ((drain (aWorker "worker" 2) 3).trail database { sent := .rejected false "refused" }
      waitingStore).head?.map (fun event => claimBudget 2 event.after) = some 2 := by
    decide +kernel
  have equal := Option.some.inj (budget.symm.trans value)
  exact lt_of_eq_of_lt equal (by decide)

end StatusDashboard.Properties
