import StatusDashboard.Handlers.Activity
import StatusDashboard.Storage.Delivery

namespace StatusDashboard.Properties

open Event Storage Tables Notification Handlers Process

/-!
# Leases on outbox rows

Any number of workers share the outbox, next to requests that add rows,
operators that re-drive failed ones and the pruning of delivered ones.  Rows
stay well-formed whatever they do.  The attempt counter stays within its limit
and a delivered row stays delivered as long as no worker records a failure for
a row it has lost: outcomes are written by id, and the attempts of a failed
send are read in an earlier statement than the one that uses them.
-/

variable {ι : Type} [DecidableEq ι] {deployment : Deployment} {activities : ι → Activity}
variable {store final : Store} {trace : List (ι × DbEvent)} {id : Nat} {limit : Int}

/-- A property of every outbox row. -/
def AllRows (holds : NotificationOutbox → Prop) (store : Store) : Prop :=
  ∀ id row, store.outbox.get? id = some row → holds row

/-- What an event of a pool did to a row. -/
theorem pool_change (pool : Pool deployment activities store trace final) {entry : ι × DbEvent}
    (member : entry ∈ trace) (id : Nat) :
    ∃ (β : Type) (choice : Choice) (operation : Op β),
      entry.2 = database.event choice operation entry.2.before ∧
        OutboxChange choice entry.2.before id operation (entry.2.after.outbox.get? id) := by
  rcases pool.event_eq member with ⟨choice, shape⟩
  refine ⟨_, choice, entry.2.operation, shape, ?_⟩
  rw [shape]
  exact perform_outbox choice entry.2.operation entry.2.before id

/-- A property of built rows that every delivery statement keeps. -/
theorem pool_rows {holds : NotificationOutbox → Prop}
    (pool : Pool deployment activities store trace final)
    (built : ∀ row, Built row → holds row)
    (kept : ∀ entry ∈ trace, ∀ {β : Type} {choice : Choice} {statement : OutboxWrite β}
      {id : Nat} {row later : NotificationOutbox},
      entry.2 = database.event choice (.deliver statement) entry.2.before →
      entry.2.before.outbox.get? id = some row →
      RowChange choice.now statement id row (some later) → holds row → holds later)
    (start : AllRows holds store) :
    (∀ entry ∈ trace, AllRows holds entry.2.before ∧ AllRows holds entry.2.after) ∧
      AllRows holds final := by
  have invariant := pool.chained.invariant (AllRows holds) start ?_
  · refine ⟨?_, invariant.2⟩
    intro entry member
    exact invariant.1 entry.2 (List.mem_map_of_mem member)
  · intro event listed before id row found
    rcases List.mem_map.mp listed with ⟨entry, member, rfl⟩
    rcases pool_change pool member id with ⟨β, choice, operation, shape, change⟩
    rw [found] at change
    generalize after : some row = result at change
    cases change with
    | same => exact before id row after.symm
    | enqueue fresh isBuilt =>
      cases after
      exact built row isBuilt
    | deliver present changed =>
      subst after
      exact kept entry member shape present changed (before id _ present)

/-! ## Well-formed rows -/

/-- The lock columns are set while a row is being processed and only then; a
failed row is not scheduled and a sent one has no error. -/
structure WellFormed (row : NotificationOutbox) : Prop where
  locked : row.status = .processing → row.lockedBy.isSome ∧ row.lockedAt.isSome
  free : row.status ≠ .processing → row.lockedBy = none ∧ row.lockedAt = none
  failed : row.status = .failed → row.nextAttemptAt = none
  sent : row.status = .sent → row.lastError = none

/-- A statement that changes a row sets all these columns, so that it does not
matter how the row was before. -/
theorem wellFormed_of_change {β : Type} {now : Time} {statement : OutboxWrite β}
    {row later : NotificationOutbox} (change : RowChange now statement id row (some later)) :
    WellFormed later := by
  cases statement with
  | claimPending =>
    cases change.2
    constructor <;> simp [NotificationOutbox.claimed]
  | markSent =>
    cases change.2
    constructor <;> simp [NotificationOutbox.markedSent]
  | markFailed =>
    cases change.2
    unfold NotificationOutbox.markedFailed
    split_ifs <;> constructor <;> simp
  | markFailedTerminal =>
    cases change.2
    constructor <;> simp [NotificationOutbox.markedFailedTerminal]
  | recoverStaleProcessing =>
    cases change.2
    unfold NotificationOutbox.recovered
    split_ifs <;> constructor <;> simp
  | redriveFailed =>
    cases change.2
    constructor <;> simp [NotificationOutbox.redriven]
  | deleteSentBatch => cases change.2

/-- Every row is well-formed at all times, and only sent rows are deleted. -/
theorem pool_wellFormed (pool : Pool deployment activities store trace final)
    (start : AllRows WellFormed store) :
    (∀ entry ∈ trace, AllRows WellFormed entry.2.before ∧ AllRows WellFormed entry.2.after ∧
      ∀ id row, entry.2.before.outbox.get? id = some row →
        entry.2.after.outbox.get? id = none → row.status = .sent) ∧
      AllRows WellFormed final := by
  have fresh : ∀ row, Built row → WellFormed row := by
    rintro row ⟨resolver, changedAt, changeId, change, recipient, rfl⟩
    constructor <;> simp [Resolver.buildRow]
  have formed := pool_rows pool fresh
    (fun _ _ _ _ _ _ _ _ _ _ changed _ => wellFormed_of_change changed) start
  refine ⟨?_, formed.2⟩
  intro entry member
  refine ⟨(formed.1 entry member).1, (formed.1 entry member).2, ?_⟩
  intro id row found gone
  rcases pool_change pool member id with ⟨β, choice, operation, shape, change⟩
  rw [gone] at change
  generalize after : none = result at change
  cases change with
  | same =>
    rw [found] at after
    cases after
  | enqueue => cases after
  | @deliver _ statement _ _ present changed =>
    subst after
    rw [found] at present
    cases present
    cases statement with
    | deleteSentBatch => exact changed.1
    | _ => cases changed.2

/-! ## Two workers and one row -/

def aWorker (leaseOwner : String) (maxAttempts : Int) : Worker where
  leaseOwner := leaseOwner
  leaseTimeout := 300
  maxAttempts := maxAttempts
  batchSize := 10

/-- A row as it is enqueued. -/
def waitingRow : NotificationOutbox :=
  Resolver.buildRow
    { smod := "", operators := [], admins := [], excluded := [], allowed := [], baseURL := "",
      toLower := fun text => text, trimSpace := fun text => text } 0 ""
    { incidentId := 1, title := "", oldStatus := .planned, newStatus := .active,
      contactEmail := "a@b", actor := "" } "a@b"

def waitingStore : Store :=
  { bareStore 0 with outbox := ⟨[some waitingRow]⟩ }

/-- Workers with the same limit, each started once. -/
def coworkers (maxAttempts : Int) (party : Nat) : Activity :=
  .drain (aWorker (toString party) maxAttempts) 3

def coworkersRun (maxAttempts : Int) (turns : List (Nat × Choice)) :
    List (Nat × DbEvent) × Store :=
  schedule database (fun party => (coworkers maxAttempts party).program quietDeployment) turns
    waitingStore

theorem allRows_waiting {holds : NotificationOutbox → Prop} (row : holds waitingRow) :
    AllRows holds waitingStore := by
  intro id other found
  have listed := SerialTable.mem_rows.mpr found
  rw [show waitingStore.outbox.rows = [(1, waitingRow)] from rfl, List.mem_singleton] at listed
  cases listed
  exact row

/-- A worker that takes its turns at `now` while the mail server answers `sent`. -/
def turnsAt (now : Time) (sent : SendResult) (party count : Nat) : List (Nat × Choice) :=
  List.replicate count (party, { now := now, sent := sent })

theorem pool_wellFormed_delivered :
    AllRows WellFormed (coworkersRun 2 (turnsAt 0 .accepted 0 4)).2 ∧
      (coworkersRun 2 (turnsAt 0 .accepted 0 4)).2.outbox.get? 1 ≠ none := by
  have pool : Pool quietDeployment (coworkers 2) waitingStore
      (coworkersRun 2 (turnsAt 0 .accepted 0 4)).1 (coworkersRun 2 (turnsAt 0 .accepted 0 4)).2 :=
    schedule_interleaving database _ _ _
  refine ⟨(pool_wellFormed pool (allRows_waiting ?_)).2, by decide +kernel⟩
  constructor <;> simp [waitingRow, Resolver.buildRow]

/-! ## Attempts -/

/-- The attempt counter of a row that waits or is processed is within its limit. -/
structure Bounded (limit : Int) (row : NotificationOutbox) : Prop where
  counted : 0 ≤ row.attempts
  pending : row.status = .pending → row.attempts < limit
  processing : row.status = .processing → 1 ≤ row.attempts ∧ row.attempts ≤ limit

/-- The limit a statement works with. -/
def limitOf : {β : Type} → Op β → Option Int
  | _, .deliver (.markFailed _ _ _ maxAttempts _) => some maxAttempts
  | _, .deliver (.recoverStaleProcessing _ maxAttempts) => some maxAttempts
  | _, _ => none

/-- The row that a recorded failure schedules again, by the attempts read before. -/
def retried : {β : Type} → Op β → Option Nat
  | _, .deliver (.markFailed id _ attempts maxAttempts _) =>
    if attempts < maxAttempts then some id else none
  | _, _ => none

/-- A row that is scheduled again still has an attempt left. -/
def RetriesInTime (limit : Int) (event : DbEvent) : Prop :=
  ∀ id ∈ retried event.operation, ∀ row ∈ event.before.outbox.get? id, row.attempts < limit

instance (limit : Int) (event : DbEvent) : Decidable (RetriesInTime limit event) :=
  inferInstanceAs (Decidable (∀ id ∈ retried event.operation, _))

def isClaim : {β : Type} → Op β → Bool
  | _, .deliver (.claimPending _ _) => true
  | _, _ => false

def isRedrive : {β : Type} → Op β → Bool
  | _, .deliver (.redriveFailed _) => true
  | _, _ => false

/-- Whether an event changes a row. -/
def Changes (id : Nat) (event : DbEvent) : Prop :=
  event.after.outbox.get? id ≠ event.before.outbox.get? id

instance (id : Nat) (event : DbEvent) : Decidable (Changes id event) :=
  inferInstanceAs (Decidable (_ ≠ _))

/-- The attempt number with which an event claims a row. -/
def claimNumber (id : Nat) (event : DbEvent) : Option Int :=
  if isClaim event.operation = true ∧ Changes id event then
    (event.after.outbox.get? id).map NotificationOutbox.attempts
  else none

theorem bounded_of_settled {row : NotificationOutbox} (counted : 0 ≤ row.attempts)
    (settled : row.status ≠ .pending ∧ row.status ≠ .processing) : Bounded limit row :=
  ⟨counted, fun pending => absurd pending settled.1, fun processing => absurd processing settled.2⟩

theorem bounded_of_pending {row : NotificationOutbox} (counted : 0 ≤ row.attempts)
    (pending : row.status = .pending) (below : row.attempts < limit) : Bounded limit row :=
  ⟨counted, fun _ => below, fun processing => absurd (pending.symm.trans processing) (by decide)⟩

theorem bounded_of_change {β : Type} {choice : Choice} {statement : OutboxWrite β} {before : Store}
    {row later : NotificationOutbox} (positive : 1 ≤ limit)
    (same : ∀ other ∈ limitOf (.deliver statement), other = limit)
    (timely : RetriesInTime limit (database.event choice (.deliver statement) before))
    (found : before.outbox.get? id = some row)
    (change : RowChange choice.now statement id row (some later)) (bounded : Bounded limit row) :
    Bounded limit later := by
  cases statement with
  | claimPending =>
    rcases change with ⟨due, ⟨⟩⟩
    unfold NotificationOutbox.due at due
    simp only [Bool.and_eq_true, beq_iff_eq] at due
    have below := bounded.pending due.1
    have counted := bounded.counted
    refine ⟨?_, ?_, fun _ => ?_⟩
    · exact Int.add_nonneg counted (by decide)
    · intro pending
      cases pending
    · exact ⟨Int.le_add_of_nonneg_left counted, Int.add_one_le_of_lt below⟩
  | markSent =>
    cases change.2
    exact bounded_of_settled bounded.counted (by simp [NotificationOutbox.markedSent])
  | markFailed target errText attempts maxAttempts retryAt =>
    rcases change with ⟨rfl, ⟨⟩⟩
    have equal : maxAttempts = limit := same maxAttempts rfl
    unfold NotificationOutbox.markedFailed
    split_ifs with exhausted
    · exact bounded_of_settled bounded.counted (by simp)
    · have again : id ∈ retried (.deliver (.markFailed id errText attempts maxAttempts retryAt)) :=
        Option.mem_def.mpr (if_pos (not_le.mp exhausted))
      exact bounded_of_pending bounded.counted rfl (timely id again row found)
  | markFailedTerminal =>
    cases change.2
    exact bounded_of_settled bounded.counted (by simp [NotificationOutbox.markedFailedTerminal])
  | recoverStaleProcessing leaseTimeout maxAttempts =>
    cases change.2
    have equal : maxAttempts = limit := same maxAttempts rfl
    unfold NotificationOutbox.recovered
    split_ifs with exhausted
    · exact bounded_of_settled bounded.counted (by simp)
    · refine bounded_of_pending bounded.counted rfl ?_
      rw [← equal]
      exact not_le.mp exhausted
  | redriveFailed =>
    cases change.2
    exact bounded_of_pending le_rfl rfl positive
  | deleteSentBatch => cases change.2

/-- What an event that does not re-drive a row does to its attempt counter. -/
inductive Counted (id : Nat) (event : DbEvent) : Prop
  | claims {row later : NotificationOutbox} (found : event.before.outbox.get? id = some row)
      (after : event.after.outbox.get? id = some later)
      (number : claimNumber id event = some later.attempts)
      (next : later.attempts = row.attempts + 1) (status : later.status = .processing)
  | keeps (unclaimed : claimNumber id event = none)
      (kept : ∀ later, event.after.outbox.get? id = some later →
        event.before.outbox.nextId ≤ id ∨
          ∃ row, event.before.outbox.get? id = some row ∧ later.attempts = row.attempts)

theorem counted_of_event {β : Type} {choice : Choice} {operation : Op β}
    (driven : ¬ (isRedrive operation = true ∧ Changes id (database.event choice operation store))) :
    Counted id (database.event choice operation store) := by
  have change := perform_outbox choice operation store id
  generalize after : (database.perform choice operation store).2.outbox.get? id = result at change
  cases change with
  | same =>
    refine .keeps (if_neg ?_) ?_
    · exact fun both => both.2 after
    · exact fun later found => Or.inr ⟨later, after.symm.trans found, rfl⟩
  | enqueue fresh => exact .keeps rfl (fun later found => Or.inl fresh)
  | @deliver β statement row _ present changed =>
    have kept : ∀ later : NotificationOutbox, result = some later → later.attempts = row.attempts →
        ∀ other, (database.event choice (.deliver statement) store).after.outbox.get? id = some other →
          store.outbox.nextId ≤ id ∨
            ∃ row, store.outbox.get? id = some row ∧ other.attempts = row.attempts := by
      intro later equal same other found
      have both : some later = some other := equal.symm.trans (after.symm.trans found)
      cases both
      exact Or.inr ⟨row, present, same⟩
    cases statement with
    | claimPending limit leaseOwner =>
      cases changed.2
      refine .claims present after ?_ rfl rfl
      have changes : Changes id
          (database.event choice (.deliver (.claimPending limit leaseOwner)) store) := by
        intro same
        have equal := present.symm.trans (same.symm.trans after)
        have attempts := congrArg NotificationOutbox.attempts (Option.some.inj equal)
        exact absurd attempts (Int.ne_of_lt (Int.lt_succ row.attempts))
      exact (if_pos ⟨rfl, changes⟩).trans (congrArg (Option.map _) after)
    | markSent | markFailedTerminal => exact .keeps rfl (kept _ changed.2 rfl)
    | markFailed =>
      refine .keeps rfl (kept _ changed.2 ?_)
      unfold NotificationOutbox.markedFailed
      split_ifs <;> rfl
    | recoverStaleProcessing =>
      refine .keeps rfl (kept _ changed.2 ?_)
      unfold NotificationOutbox.recovered
      split_ifs <;> rfl
    | redriveFailed =>
      rcases changed with ⟨failed, ⟨⟩⟩
      refine absurd ⟨rfl, ?_⟩ driven
      intro same
      have equal := present.symm.trans (same.symm.trans after)
      have status := congrArg NotificationOutbox.status (Option.some.inj equal)
      rw [failed] at status
      cases status
    | deleteSentBatch =>
      cases changed.2
      exact .keeps rfl (fun later found => nomatch after.symm.trans found)

/-- The numbers of the claims of one row rise until it is re-driven, each above
the counter the row started with. -/
theorem claims_rise {events : List DbEvent} (chained : Chained store events final)
    (performed : ∀ event ∈ events, ∃ choice,
      event = database.event choice event.operation event.before)
    (bounded : ∀ event ∈ events, AllRows (Bounded limit) event.before ∧
      AllRows (Bounded limit) event.after)
    (driven : ∀ event ∈ events, ¬ (isRedrive event.operation = true ∧ Changes id event)) :
    (events.filterMap (claimNumber id)).Pairwise (· < ·) ∧
      (∀ number ∈ events.filterMap (claimNumber id), 1 ≤ number ∧ number ≤ limit ∧
        ∀ row ∈ store.outbox.get? id, row.attempts < number) ∧
      (store.outbox.get? id = none → id < store.outbox.nextId →
        events.filterMap (claimNumber id) = []) := by
  induction events generalizing store with
  | nil => exact ⟨List.Pairwise.nil, nofun, fun _ _ => rfl⟩
  | cons event events ih =>
    rcases chained with ⟨rfl, rest⟩
    rcases ih rest (fun other member => performed other (List.mem_cons_of_mem _ member))
      (fun other member => bounded other (List.mem_cons_of_mem _ member))
      (fun other member => driven other (List.mem_cons_of_mem _ member)) with
      ⟨rise, above, gone⟩
    rcases performed event List.mem_cons_self with ⟨choice, shape⟩
    have around := bounded event List.mem_cons_self
    have counted : Counted id event := by
      have undriven := driven event List.mem_cons_self
      rw [shape] at undriven ⊢
      exact counted_of_event undriven
    have onward : event.before.outbox.nextId ≤ event.after.outbox.nextId := by
      rw [shape]
      exact nextId_le_perform choice event.operation event.before
    cases counted with
    | @claims row later found after number next status =>
      have range := (around.2 id later after).processing status
      have lower : row.attempts < later.attempts := by omega
      rw [List.filterMap_cons_some number]
      refine ⟨List.pairwise_cons.mpr ⟨?_, rise⟩, ?_, ?_⟩
      · exact fun other member => (above other member).2.2 later after
      · intro other member
        have higher : 1 ≤ other ∧ other ≤ limit ∧ later.attempts ≤ other := by
          rcases List.mem_cons.mp member with rfl | member
          · exact ⟨range.1, range.2, le_rfl⟩
          · exact ⟨(above other member).1, (above other member).2.1,
              le_of_lt ((above other member).2.2 later after)⟩
        refine ⟨higher.1, higher.2.1, ?_⟩
        rintro _ present
        cases found.symm.trans present
        exact lt_of_lt_of_le lower higher.2.2
      · intro missing
        cases missing.symm.trans found
    | keeps unclaimed kept =>
      rw [List.filterMap_cons_none unclaimed]
      refine ⟨rise, ?_, ?_⟩
      · intro number member
        refine ⟨(above number member).1, (above number member).2.1, ?_⟩
        intro row present
        have old := SerialTable.lt_nextId_of_get? present
        cases after : event.after.outbox.get? id with
        | none =>
          rw [gone after (lt_of_lt_of_le old onward)] at member
          cases member
        | some later =>
          rcases kept later after with fresh | ⟨other, found, same⟩
          · exact absurd old (not_lt.mpr fresh)
          · cases found.symm.trans present
            rw [← same]
            exact (above number member).2.2 later after
      · intro missing old
        refine gone ?_ (lt_of_lt_of_le old onward)
        cases after : event.after.outbox.get? id with
        | none => rfl
        | some later =>
          rcases kept later after with fresh | ⟨row, found, _⟩
          · exact absurd old (not_lt.mpr fresh)
          · cases missing.symm.trans found

/-- The numbers with which the events of a trace claim a row. -/
def claimNumbers (id : Nat) (trace : List (ι × DbEvent)) : List Int :=
  (trace.map Prod.snd).filterMap (claimNumber id)

/-- Workers with one limit keep all counters within it, and claim a row at most
that often, each time with another number, until it is re-driven. -/
theorem pool_attempts (pool : Pool deployment activities store trace final) (positive : 1 ≤ limit)
    (same : ∀ entry ∈ trace, ∀ other ∈ limitOf entry.2.operation, other = limit)
    (timely : ∀ entry ∈ trace, RetriesInTime limit entry.2)
    (start : AllRows (Bounded limit) store) :
    (∀ entry ∈ trace, AllRows (Bounded limit) entry.2.before ∧
      AllRows (Bounded limit) entry.2.after) ∧ AllRows (Bounded limit) final ∧
    ∀ (id : Nat) (earlier segment later : List (ι × DbEvent)),
      trace = earlier ++ segment ++ later →
      (∀ entry ∈ segment, ¬ (isRedrive entry.2.operation = true ∧ Changes id entry.2)) →
      (claimNumbers id segment).Nodup ∧ (claimNumbers id segment).length ≤ limit.toNat := by
  have fresh : ∀ row, Built row → Bounded limit row := by
    rintro row ⟨resolver, changedAt, changeId, change, recipient, rfl⟩
    exact bounded_of_pending le_rfl rfl positive
  have bounded := pool_rows pool fresh ?_ start
  · refine ⟨bounded.1, bounded.2, ?_⟩
    intro id earlier segment later split driven
    have inside : ∀ event ∈ segment.map Prod.snd, ∃ entry ∈ segment, entry ∈ trace ∧
        entry.2 = event := by
      intro event listed
      rcases List.mem_map.mp listed with ⟨entry, member, rfl⟩
      refine ⟨entry, member, ?_, rfl⟩
      rw [split]
      exact List.mem_append_left _ (List.mem_append_right _ member)
    have chained := pool.chained
    rw [split, List.map_append, chained_append] at chained
    rcases chained with ⟨_, chained, _⟩
    rw [List.map_append, chained_append] at chained
    rcases chained with ⟨_, _, chained⟩
    have around : ∀ event ∈ segment.map Prod.snd,
        AllRows (Bounded limit) event.before ∧ AllRows (Bounded limit) event.after := by
      intro event listed
      rcases inside event listed with ⟨entry, _, member, rfl⟩
      exact bounded.1 entry member
    have undriven : ∀ event ∈ segment.map Prod.snd,
        ¬ (isRedrive event.operation = true ∧ Changes id event) := by
      intro event listed
      rcases inside event listed with ⟨entry, member, _, rfl⟩
      exact driven entry member
    have rise := claims_rise chained (fun event listed => by
      rcases inside event listed with ⟨entry, _, member, rfl⟩
      exact pool.event_eq member) around undriven
    have nodup : (claimNumbers id segment).Nodup := rise.1.imp (fun less => ne_of_lt less)
    refine ⟨nodup, ?_⟩
    have within : (claimNumbers id segment).toFinset ⊆ Finset.Icc 1 limit := by
      intro number member
      have range := rise.2.1 number (List.mem_toFinset.mp member)
      exact Finset.mem_Icc.mpr ⟨range.1, range.2.1⟩
    have count := Finset.card_le_card within
    rw [List.toFinset_card_of_nodup nodup, Int.card_Icc] at count
    simpa using count
  · intro entry member β choice statement id row after shape found change before
    have limits := same entry member
    have retries := timely entry member
    rw [shape] at limits retries
    exact bounded_of_change positive limits retries found change before

/-- A worker reads the attempts of the row it failed to send; the lease runs out
and another worker claims the row for the last time; then the first one
schedules it again. -/
def overtakenTurns : List (Nat × Choice) :=
  turnsAt 0 (.rejected false "refused") 0 4 ++ turnsAt 1000 .accepted 1 2 ++
    turnsAt 1000 .accepted 0 2

theorem waiting_bounded (positive : 1 ≤ limit) : AllRows (Bounded limit) waitingStore :=
  allRows_waiting (bounded_of_pending le_rfl rfl positive)

/-- The row waits again although both attempts are used up. -/
theorem pool_attempts_fails :
    ¬ ∀ (trace : List (Nat × DbEvent)) (final : Store),
      Pool quietDeployment (coworkers 2) waitingStore trace final →
      AllRows (Bounded 2) waitingStore → AllRows (Bounded 2) final := by
  intro bounded
  have overdue : ∃ entry ∈ (coworkersRun 2 overtakenTurns).2.outbox.rows,
      entry.2.status = .pending ∧ ¬ entry.2.attempts < 2 := by decide +kernel
  rcases overdue with ⟨⟨id, row⟩, listed, pending, exhausted⟩
  have run := bounded _ _ (schedule_interleaving database _ overtakenTurns waitingStore)
    (waiting_bounded (by decide))
  exact exhausted ((run id row (SerialTable.mem_rows.mp listed)).pending pending)

/-- One worker claims the row, another one finds nothing to claim, the first one
goes on and a third one follows. -/
def sharedTurns (sent : SendResult) : List (Nat × Choice) :=
  turnsAt 0 sent 0 2 ++ turnsAt 0 sent 1 2 ++ turnsAt 0 sent 0 4 ++ turnsAt 0 sent 2 6

/-- The workers that claim the row. -/
def claimants (trace : List (Nat × DbEvent)) : List Nat :=
  (trace.filter (fun entry => (claimNumber 1 entry.2).isSome)).map Prod.fst

/-- Two of three workers fail to send the row, and the second one gives up. -/
theorem pool_attempts_twice :
    claimants (coworkersRun 2 (sharedTurns (.rejected false "refused"))).1 = [0, 2] ∧
      AllRows (Bounded 2) (coworkersRun 2 (sharedTurns (.rejected false "refused"))).2 ∧
      (claimNumbers 1 (coworkersRun 2 (sharedTurns (.rejected false "refused"))).1).length ≤ 2 := by
  have attempts := pool_attempts
    (schedule_interleaving database (fun party => (coworkers 2 party).program quietDeployment)
      (sharedTurns (.rejected false "refused")) waitingStore)
    (by decide : (1 : Int) ≤ 2) (by decide +kernel) (by decide +kernel)
    (waiting_bounded (by decide))
  refine ⟨by decide +kernel, attempts.2.1, ?_⟩
  exact (attempts.2.2 1 [] _ [] (List.append_nil _).symm (by decide +kernel)).2

/-! ## Delivered rows -/

/-- The row that a worker sends, or whose failure it records. -/
def processed : {β : Type} → Op β → Option Nat
  | _, .send id _ => some id
  | _, .deliver (.markFailed id _ _ _ _) => some id
  | _, .deliver (.markFailedTerminal id _) => some id
  | _, _ => none

/-- A row is sent, and a failure recorded, only while the row is being processed. -/
def LeaseKept (event : DbEvent) : Prop :=
  ∀ id ∈ processed event.operation,
    (event.before.outbox.get? id).any (fun row => row.status == .processing) = true

instance (event : DbEvent) : Decidable (LeaseKept event) :=
  inferInstanceAs (Decidable (∀ id ∈ processed event.operation, _))

/-- A row is recorded as sent. -/
def Confirms (id : Nat) (event : DbEvent) : Bool :=
  match event with
  | { operation := .deliver (.markSent target), result := .ok _, .. } => target == id
  | _ => false

def isSend (id : Nat) : {β : Type} → Op β → Bool
  | _, .send target _ => target == id
  | _, _ => false

/-- The row is sent, unless it has been deleted. -/
def Delivered (id : Nat) (store : Store) : Prop :=
  ∀ row, store.outbox.get? id = some row → row.status = .sent

/-- An event leaves a delivered row alone. -/
def LeftAlone (id : Nat) (event : DbEvent) : Prop :=
  ¬ (isClaim event.operation = true ∧ Changes id event) ∧ isSend id event.operation = false

theorem delivered_of_event {β : Type} {choice : Choice} {operation : Op β}
    (kept : LeaseKept (database.event choice operation store))
    (delivered : Delivered id store) (old : id < store.outbox.nextId) :
    Delivered id (database.perform choice operation store).2 ∧
      LeftAlone id (database.event choice operation store) := by
  have unprocessed : processed operation ≠ some id := by
    intro same
    have processing := kept id same
    cases found : store.outbox.get? id with
    | none => simp [Machine.event, found] at processing
    | some row => simp [Machine.event, found, delivered row found] at processing
  have unsent : isSend id operation = false := by
    cases operation with
    | send =>
      exact beq_eq_false_iff_ne.mpr (fun same => unprocessed (congrArg some same))
    | _ => rfl
  have change := perform_outbox choice operation store id
  generalize after : (database.perform choice operation store).2.outbox.get? id = result at change
  cases change with
  | same =>
    refine ⟨fun row found => delivered row (after.symm.trans found), ?_, unsent⟩
    exact fun both => both.2 after
  | enqueue fresh => exact absurd old (not_lt.mpr fresh)
  | @deliver _ statement _ _ present changed =>
    have sent := delivered _ present
    cases statement with
    | claimPending => simp [RowChange, NotificationOutbox.due, sent] at changed
    | markSent =>
      cases changed.2
      refine ⟨?_, fun both => absurd both.1 Bool.false_ne_true, unsent⟩
      intro row found
      cases after.symm.trans found
      rfl
    | markFailed | markFailedTerminal =>
      exact absurd (congrArg some changed.1.symm) unprocessed
    | recoverStaleProcessing =>
      simp [RowChange, NotificationOutbox.stale, sent] at changed
    | redriveFailed => cases sent.symm.trans changed.1
    | deleteSentBatch =>
      cases changed.2
      refine ⟨?_, fun both => absurd both.1 Bool.false_ne_true, unsent⟩
      intro row found
      cases after.symm.trans found

theorem markSentTx_ok {now : Time} (committed : markSentTx now id store = .ok ((), final)) :
    ∃ row : NotificationOutbox, final.outbox.get? id = some (row.markedSent now) := by
  rcases Tx.bind_ok.mp committed with ⟨affected, middle, updated, required⟩
  cases requireAffected_ok required
  cases affected with
  | false => cases required
  | true =>
    unfold updateOutboxRow at updated
    split at updated
    · cases updated
    · rename_i row found
      cases updated
      exact ⟨row, (SerialTable.get?_update_self _ _ _).trans (congrArg (Option.map _) found)⟩

theorem delivered_of_confirms {β : Type} {choice : Choice} {operation : Op β}
    (confirms : Confirms id (database.event choice operation store) = true) :
    Delivered id (database.perform choice operation store).2 ∧
      id < (database.perform choice operation store).2.outbox.nextId := by
  cases operation with
  | deliver statement =>
    cases statement with
    | markSent target =>
      rcases commit_cases choice (markSentTx choice.now target) store with
        ⟨error, failed⟩ | ⟨value, final, committed, commits⟩
      · have performed : database.perform choice (.deliver (.markSent target)) store =
            (.error error, store) := failed
        simp only [Machine.event, performed] at confirms
        cases confirms
      · have performed : database.perform choice (.deliver (.markSent target)) store =
            (.ok value, final) := commits
        simp only [Machine.event, performed] at confirms ⊢
        cases beq_iff_eq.mp confirms
        rcases markSentTx_ok committed with ⟨row, found⟩
        refine ⟨?_, SerialTable.lt_nextId_of_get? found⟩
        intro other present
        cases found.symm.trans present
        rfl
    | _ => cases confirms
  | _ => cases confirms

/-- Once a row is recorded as sent it stays sent until it is deleted, and no
worker claims or sends it again. -/
theorem pool_delivered (pool : Pool deployment activities store trace final)
    (kept : ∀ entry ∈ trace, LeaseKept entry.2) {earlier later : List (ι × DbEvent)}
    {entry : ι × DbEvent} (split : trace = earlier ++ entry :: later)
    (confirms : Confirms id entry.2 = true) :
    (∀ other ∈ later, Delivered id other.2.before ∧ Delivered id other.2.after ∧
      LeftAlone id other.2) ∧ Delivered id final := by
  have listed : ∀ other ∈ entry :: later, other ∈ trace := by
    intro other member
    rw [split]
    exact List.mem_append_right _ member
  rcases pool.event_eq (listed entry List.mem_cons_self) with ⟨choice, shape⟩
  have chained := pool.chained
  rw [split, List.map_append, chained_append] at chained
  rcases chained with ⟨_, _, _, chained⟩
  have steps : ∀ other ∈ later, Delivered id other.2.before ∧ id < other.2.before.outbox.nextId →
      (Delivered id other.2.after ∧ id < other.2.after.outbox.nextId) ∧ LeftAlone id other.2 := by
    intro other member settled
    have present := listed other (List.mem_cons_of_mem _ member)
    rcases pool.event_eq present with ⟨choice, shape⟩
    have lease := kept other present
    rw [shape] at lease ⊢
    have step := delivered_of_event lease settled.1 settled.2
    exact ⟨⟨step.1, lt_of_lt_of_le settled.2 (nextId_le_perform _ _ _)⟩, step.2⟩
  have around := chained.invariant (fun store => Delivered id store ∧ id < store.outbox.nextId)
    (by
      rw [shape] at confirms ⊢
      exact delivered_of_confirms confirms) (fun event member before => by
      rcases List.mem_map.mp member with ⟨other, present, rfl⟩
      exact (steps other present before).1)
  refine ⟨?_, around.2.1⟩
  intro other member
  have beside := around.1 other.2 (List.mem_map_of_mem member)
  exact ⟨beside.1.1, beside.2.1, (steps other member beside.1).2⟩

/-- A worker is still sending when its lease runs out; another one sends the
row and records it; then the first one fails. -/
def belatedTurns : List (Nat × Choice) :=
  turnsAt 0 .accepted 0 2 ++ turnsAt 1000 .accepted 1 4 ++ turnsAt 1000 (.rejected false "refused") 0 4

/-- The delivered row waits to be sent once more. -/
theorem pool_delivered_fails :
    ¬ ∀ (trace earlier later : List (Nat × DbEvent)) (final : Store) (entry : Nat × DbEvent),
      Pool quietDeployment (coworkers 5) waitingStore trace final →
      trace = earlier ++ entry :: later → Confirms 1 entry.2 = true → Delivered 1 final := by
  intro delivered
  have confirmed : ∃ entry ∈ (coworkersRun 5 belatedTurns).1, Confirms 1 entry.2 = true := by
    decide +kernel
  have pending : ∃ entry ∈ (coworkersRun 5 belatedTurns).2.outbox.rows,
      entry.1 = 1 ∧ entry.2.status = .pending := by decide +kernel
  rcases confirmed with ⟨entry, member, confirms⟩
  rcases List.append_of_mem member with ⟨earlier, later, split⟩
  rcases pending with ⟨⟨_, row⟩, listed, rfl, waits⟩
  have sent := delivered _ earlier later _ entry
    (schedule_interleaving database _ belatedTurns waitingStore) split confirms row
    (SerialTable.mem_rows.mp listed)
  cases waits.symm.trans sent

/-- Of three workers only the first one sends the row. -/
theorem pool_delivered_once :
    claimants (coworkersRun 5 (sharedTurns .accepted)).1 = [0] ∧
      Delivered 1 (coworkersRun 5 (sharedTurns .accepted)).2 ∧
      (coworkersRun 5 (sharedTurns .accepted)).2.outbox.get? 1 ≠ none := by
  refine ⟨by decide +kernel, ?_, by decide +kernel⟩
  have confirmed : ∃ entry ∈ (coworkersRun 5 (sharedTurns .accepted)).1,
      Confirms 1 entry.2 = true := by decide +kernel
  rcases confirmed with ⟨entry, member, confirms⟩
  rcases List.append_of_mem member with ⟨earlier, later, split⟩
  exact (pool_delivered (schedule_interleaving database
    (fun party => (coworkers 5 party).program quietDeployment) (sharedTurns .accepted)
    waitingStore) (by decide +kernel) split confirms).2

end StatusDashboard.Properties
