import StatusDashboard.Properties.Leases
import StatusDashboard.Properties.Writeback

namespace StatusDashboard.Properties

open Storage Tables Notification Handlers Process Provenance

/-!
# What is kept

Requests, checkers, workers and operators run at the same time.  None of them
removes an event or one of its updates, and what a notification says, and to
whom, is settled when it is enqueued.
-/

variable {ι : Type} [DecidableEq ι] {deployment : Deployment} {activities : ι → Activity}
  {store final : Store} {trace : List (ι × DbEvent)} {id : Nat} {row : NotificationOutbox}

/-- Events stay, with their types and updates, and a maintenance is only rewritten
under a higher version. -/
theorem pool_keeps (pool : Pool deployment activities store trace final) :
    (∀ entry ∈ trace, Evolves store entry.2.before ∧ Evolves entry.2.before entry.2.after) ∧
      Evolves store final := by
  have held := pool_guarantees pool (fun _ => Or.inr rfl) evolution (fun _ _ => True) (fun _ _ => True)
    (fun _ => ⟨fun _ _ _ _ => trivial, fun _ _ _ => trivial, fun _ _ _ => trivial⟩)
    (fun _ _ _ _ _ _ _ _ _ grown _ _ => ⟨grown, trivial⟩) trivial (fun _ _ => trivial)
  refine ⟨?_, held.2⟩
  intro entry member
  exact ⟨(held.1 entry member).2.2, (held.1 entry member).2.1⟩

/-- Two editors of one incident. -/
theorem pool_keeps_edited :
    (reportedStore.incidents.get? 1).isSome = true ∧
      Evolves reportedStore (incidentRun overlap).2 :=
  ⟨by decide +kernel, (pool_keeps (schedule_interleaving database _ overlap reportedStore :
    Pool quietDeployment (twoEditors .analysing none none) _ _ _)).2⟩

/-! ## Notifications -/

/-- What a row says, to whom, and under which key. -/
def message (row : NotificationOutbox) :
    NotificationKind × Nat × String × Payload × String × String :=
  (row.kind, row.incidentId, row.recipient, row.payload, row.changeId, row.dedupKey)

theorem message_of_change {β : Type} {now : Time} {statement : OutboxWrite β}
    {later : NotificationOutbox} (change : RowChange now statement id row (some later)) :
    message later = message row := by
  cases statement with
  | markFailed =>
    cases change.2
    unfold NotificationOutbox.markedFailed
    split_ifs <;> rfl
  | recoverStaleProcessing =>
    cases change.2
    unfold NotificationOutbox.recovered
    split_ifs <;> rfl
  | _ =>
    cases change.2
    all_goals rfl

/-- The id is taken, and the row that has it, unless it was pruned, says this. -/
def Says (id : Nat) (row : NotificationOutbox) (store : Store) : Prop :=
  id < store.outbox.nextId ∧
    ∀ later, store.outbox.get? id = some later → message later = message row

/-- A notification says the same for as long as it is there. -/
theorem pool_messages (pool : Pool deployment activities store trace final)
    (found : store.outbox.get? id = some row) :
    (∀ entry ∈ trace, Says id row entry.2.before ∧ Says id row entry.2.after) ∧
      Says id row final := by
  have start : Says id row store := by
    refine ⟨SerialTable.lt_nextId_of_get? found, ?_⟩
    intro later present
    cases found.symm.trans present
    rfl
  have said := pool.chained.invariant (Says id row) start ?_
  · exact ⟨fun entry member => said.1 entry.2 (List.mem_map_of_mem member), said.2⟩
  · intro event listed before
    rcases List.mem_map.mp listed with ⟨entry, member, rfl⟩
    constructor
    · rcases pool.event_eq member with ⟨choice, shape⟩
      rw [shape]
      exact before.1.trans_le (nextId_le_perform choice entry.2.operation entry.2.before)
    · intro later present
      rcases pool_change pool member id with ⟨β, choice, operation, shape, change⟩
      rw [present] at change
      generalize after : some later = result at change
      cases change with
      | same => exact before.2 later after.symm
      -- Ids are given once, so no new row takes this one.
      | enqueue fresh => exact absurd before.1 (not_lt.mpr fresh)
      | deliver earlier changed =>
        subst after
        exact (message_of_change changed).trans (before.2 _ earlier)

/-- A notification that was sent. -/
theorem pool_messages_sent :
    Says 1 waitingRow (coworkersRun 2 (turnsAt 0 .accepted 0 4)).2 ∧
      (coworkersRun 2 (turnsAt 0 .accepted 0 4)).2.outbox.get? 1 ≠ none := by
  have pool : Pool quietDeployment (coworkers 2) waitingStore _ _ :=
    schedule_interleaving database _ (turnsAt 0 .accepted 0 4) waitingStore
  exact ⟨(pool_messages pool rfl).2, by decide +kernel⟩

end StatusDashboard.Properties
