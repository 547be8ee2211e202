import StatusDashboard.Storage.Announcement

namespace StatusDashboard.Storage

open Event Tables Notification Process

/-!
# What happens to the outbox

A transaction on events adds the rows of the change it announces whose keys
are still free, and nothing else.  A delivery statement never adds a row; what
it may do to one row is the relation `RowChange`.  Together the two describe
every operation, so that a property of the outbox is shown by cases of
`RowChange` and of freshly built rows only.
-/

variable {β : Type} {choice : Choice} {store final : Store}

/-! ## Transactions on events -/

/-- The rows a publisher builds for a change. -/
def announcement (publisher : Option Publisher) (choice : Choice) (change : Change) :
    List NotificationOutbox :=
  match publisher with
  | none => []
  | some publisher =>
    if publisher.enabled then publisher.resolver.buildRows choice.now choice.changeId change
    else []

/-- The change of status that a copy of an event is written with. -/
def changeOf (incident : Incident) (oldStatus : Status) (actor : String) : Change where
  incidentId := incident.id
  title := strDeref incident.text
  oldStatus := oldStatus
  newStatus := incident.status
  contactEmail := strDeref incident.contactEmail
  actor := actor

/-- The rows of the change a transaction announces; `fresh` is the id a new
event gets. -/
def EventWrite.announced (choice : Choice) (fresh : Nat) :
    {β : Type} → EventWrite β → List NotificationOutbox
  | _, .createEvent publisher incident userID =>
    if incident.type = .maintenance then
      announcement publisher choice (changeOf
        { incident with id := fresh, status := (initialStatus incident).1 } .unset
        (strDeref userID))
    else []
  | _, .persistPatch publisher stored oldStatus userID =>
    if stored.status = oldStatus then []
    else if stored.type = .maintenance then
      announcement publisher choice (changeOf stored oldStatus (strDeref userID))
    else []
  | _, .checkerPatch publisher fresh oldStatus =>
    announcement publisher choice (changeOf fresh oldStatus actorChecker)
  | _, _ => []

theorem announcement_distinct (publisher : Option Publisher) (choice : Choice) (change : Change) :
    ((announcement publisher choice change).map NotificationOutbox.dedupKey).Nodup := by
  unfold announcement
  cases publisher with
  | none => exact List.nodup_nil
  | some =>
    dsimp only
    split_ifs
    · exact buildRows_distinct _ _ _ _
    · exact List.nodup_nil

theorem enqueueAll_ok {rows : List NotificationOutbox}
    (distinct : (rows.map NotificationOutbox.dedupKey).Nodup)
    (committed : enqueueAll rows store = .ok ((), final)) :
    final = store.insertOutboxAll (unannounced store rows) := by
  induction rows generalizing store with
  | nil =>
    rw [enqueueAll, Tx.pure_ok] at committed
    exact committed.2.symm
  | cons row rows ih =>
    obtain ⟨apart, distinct⟩ := List.nodup_cons.mp distinct
    rw [enqueueAll, Tx.bind_ok] at committed
    rcases committed with ⟨_, middle, first, rest⟩
    have onward := ih distinct rest
    unfold enqueue at first
    split_ifs at first with empty taken fits
    · cases first
      simpa [unannounced, taken] using onward
    · cases first
      rw [unannounced_insertOutbox apart] at onward
      rw [onward]
      simp only [unannounced, List.filter_cons, taken]
      rfl

theorem publishTx_ok {publisher : Option Publisher} {change : Change}
    (committed : publishTx publisher choice.now choice.changeId change store = .ok ((), final)) :
    final = store.insertOutboxAll (unannounced store (announcement publisher choice change)) := by
  refine enqueueAll_ok (announcement_distinct publisher choice change) ?_
  rw [← committed]
  cases publisher with
  | none => rfl
  | some =>
    unfold announcement publishTx
    dsimp only
    split_ifs <;> rfl

theorem publishMaintenanceChange_ok {publisher : Option Publisher} {incident : Incident}
    {oldStatus : Status} {userID : Option String}
    (committed : publishMaintenanceChange publisher choice.now choice.changeId incident oldStatus
      userID store = .ok ((), final)) :
    final = store.insertOutboxAll (unannounced store (if incident.type = .maintenance then
      announcement publisher choice (changeOf incident oldStatus (strDeref userID)) else [])) := by
  unfold publishMaintenanceChange at committed
  split_ifs at committed with silent
  · rw [Tx.pure_ok] at committed
    have none : (if incident.type = .maintenance then
        announcement publisher choice (changeOf incident oldStatus (strDeref userID)) else [])
          = [] := by
      split_ifs with maintenance
      · have disabled := silent.resolve_right (not_not.mpr maintenance)
        unfold announcement
        cases publisher with
        | none => rfl
        | some => exact if_neg (by simpa [Publisher.isEnabled] using disabled)
      · rfl
    rw [none]
    exact committed.2.symm
  · rw [not_or, not_not] at silent
    rw [if_pos silent.2]
    exact publishTx_ok committed

/-- A transaction on events adds what it announces and nobody was told yet. -/
theorem write_outbox {statement : EventWrite β} {value : β}
    (committed : statement.exec choice store = .ok (value, final)) :
    final.outbox = store.outbox.insertAll
      (unannounced store (statement.announced choice store.incidents.nextId)) := by
  have told : ∀ {modified : Store} (rows : List NotificationOutbox),
      modified.outbox = store.outbox → final = modified.insertOutboxAll (unannounced modified rows) →
      final.outbox = store.outbox.insertAll (unannounced store rows) := by
    intro modified rows same equal
    rw [equal]
    unfold Store.insertOutboxAll unannounced rowExists
    rw [same]
  cases statement with
  | createEvent =>
    rcases createEventTx_ok committed with
      ⟨saved, inserted, modified, version, save, effect, ⟨_, _, rfl⟩, published⟩
    rcases saveIncidentTx_ok save with ⟨insertion, _, _, rfl⟩
    exact told _ (effect.outbox.trans insertion.outbox) (publishMaintenanceChange_ok published)
  | persistPatch publisher stored oldStatus =>
    rcases persistPatchTx_ok committed with
      ⟨version, modified, effect, ⟨_, _, rfl⟩, unchanged, changed⟩
    by_cases same : stored.status = oldStatus
    · rw [unchanged same, effect.outbox]
      simp [EventWrite.announced, same, unannounced, SerialTable.insertAll]
    · rw [EventWrite.announced, if_neg same]
      exact told _ effect.outbox (publishMaintenanceChange_ok (changed same))
  | checkerPatch =>
    rcases checkerPatchTx_ok committed with ⟨version, modified, effect, ⟨_, _, rfl⟩, published⟩
    exact told _ effect.outbox (publishTx_ok published)
  | modifyIncident =>
    rcases modifyIncident_ok committed with ⟨version, effect, _⟩
    exact effect.outbox
  | saveIncident => exact (saveIncidentTx_ok committed).1.outbox
  | addComponent => exact (addComponentTx_ok committed).1.outbox
  | moveComponent =>
    exact (moveComponentTx_ok committed).1.outbox
  | extractComponents =>
    exact (extractComponentsTx_ok committed).1.outbox
  | increaseImpact =>
    rw [(increaseImpactTx_ok committed).2]
    rfl
  | reOpenIncident => exact (reOpenIncidentTx_ok committed).2.2.2.2
  | modifyEventUpdate =>
    rcases modifyEventUpdateTx_ok committed with ⟨row, _, rfl⟩
    rfl

/-- A row as it is built for a recipient of a change. -/
def Built (row : NotificationOutbox) : Prop :=
  ∃ (resolver : Resolver) (changedAt : Time) (changeId : String) (change : Change)
    (recipient : String), row = resolver.buildRow changedAt changeId change recipient

theorem built_of_announced {statement : EventWrite β} {fresh : Nat} {row : NotificationOutbox}
    (member : row ∈ statement.announced choice fresh) : Built row := by
  have built : ∀ (publisher : Option Publisher) (change : Change),
      row ∈ announcement publisher choice change → Built row := by
    intro publisher change listed
    unfold announcement at listed
    cases publisher with
    | none => cases listed
    | some =>
      dsimp only at listed
      split_ifs at listed
      · rcases List.mem_map.mp listed with ⟨recipient, _, rfl⟩
        exact ⟨_, _, _, _, _, rfl⟩
      · cases listed
  cases statement with
  | createEvent =>
    dsimp only [EventWrite.announced] at member
    split_ifs at member
    · exact built _ _ member
    · cases member
  | persistPatch =>
    dsimp only [EventWrite.announced] at member
    split_ifs at member
    · cases member
    · exact built _ _ member
    · cases member
  | checkerPatch => exact built _ _ member
  | _ => cases member

/-! ## Delivery statements -/

/-- What a delivery statement does to a row it changes. -/
def RowChange (now : Time) :
    {β : Type} → OutboxWrite β → Nat → NotificationOutbox → Option NotificationOutbox → Prop
  | _, .claimPending _ leaseOwner, _, row, after =>
    row.due now = true ∧ after = some (row.claimed now leaseOwner)
  | _, .markSent target, id, row, after => id = target ∧ after = some (row.markedSent now)
  | _, .markFailed target errText attempts maxAttempts retryAt, id, row, after =>
    id = target ∧ after = some (row.markedFailed now errText attempts maxAttempts retryAt)
  | _, .markFailedTerminal target errText, id, row, after =>
    id = target ∧ after = some (row.markedFailedTerminal now errText)
  | _, .recoverStaleProcessing leaseTimeout maxAttempts, _, row, after =>
    row.stale (now - leaseTimeout) = true ∧ after = some (row.recovered now maxAttempts)
  | _, .redriveFailed _, _, row, after => row.status = .failed ∧ after = some (row.redriven now)
  | _, .deleteSentBatch _ _, _, row, after => row.status = .sent ∧ after = none

theorem updateOutboxRow_ok {target : Nat} {rewrite : NotificationOutbox → NotificationOutbox}
    {affected : Bool} (updated : updateOutboxRow target rewrite store = .ok (affected, final)) :
    final = { store with outbox := store.outbox.update target rewrite } := by
  unfold updateOutboxRow at updated
  split at updated
  · rename_i missing
    cases updated
    rw [SerialTable.update_of_get?_none missing]
  · cases updated
    rfl

theorem requireAffected_ok {affected : Bool}
    (required : requireAffected affected store = .ok ((), final)) : final = store := by
  unfold requireAffected at required
  split_ifs at required
  · rw [Tx.pure_ok] at required
    exact required.2.symm
  · cases required

/-- A delivery statement rewrites rows of the outbox only, each in the one way
it has. -/
theorem deliver_ok {statement : OutboxWrite β} {value : β}
    (committed : statement.exec choice store = .ok (value, final)) :
    ∃ rewrite, final = { store with outbox := store.outbox.alter rewrite } ∧
      ∀ id row, store.outbox.get? id = some row →
        rewrite id row = some row ∨ RowChange choice.now statement id row (rewrite id row) := by
  have marked : ∀ {target : Nat} {rewrite : NotificationOutbox → NotificationOutbox}
      {affected : Bool}, (∀ row, RowChange choice.now statement target row (some (rewrite row))) →
      updateOutboxRow target rewrite store = .ok (affected, final) →
      ∃ rewrite, final = { store with outbox := store.outbox.alter rewrite } ∧
        ∀ id row, store.outbox.get? id = some row →
          rewrite id row = some row ∨ RowChange choice.now statement id row (rewrite id row) := by
    intro target rewrite affected change updated
    refine ⟨_, updateOutboxRow_ok updated, ?_⟩
    intro id row _
    split_ifs with hit
    · subst hit
      exact Or.inr (change row)
    · exact Or.inl rfl
  have picked : ∀ {rows : List (Nat × NotificationOutbox)} {id : Nat} {row : NotificationOutbox},
      rows.Sublist store.outbox.rows → store.outbox.get? id = some row →
      id ∈ rows.map Prod.fst → (id, row) ∈ rows := by
    intro rows id row sublist found member
    rcases List.mem_map.mp member with ⟨⟨_, other⟩, listed, rfl⟩
    have stored := SerialTable.mem_rows.mp (sublist.subset listed)
    rw [found] at stored
    cases stored
    exact listed
  cases statement with
  | claimPending =>
    cases committed
    refine ⟨_, rfl, ?_⟩
    intro id row found
    split_ifs with member
    · have listed := picked ((List.take_sublist _ _).trans List.filter_sublist) found member
      have taken := (List.mem_filter.mp (List.mem_of_mem_take listed)).2
      exact Or.inr ⟨(Bool.and_eq_true_iff.mp taken).1, rfl⟩
    · exact Or.inl rfl
  | markSent | markFailedTerminal =>
    rcases Tx.bind_ok.mp committed with ⟨affected, middle, updated, required⟩
    cases requireAffected_ok required
    exact marked (fun row => ⟨rfl, rfl⟩) updated
  | markFailed =>
    rcases Tx.bind_ok.mp committed with ⟨affected, middle, updated, finish⟩
    cases (Tx.pure_ok.mp finish).2
    exact marked (fun row => ⟨rfl, rfl⟩) updated
  | recoverStaleProcessing =>
    cases committed
    refine ⟨_, rfl, ?_⟩
    intro id row _
    split_ifs with taken
    · exact Or.inr ⟨(Bool.and_eq_true_iff.mp taken).1, rfl⟩
    · exact Or.inl rfl
  | redriveFailed =>
    cases committed
    refine ⟨_, rfl, ?_⟩
    intro id row _
    split_ifs with hit
    · simp only [Bool.and_eq_true, beq_iff_eq] at hit
      exact Or.inr ⟨hit.1, rfl⟩
    · exact Or.inl rfl
  | deleteSentBatch =>
    cases committed
    refine ⟨_, rfl, ?_⟩
    intro id row found
    split_ifs with member
    · have listed := picked ((List.take_sublist _ _).trans List.filter_sublist) found member
      have sent := (List.mem_filter.mp (List.mem_of_mem_take listed)).2
      simp only [Bool.and_eq_true, beq_iff_eq] at sent
      exact Or.inr ⟨sent.1, rfl⟩
    · exact Or.inl rfl

/-- Delivery never touches events. -/
theorem deliver_sameEvents (statement : OutboxWrite β) (choice : Choice) (store : Store) :
    SameEvents store (database.perform choice (.deliver statement) store).2 := by
  rw [perform_deliver]
  rcases commit_cases choice (statement.exec choice) store with ⟨error, shape⟩ |
    ⟨value, final, commits, shape⟩
  · rw [shape]
    exact SameEvents.refl store
  · rw [shape]
    rcases deliver_ok commits with ⟨rewrite, rfl, _⟩
    exact ⟨rfl, rfl, rfl, rfl⟩

/-! ## Any operation -/

/-- What an operation leaves of the row with a given id: what was there, a row
built just now, or what a delivery statement made of it. -/
inductive OutboxChange (choice : Choice) (store : Store) (id : Nat) :
    {β : Type} → Op β → Option NotificationOutbox → Prop
  | same {β : Type} {operation : Op β} :
      OutboxChange choice store id operation (store.outbox.get? id)
  | enqueue {β : Type} {statement : EventWrite β} {row : NotificationOutbox}
      (fresh : store.outbox.nextId ≤ id) (built : Built row) :
      OutboxChange choice store id (.write statement) (some row)
  | deliver {β : Type} {statement : OutboxWrite β} {row : NotificationOutbox}
      {after : Option NotificationOutbox} (found : store.outbox.get? id = some row)
      (change : RowChange choice.now statement id row after) :
      OutboxChange choice store id (.deliver statement) after

theorem perform_outbox (choice : Choice) (operation : Op β) (store : Store) (id : Nat) :
    OutboxChange choice store id operation
      ((database.perform choice operation store).2.outbox.get? id) := by
  cases operation with
  | write statement =>
    rw [perform_write]
    rcases commit_cases choice (statement.exec choice) store with
      ⟨error, failed⟩ | ⟨value, final, committed, commits⟩
    · rw [failed]
      exact .same
    · rw [commits]
      dsimp only
      by_cases old : id < store.outbox.nextId
      · rw [write_outbox committed, SerialTable.get?_insertAll_of_lt _ old]
        exact .same
      · rw [write_outbox committed]
        cases found : (store.outbox.insertAll _).get? id with
        | none =>
          rw [← SerialTable.get?_of_nextId_le (not_lt.mp old)]
          exact .same
        | some =>
          rcases SerialTable.get?_insertAll_cases found with stored | added
          · exact absurd (SerialTable.lt_nextId_of_get? stored) old
          · exact .enqueue (not_lt.mp old) (built_of_announced (mem_unannounced.mp added).1)
  | deliver statement =>
    rw [perform_deliver]
    rcases commit_cases choice (statement.exec choice) store with
      ⟨error, failed⟩ | ⟨value, final, committed, commits⟩
    · rw [failed]
      exact .same
    · rw [commits]
      rcases deliver_ok committed with ⟨rewrite, rfl, changes⟩
      dsimp only
      rw [SerialTable.get?_alter]
      have kept : OutboxChange choice store id (.deliver statement) (store.outbox.get? id) := .same
      cases found : store.outbox.get? id with
      | none =>
        rw [found] at kept
        exact kept
      | some row =>
        rcases changes id row found with same | changed
        · rw [Option.bind_some, same]
          exact found ▸ kept
        · exact .deliver found changed
  | _ => exact .same

/-- An id is given once. -/
theorem nextId_le_perform (choice : Choice) (operation : Op β) (store : Store) :
    store.outbox.nextId ≤ (database.perform choice operation store).2.outbox.nextId := by
  cases operation with
  | write statement =>
    rw [perform_write]
    rcases commit_cases choice (statement.exec choice) store with
      ⟨error, failed⟩ | ⟨value, final, committed, commits⟩
    · rw [failed]
    · rw [commits, write_outbox committed]
      exact SerialTable.nextId_le_insertAll _ _
  | deliver statement =>
    rw [perform_deliver]
    rcases commit_cases choice (statement.exec choice) store with
      ⟨error, failed⟩ | ⟨value, final, committed, commits⟩
    · rw [failed]
    · rw [commits]
      rcases deliver_ok committed with ⟨rewrite, rfl, _⟩
      exact le_of_eq (SerialTable.nextId_alter _ _).symm
  | _ => exact le_rfl

end StatusDashboard.Storage
