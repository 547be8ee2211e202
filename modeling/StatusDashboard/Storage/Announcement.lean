import StatusDashboard.Storage.Effect

namespace StatusDashboard.Storage

open Event Tables Notification

/-!
# What publishing a change does

Enqueueing the rows of one change either stores every row whose key is still
free, in order, or fails because one of these does not fit its columns.
-/

/-- The rows whose key is not taken yet. -/
def unannounced (store : Store) (rows : List NotificationOutbox) : List NotificationOutbox :=
  rows.filter (fun row => !rowExists store row.dedupKey)

def Store.insertOutboxAll (store : Store) (rows : List NotificationOutbox) : Store :=
  { store with outbox := store.outbox.insertAll rows }

theorem rowExists_insertOutbox (store : Store) (row : NotificationOutbox) (key : String) :
    rowExists (store.insertOutbox row) key = (rowExists store key || row.dedupKey == key) := by
  unfold rowExists Store.insertOutbox
  rw [SerialTable.rows_insert]
  simp

theorem mem_unannounced {store : Store} {rows : List NotificationOutbox}
    {row : NotificationOutbox} :
    row ∈ unannounced store rows ↔ row ∈ rows ∧ rowExists store row.dedupKey = false := by
  simp [unannounced]

/-- Storing a row leaves the rows with other keys to announce. -/
theorem unannounced_insertOutbox {store : Store} {row : NotificationOutbox}
    {rows : List NotificationOutbox} (apart : row.dedupKey ∉ rows.map NotificationOutbox.dedupKey) :
    unannounced (store.insertOutbox row) rows = unannounced store rows := by
  refine List.filter_congr ?_
  intro other member
  have different : (row.dedupKey == other.dedupKey) = false := by
    refine beq_eq_false_iff_ne.mpr ?_
    intro same
    exact apart (List.mem_map.mpr ⟨other, member, same.symm⟩)
  rw [rowExists_insertOutbox, different, Bool.or_false]

/-- The whole effect of enqueueing rows with distinct keys for existing events. -/
theorem enqueueAll_eq {rows : List NotificationOutbox} {store : Store}
    (distinct : (rows.map NotificationOutbox.dedupKey).Nodup)
    (named : ∀ row ∈ rows, row.dedupKey ≠ "")
    (present : ∀ row ∈ rows, (store.incidents.get? row.incidentId).isSome) :
    enqueueAll rows store =
      if ∀ row ∈ unannounced store rows, row.storable then
        .ok ((), store.insertOutboxAll (unannounced store rows))
      else .error .constraint := by
  induction rows generalizing store with
  | nil => rfl
  | cons row rows ih =>
    obtain ⟨apart, distinct⟩ := List.nodup_cons.mp distinct
    have name := named row List.mem_cons_self
    have rest (other : Store) (same : other.incidents = store.incidents) :=
      @ih other distinct (fun later member => named later (List.mem_cons_of_mem _ member))
        (fun later member => by
          rw [same]
          exact present later (List.mem_cons_of_mem _ member))
    change (enqueue row store >>= fun pair => enqueueAll rows pair.2) = _
    unfold enqueue
    rw [if_neg name]
    by_cases taken : rowExists store row.dedupKey = true
    · have skipped : unannounced store (row :: rows) = unannounced store rows := by
        simp [unannounced, taken]
      rw [if_pos taken, skipped]
      exact rest store rfl
    · have added : unannounced store (row :: rows) = row :: unannounced store rows := by
        simp [unannounced, taken]
      rw [if_neg taken, added]
      by_cases fits : row.storable = true
      · rw [if_pos ⟨fits, present row List.mem_cons_self⟩]
        have onward := rest (store.insertOutbox row) rfl
        rw [unannounced_insertOutbox apart] at onward
        simp only [List.forall_mem_cons, fits, true_and]
        exact onward
      · rw [if_neg (fun both => fits both.1), if_neg]
        · rfl
        · intro all
          exact fits (all row List.mem_cons_self)

/-- The rows of one change have distinct, nonempty keys and name the changed event. -/
theorem buildRows_distinct (resolver : Resolver) (changedAt : Time) (changeId : String)
    (change : Change) :
    ((resolver.buildRows changedAt changeId change).map NotificationOutbox.dedupKey).Nodup := by
  unfold Resolver.buildRows
  rw [List.map_map]
  refine (resolver.recipients_nodup change.newStatus change.contactEmail).map_on ?_
  intro first _ second _ same
  exact Resolver.dedupKey_recipient_inj same

theorem dedupKey_length (id : Nat) (kind : NotificationKind) (oldStatus newStatus : Status)
    (recipient : String) :
    (Resolver.dedupKey id kind oldStatus newStatus recipient).length
      = (toString id).length + kind.text.length + oldStatus.text.length + newStatus.text.length
        + recipient.length + 4 := by
  unfold Resolver.dedupKey
  simp only [String.length_append]
  have colon : (":" : String).length = 1 := by decide +kernel
  have arrow : (">" : String).length = 1 := by decide +kernel
  rw [colon, arrow]
  omega

theorem dedupKey_ne_empty (id : Nat) (kind : NotificationKind) (oldStatus newStatus : Status)
    (recipient : String) : Resolver.dedupKey id kind oldStatus newStatus recipient ≠ "" := by
  intro empty
  have length := dedupKey_length id kind oldStatus newStatus recipient
  rw [empty] at length
  simp at length

theorem kind_fits (kind : NotificationKind) : kind.text.length ≤ 64 := by
  cases kind <;> decide +kernel

/-- A row fits its columns when its key does, which contains the recipient. -/
theorem buildRow_storable (resolver : Resolver) (changedAt : Time) (changeId : String)
    (change : Change) (recipient : String) :
    (resolver.buildRow changedAt changeId change recipient).storable = true ↔
      (Resolver.dedupKey change.incidentId (kindForStatus change.newStatus) change.oldStatus
        change.newStatus recipient).length ≤ 255 := by
  have length := dedupKey_length change.incidentId (kindForStatus change.newStatus)
    change.oldStatus change.newStatus recipient
  have kind := kind_fits (kindForStatus change.newStatus)
  unfold NotificationOutbox.storable Resolver.buildRow
  simp only [Bool.and_eq_true, decide_eq_true_eq]
  omega

/-- The whole effect of publishing a change of an existing event. -/
theorem publishTx_eq {publisher : Publisher} (enabled : publisher.enabled = true) {now : Time}
    {changeId : String} {change : Change} {store : Store}
    (present : (store.incidents.get? change.incidentId).isSome) :
    publishTx (some publisher) now changeId change store =
      if ∀ row ∈ unannounced store (publisher.resolver.buildRows now changeId change),
          row.storable then
        .ok ((), store.insertOutboxAll
          (unannounced store (publisher.resolver.buildRows now changeId change)))
      else .error .constraint := by
  have built : ∀ row ∈ publisher.resolver.buildRows now changeId change,
      ∃ recipient, publisher.resolver.buildRow now changeId change recipient = row := by
    intro row member
    obtain ⟨recipient, _, same⟩ := List.mem_map.mp member
    exact ⟨recipient, same⟩
  unfold publishTx
  simp only [enabled, if_true]
  refine enqueueAll_eq (buildRows_distinct _ _ _ _) ?_ ?_
  · intro row member
    obtain ⟨recipient, rfl⟩ := built row member
    exact dedupKey_ne_empty _ _ _ _ _
  · intro row member
    obtain ⟨recipient, rfl⟩ := built row member
    exact present

end StatusDashboard.Storage
