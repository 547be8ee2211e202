import StatusDashboard.Provenance.Revision
import StatusDashboard.Handlers.Activity

namespace StatusDashboard.Properties

open Event Storage Handlers Process Tables Provenance

/-!
# Reading an event and writing it back

A component is moved by reading two whole events and writing both back.  The
copy that is read merges an absent value of a column with its zero value, and
the writer has only the copy.  This module says which rows survive the round
trip.
-/

/-! ## Saving a loaded copy -/

section Save

variable {now : Time} {store : Store} {id : Nat} {row : IncidentRow}

/-- Nothing is inserted for updates that are stored. -/
theorem insertNewIncidentStatuses_of_settled {statuses : List IncidentStatus}
    (settled : ∀ status ∈ statuses, status.id ≠ 0) (store : Store) :
    insertNewIncidentStatuses now id statuses store = .ok (statuses, store) := by
  induction statuses with
  | nil => rfl
  | cons status statuses ih =>
    have others := ih (fun other member => settled other (List.mem_cons_of_mem _ member))
    rw [insertNewIncidentStatuses, if_neg (settled status List.mem_cons_self), Tx.bind_ok]
    exact ⟨statuses, store, others, rfl⟩

/-- Reconciling a copy with the components that are stored succeeds. -/
theorem reconcileIncidentComponents_of_same {incident : Incident}
    (present : (store.incidents.get? incident.id).isSome = true)
    (same : incident.componentIds = store.componentIds incident.id) :
    ∃ final, reconcileIncidentComponents incident store = .ok ((), final) := by
  have none : incident.wantedIds.filter (fun id => id ∉ store.componentIds incident.id) = [] := by
    apply List.filter_eq_nil_iff.mpr
    intro other wanted
    simpa [← same] using (mem_wantedIds.mp wanted).1
  have added : ∀ middle : Store, (middle.incidents.get? incident.id).isSome = true →
      ∃ final, addComponentIDs incident.id (incident.wantedIds.filter
        (fun id => id ∉ store.componentIds incident.id)) middle = .ok ((), final) := by
    intro middle there
    rw [none]
    unfold addComponentIDs
    rw [dif_pos there, dif_pos (by simp)]
    exact ⟨_, rfl⟩
  rcases added (store.unlink incident.id ((store.componentIds incident.id).filter
    (fun id => id ∉ incident.wantedIds))) present with ⟨final, linked⟩
  unfold reconcileIncidentComponents
  exact ⟨final, Tx.bind_ok.mpr ⟨store, store, rfl, Tx.bind_ok.mpr ⟨(), _, rfl, linked⟩⟩⟩

/-- The row a loaded copy is written back as. -/
def rewrittenRow (now : Time) (row : IncidentRow) : IncidentRow :=
  { row with
    endDate := optTimePtr row.endDate
    status := some (row.status.getD .unset)
    createdAt := some ((optTimePtr row.createdAt).getD now)
    modifiedAt := some now
    deletedAt := optTimePtr row.deletedAt }

theorem fullRow_storedCopy :
    fullRow now (storedCopy store (id, row)) row = rewrittenRow now row := rfl

theorem storable_rewrittenRow (admitted : row.storable = true) :
    (rewrittenRow now row).storable = true := by
  unfold IncidentRow.storable at admitted ⊢
  cases status : row.status with
  | none => simpa [rewrittenRow, status, fitsVarchar, Status.text] using admitted
  | some => simpa [rewrittenRow, status] using admitted

/-- A loaded copy can always be saved. -/
theorem saveIncidentFull_storedCopy (found : store.incidents.get? id = some row)
    (admitted : row.storable = true) (now : Time) :
    ∃ saved final, saveIncidentFull now (storedCopy store (id, row)) store = .ok (saved, final) := by
  have text : row.text ≠ "" := by
    intro empty
    simp [IncidentRow.storable, empty] at admitted
  have updated : updateOneID id (fullRow now (storedCopy store (id, row))) store =
      .ok ((), store.updateIncident id (fullRow now (storedCopy store (id, row)))) := by
    unfold updateOneID
    rw [found]
    dsimp only
    rw [fullRow_storedCopy, if_pos (storable_rewrittenRow admitted)]
  have present : ((store.updateIncident id (fullRow now (storedCopy store (id, row)))).incidents.get?
      (storedCopy store (id, row)).id).isSome = true := by
    change ((store.incidents.update id _).get? id).isSome = true
    rw [SerialTable.get?_update_self, found]
    rfl
  rcases reconcileIncidentComponents_of_same present (linkedComponents_ids store id) with
    ⟨linked, reconciled⟩
  have inserted : insertNewIncidentStatuses now id (loadedHistory store id) linked =
      .ok (loadedHistory store id, linked) :=
    insertNewIncidentStatuses_of_settled
      (settled_loaded id row (linkedComponents store id) store) linked
  unfold saveIncidentFull
  rw [if_neg (show (storedCopy store (id, row)).text.getD "" ≠ "" from text),
    if_neg (show ¬ (storedCopy store (id, row)).startDate.isNone = true from Bool.false_ne_true)]
  exact ⟨_, linked, Tx.bind_ok.mpr ⟨(), _, updated, Tx.bind_ok.mpr ⟨(), linked, reconciled,
    Tx.bind_ok.mpr ⟨_, linked, inserted, rfl⟩⟩⟩⟩

end Save

/-! ## The round trip -/

/-- The columns are the same but for the time of the change, and for the time of
the creation where there was none. -/
def SameColumns (row kept : IncidentRow) : Prop :=
  { kept with
    modifiedAt := row.modifiedAt
    createdAt := if row.createdAt = none then none else kept.createdAt } = row

/-- The event, its components and all updates are stored as before. -/
structure Unaltered (store final : Store) (id : Nat) (row : IncidentRow) : Prop where
  columns : ∃ kept, final.incidents.get? id = some kept ∧ SameColumns row kept
  components : ∀ component, component ∈ final.componentIds id ↔ component ∈ store.componentIds id
  statuses : final.statuses = store.statuses

/-- The event is read and written back, at some time each. -/
def Restores (choice : Choice) (now : Time) (store : Store) (id : Nat) (row : IncidentRow) : Prop :=
  ∃ copy saved final, (getIncident id).evaluate database choice store = (.ok copy, store) ∧
    saveIncidentFull now copy store = .ok (saved, final) ∧ Unaltered store final id row

/-- No column has a value that the copy cannot tell from an absent one, or is
absent where the writer sets a value. -/
structure Expressible (row : IncidentRow) : Prop where
  status : row.status ≠ none
  endDate : row.endDate ≠ some zeroTime
  createdAt : row.createdAt ≠ some zeroTime
  deletedAt : row.deletedAt ≠ some zeroTime

/-- The columns that are written back are the stored ones if the copy expresses
them. -/
theorem Expressible.sameColumns {row : IncidentRow} (expressible : Expressible row) (now : Time) :
    SameColumns row (rewrittenRow now row) := by
  have status : some (row.status.getD .unset) = row.status := by
    cases stored : row.status with
    | none => exact absurd stored expressible.status
    | some => rfl
  have createdAt : (if row.createdAt = none then none
      else some ((optTimePtr row.createdAt).getD now)) = row.createdAt := by
    rw [optTimePtr_of_ne expressible.createdAt]
    cases row.createdAt <;> rfl
  unfold SameColumns rewrittenRow
  dsimp only
  rw [status, createdAt, optTimePtr_of_ne expressible.endDate,
    optTimePtr_of_ne expressible.deletedAt]

/-- And only then, if the clock does not show the zero time. -/
theorem SameColumns.expressible {row : IncidentRow} {now : Time} (later : now ≠ zeroTime)
    (same : SameColumns row (rewrittenRow now row)) : Expressible row where
  status := by
    intro absent
    have column := congrArg IncidentRow.status same
    rw [absent] at column
    cases column
  endDate := optTimePtr_eq_self.mp (congrArg IncidentRow.endDate same)
  createdAt := by
    intro zero
    have column := congrArg IncidentRow.createdAt same
    dsimp only [rewrittenRow] at column
    rw [zero, if_neg (Option.some_ne_none _), optTimePtr_zero, Option.getD_none] at column
    exact later (Option.some.inj column)
  deletedAt := optTimePtr_eq_self.mp (congrArg IncidentRow.deletedAt same)

section Trip

variable {store : Store} {id : Nat} {row : IncidentRow}
variable (found : store.incidents.get? id = some row) (admitted : row.storable = true)
include found admitted

/-- Reading and writing back succeeds and rewrites the one row. -/
theorem roundtrip_effect {choice : Choice} (faultless : choice.fault = false) (now : Time) :
    ∃ saved final,
      (getIncident id).evaluate database choice store =
        (.ok (storedCopy store (id, row)), store) ∧
      saveIncidentFull now (storedCopy store (id, row)) store = .ok (saved, final) ∧
      final.incidents.get? id = some (rewrittenRow now row) ∧
      (∀ component, component ∈ final.componentIds id ↔ component ∈ store.componentIds id) ∧
      final.statuses = store.statuses := by
  rcases saveIncidentFull_storedCopy found admitted now with ⟨saved, final, committed⟩
  have effect := (saveIncidentFull_ok committed).1
  refine ⟨saved, final, evaluate_getIncident faultless found, committed, ?_, ?_, ?_⟩
  · rw [effect.incidents]
    change (store.incidents.update id _).get? id = _
    rw [SerialTable.get?_update_self, found]
    rfl
  · intro component
    have here : id = (storedCopy store (id, row)).id := rfl
    rw [effect.linked, if_pos here, mem_wantedIds]
    change component ∈ (linkedComponents store id).map Component.id ∧ _ ↔ _
    rw [linkedComponents_ids]
    constructor
    · intro wanted
      exact wanted.1
    · intro linked
      exact ⟨linked, Store.pos_of_mem_componentIds linked⟩
  · have none : newStatusRows now id (storedCopy store (id, row)).statuses = [] :=
      newStatusRows_of_settled (settled_loaded id row (linkedComponents store id) store)
    rw [effect.statuses]
    change store.statuses.insertAll (newStatusRows now id _) = _
    rw [none]
    rfl

/-- Only the columns of the row can suffer. -/
theorem restores_iff {choice : Choice} (faultless : choice.fault = false) (now : Time) :
    Restores choice now store id row ↔ SameColumns row (rewrittenRow now row) := by
  rcases roundtrip_effect found admitted faultless now with
    ⟨saved, final, read, wrote, stored, components, statuses⟩
  constructor
  · intro restores
    rcases restores with ⟨copy, _, _, loaded, committed, unaltered⟩
    cases loaded.symm.trans read
    cases committed.symm.trans wrote
    rcases unaltered.columns with ⟨kept, there, same⟩
    cases stored.symm.trans there
    exact same
  · intro same
    exact ⟨_, saved, final, read, wrote, ⟨_, stored, same⟩, components, statuses⟩

/-- Reading an event and writing it back leaves it unaltered at all times exactly
when the copy expresses its row. -/
theorem roundtrip_iff :
    (∀ (choice : Choice) (now : Time), choice.fault = false → Restores choice now store id row) ↔
      Expressible row := by
  constructor
  · intro restores
    have faultless : (atTime 1).fault = false := rfl
    have same := (restores_iff found admitted faultless 1).mp (restores _ 1 faultless)
    exact same.expressible one_ne_zero
  · intro expressible choice now faultless
    exact (restores_iff found admitted faultless now).mpr (expressible.sameColumns now)

end Trip

/-- A store with one event. -/
def storeOf (row : IncidentRow) : Store := (bareStore 1).insertIncident row

/-- An incident whose status is absent. -/
def statuslessRow : IncidentRow where
  text := "Incident"
  description := none
  startDate := 10
  endDate := none
  impact := 1
  system := false
  type := .incident
  status := none
  createdAt := some 10
  modifiedAt := some 10
  deletedAt := none
  createdBy := none
  contactEmail := none
  version := 1

/-- An absent status is written back as the empty text. -/
theorem roundtrip_fails :
    ¬ ∀ (store : Store) (id : Nat) (row : IncidentRow) (choice : Choice) (now : Time),
      store.incidents.get? id = some row → row.storable = true → choice.fault = false →
      Restores choice now store id row := by
  intro restores
  have found : (storeOf statuslessRow).incidents.get? 1 = some statuslessRow := rfl
  have faultless : (atTime 20).fault = false := rfl
  have same := (restores_iff found (by decide) faultless 20).mp
    (restores _ 1 statuslessRow _ 20 found (by decide) faultless)
  cases congrArg IncidentRow.status same

/-- A maintenance that was cancelled, with a contact. -/
def cancelledMaintenance : Store :=
  (replay quietDeployment
    [(.post .events anAdmin { maintenanceRequest 100 200 with contactEmail := "a@example.com" },
        atTime 20),
      (.patch anAdmin 1 (statusPatch .cancelled 30 (some 2)), atTime 30)] (bareStore 1)).2

/-- A maintenance with its component, its history and all columns set comes back as
it was. -/
theorem roundtrip_cancelled :
    cancelledMaintenance.componentIds 1 = [1] ∧ (loadedHistory cancelledMaintenance 1).length = 2 ∧
    ∃ row, cancelledMaintenance.incidents.get? 1 = some row ∧ row.status = some .cancelled ∧
      row.contactEmail = some "a@example.com" ∧ row.version = 3 ∧
      Restores (atTime 40) 40 cancelledMaintenance 1 row := by
  refine ⟨by decide +kernel, by decide +kernel, ?_⟩
  have columns : ∃ row, cancelledMaintenance.incidents.get? 1 = some row ∧
      row.status = some .cancelled ∧ row.contactEmail = some "a@example.com" ∧ row.version = 3 ∧
      row.storable = true ∧ row.status ≠ none ∧ row.endDate ≠ some zeroTime ∧
      row.createdAt ≠ some zeroTime ∧ row.deletedAt ≠ some zeroTime := by
    refine ⟨_, rfl, ?_⟩
    decide +kernel
  rcases columns with ⟨row, found, status, contact, version, admitted, known, ending, creation, kept⟩
  exact ⟨row, found, status, contact, version,
    (roundtrip_iff found admitted).mpr ⟨known, ending, creation, kept⟩ _ _ rfl⟩

end StatusDashboard.Properties
