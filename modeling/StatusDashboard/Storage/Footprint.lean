import StatusDashboard.Storage.Database
import StatusDashboard.Storage.Effect

namespace StatusDashboard.Storage

open Event Tables Notification

/-!
# The footprint of a transaction

Every write transaction on events, seen the same way: how it rewrites the row
with an id, which row it inserts, which links it leaves and which update rows
it adds.  `exec_footprint` says that a committed transaction did exactly this.
Invariants of whole runs are proved against the footprint, by a case split on
the transaction and no further look at how it is carried out.
-/

/-- The row a creation leaves: inserted, then given its first status. -/
def createdRow (now : Time) (incident : Incident) : IncidentRow :=
  { newIncidentRow now incident with
    status := some (initialStatus incident).1
    version := incident.version.getD 1 + 1
    modifiedAt := some now }

/-- The update a creation adds to the new event. -/
def createdUpdate (now : Time) (userID : Option String) (incident : Incident) (id : Nat) :
    IncidentStatus where
  incidentId := id
  status := (initialStatus incident).1
  text := (initialStatus incident).2
  timestamp := if incident.startDate.getD now < now then incident.startDate.getD now else now
  createdBy := userID

/-- The version a modification leaves. -/
def nextVersion (incident : Incident) : Int := incident.version.getD 0 + 1

namespace EventWrite

/-- How a transaction rewrites the row with an id. -/
def rewritten (choice : Choice) : {β : Type} → EventWrite β → Nat → IncidentRow → IncidentRow
  | _, .createEvent _ _ _, _, row => row
  | _, .persistPatch _ stored _ _, id, row =>
    if id = stored.id then modifiedRow choice.now stored (nextVersion stored) row else row
  | _, .checkerPatch _ fresh _, id, row =>
    if id = fresh.id then modifiedRow choice.now fresh (nextVersion fresh) row else row
  | _, .modifyIncident incident, id, row =>
    if id = incident.id then modifiedRow choice.now incident (nextVersion incident) row else row
  | _, .saveIncident _, _, row => row
  | _, .addComponent incident _ _, id, row =>
    if id = incident.id then { row with version := nextVersion incident } else row
  | _, .moveComponent component incOld incNew closeOld, id, row =>
    writtenRow choice.now incNew (releasedSource component incOld closeOld) id row
  | _, .extractComponents components incident incOld, id, row =>
    writtenRow choice.now incident
      (dropIncidentComponents incOld (components.map Component.id)) id row
  | _, .increaseImpact timeNow incident _, id, row =>
    if id = incident.id then raisedRow timeNow incident row else row
  | _, .reOpenIncident target, id, row => if id = target then { row with endDate := none } else row
  | _, .modifyEventUpdate _, _, row => row

/-- The row a transaction inserts. -/
def inserted (choice : Choice) : {β : Type} → EventWrite β → Option IncidentRow
  | _, .createEvent _ incident _ => some (createdRow choice.now incident)
  | _, .saveIncident incident => some (newIncidentRow choice.now incident)
  | _, _ => none

/-- Whether a component is linked to an id afterwards.  `fresh` is the id of an
inserted row, `stored` says whether the link was there before. -/
def links (fresh id other : Nat) (stored : Prop) : {β : Type} → EventWrite β → Prop
  | _, .createEvent _ incident _ => stored ∨ (id = fresh ∧ other ∈ incident.wantedIds)
  | _, .saveIncident incident => stored ∨ (id = fresh ∧ other ∈ incident.wantedIds)
  | _, .addComponent incident component _ =>
    stored ∨ (id = incident.id ∧ other = component.id ∧ component.id ≠ 0)
  | _, .moveComponent component incOld incNew closeOld =>
    if id = incOld.id then other ∈ (releasedSource component incOld closeOld).wantedIds
    else if id = incNew.id then other ∈ incNew.wantedIds
    else stored
  | _, .extractComponents components incident incOld =>
    if id = incOld.id then
      other ∈ (dropIncidentComponents incOld (components.map Component.id)).wantedIds
    else if id = incident.id then other ∈ incident.wantedIds
    else stored
  | _, _ => stored

/-- The stored events a transaction may rewrite. -/
def targets : {β : Type} → EventWrite β → List Nat
  | _, .createEvent _ _ _ => []
  | _, .persistPatch _ stored _ _ => [stored.id]
  | _, .checkerPatch _ patched _ => [patched.id]
  | _, .modifyIncident incident => [incident.id]
  | _, .saveIncident _ => []
  | _, .addComponent incident _ _ => [incident.id]
  | _, .moveComponent _ incOld incNew _ => [incOld.id, incNew.id]
  | _, .extractComponents _ incident incOld => [incOld.id, incident.id]
  | _, .increaseImpact _ incident _ => [incident.id]
  | _, .reOpenIncident id => [id]
  | _, .modifyEventUpdate _ => []

/-- The copy a version-checked modification writes. -/
def modifies : {β : Type} → EventWrite β → Option Incident
  | _, .persistPatch _ stored _ _ => some stored
  | _, .checkerPatch _ patched _ => some patched
  | _, .modifyIncident incident => some incident
  | _, _ => none

/-- The copy a PATCH writes. -/
def patches : {β : Type} → EventWrite β → Option Incident
  | _, .persistPatch _ stored _ _ => some stored
  | _, _ => none

/-- The update whose text is edited. -/
def edits : {β : Type} → EventWrite β → Option IncidentStatus
  | _, .modifyEventUpdate update => some update
  | _, _ => none

/-- The event a creation stores. -/
def creates : {β : Type} → EventWrite β → Option Incident
  | _, .createEvent _ incident _ => some incident
  | _, _ => none

/-- The incident a move closes, and when. -/
def closes : {β : Type} → EventWrite β → Option (Nat × Time)
  | _, .moveComponent _ incOld _ true => incOld.endDate.map (fun date => (incOld.id, date))
  | _, _ => none

/-- The copies a transaction returns to a caller that goes on using them. -/
def returned : {β : Type} → EventWrite β → β → List Incident
  | _, .createEvent _ _ _, created => [created]
  | _, .saveIncident _, saved => [saved]
  | _, .moveComponent _ _ _ _, copies => [copies.1, copies.2]
  | _, .extractComponents _ _ _, copies => [copies.2]
  | _, _, _ => []

/-- The update rows a transaction inserts. -/
def updates (choice : Choice) (fresh : Nat) : {β : Type} → EventWrite β → List StatusRow
  | _, .createEvent _ incident userID =>
    newStatusRows choice.now fresh incident.statuses ++
      [statusRow choice.now fresh (createdUpdate choice.now userID incident fresh)]
  | _, .persistPatch _ stored _ _ => newStatusRows choice.now stored.id stored.statuses
  | _, .checkerPatch _ patched _ => newStatusRows choice.now patched.id patched.statuses
  | _, .modifyIncident incident => newStatusRows choice.now incident.id incident.statuses
  | _, .saveIncident incident => newStatusRows choice.now fresh incident.statuses
  | _, .addComponent incident _ status => [statusRow choice.now incident.id status]
  | _, .moveComponent component incOld incNew closeOld =>
    newStatusRows choice.now incNew.id incNew.statuses ++
      newStatusRows choice.now incOld.id (releasedSource component incOld closeOld).statuses
  | _, .extractComponents components incident incOld =>
    newStatusRows choice.now incident.id incident.statuses ++
      newStatusRows choice.now incOld.id
        (dropIncidentComponents incOld (components.map Component.id)).statuses
  | _, .increaseImpact timeNow incident status => [statusRow timeNow incident.id status]
  | _, .reOpenIncident _ => []
  | _, .modifyEventUpdate _ => []

end EventWrite

variable {β : Type} {choice : Choice} {statement : EventWrite β} {id other : Nat}
variable {store final : Store} {now : Time} {incident : Incident} {version : Int}

theorem EventWrite.rewritten_of_not_target (untouched : id ∉ statement.targets) (row : IncidentRow) :
    statement.rewritten choice id row = row := by
  cases statement <;>
    simp_all [EventWrite.targets, EventWrite.rewritten, writtenRow, releasedSource_id,
      dropIncidentComponents_id]

/-- Links of a stored event that is not rewritten stay. -/
theorem EventWrite.links_of_not_target {fresh : Nat} {stored : Prop}
    (untouched : id ∉ statement.targets) (old : id ≠ fresh) :
    statement.links fresh id other stored ↔ stored := by
  cases statement <;> simp_all [EventWrite.targets, EventWrite.links]

/-- Two update rows of one event with one status. -/
def SameUpdate (first second : StatusRow) : Prop :=
  first.incidentId = second.incidentId ∧ first.status = second.status

/-- A table of updates that grew by some rows; texts may have changed. -/
structure HistoryGrew (added : List StatusRow) (before after : SerialTable StatusRow) : Prop where
  kept : ∀ id row, before.get? id = some row →
    ∃ later, after.get? id = some later ∧ SameUpdate later row
  origin : ∀ id row, after.get? id = some row →
    (∃ earlier, before.get? id = some earlier ∧ SameUpdate row earlier) ∨ row ∈ added
  added : ∀ row ∈ added, ∃ id, after.get? id = some row

structure Footprint {β : Type} (choice : Choice) (statement : EventWrite β)
    (store final : Store) : Prop where
  rows : ∀ id row, store.incidents.get? id = some row →
    final.incidents.get? id = some (statement.rewritten choice id row)
  fresh : ∀ id, store.incidents.get? id = none →
    final.incidents.get? id = if id = store.incidents.nextId then statement.inserted choice else none
  linked : ∀ id other, other ∈ final.componentIds id ↔
    statement.links store.incidents.nextId id other (other ∈ store.componentIds id)
  components : final.components = store.components
  history : HistoryGrew (statement.updates choice store.incidents.nextId) store.statuses
    final.statuses
  grown : statement.edits = none → final.statuses =
    store.statuses.insertAll (statement.updates choice store.incidents.nextId)
  guarded : ∀ incident, statement.modifies = some incident → ∃ version,
    incident.version = some version ∧ (incident.type = .maintenance →
      ∃ row, store.incidents.get? incident.id = some row ∧ row.version = version)

/-! ## Histories -/

theorem SameUpdate.refl (row : StatusRow) : SameUpdate row row := ⟨rfl, rfl⟩

theorem historyGrew_insertAll (table : SerialTable StatusRow) (added : List StatusRow) :
    HistoryGrew added table (table.insertAll added) where
  kept _ row found := ⟨row, SerialTable.get?_insertAll_of_get? added found, .refl row⟩
  origin _ row found := by
    rcases SerialTable.get?_insertAll_cases found with before | new
    · exact Or.inl ⟨row, before, .refl row⟩
    · exact Or.inr new
  added _ member := SerialTable.exists_get?_insertAll member

theorem historyGrew_nil (table : SerialTable StatusRow) : HistoryGrew [] table table :=
  historyGrew_insertAll table []

/-- Changing the text of a row adds nothing. -/
theorem historyGrew_update {table : SerialTable StatusRow} {row : StatusRow}
    (found : table.get? id = some row) {rewrite : StatusRow → StatusRow}
    (same : SameUpdate (rewrite row) row) : HistoryGrew [] table (table.update id rewrite) where
  kept other earlier present := by
    rw [SerialTable.get?_update]
    split_ifs with here
    · subst here
      rw [found] at present
      cases present
      exact ⟨rewrite row, by rw [found]; rfl, same⟩
    · exact ⟨earlier, present, .refl earlier⟩
  origin other later present := by
    rw [SerialTable.get?_update] at present
    split_ifs at present with here
    · subst here
      rw [found] at present
      cases present
      exact Or.inl ⟨row, found, same⟩
    · exact Or.inl ⟨later, present, .refl later⟩
  added _ member := absurd member List.not_mem_nil

theorem pairwise_history (store : Store) (id : Nat) :
    (store.history id).Pairwise (fun first second => first.1 < second.1) :=
  store.statuses.rows_increasing.sublist List.filter_sublist

theorem mem_history {key : Nat} {row : StatusRow} :
    (key, row) ∈ store.history id ↔ store.statuses.get? key = some row ∧ row.incidentId = id := by
  unfold Store.history
  rw [List.mem_filter, SerialTable.mem_rows, decide_eq_true_eq]

/-- The history of an event is determined by its update rows. -/
theorem history_congr (same : ∀ key row, row.incidentId = id →
      (final.statuses.get? key = some row ↔ store.statuses.get? key = some row)) :
    final.history id = store.history id := by
  have members : ∀ entry, entry ∈ final.history id ↔ entry ∈ store.history id := by
    rintro ⟨key, row⟩
    rw [mem_history, mem_history]
    constructor
    · rintro ⟨found, own⟩
      exact ⟨(same key row own).mp found, own⟩
    · rintro ⟨found, own⟩
      exact ⟨(same key row own).mpr found, own⟩
  have distinct : ∀ store : Store, (store.history id).Nodup := fun store =>
    (List.Nodup.of_map Prod.fst store.statuses.rows_ids_nodup).filter _
  apply List.Perm.eq_of_pairwise _ (pairwise_history final id) (pairwise_history store id)
    ((List.perm_ext_iff_of_nodup (distinct final) (distinct store)).mpr members)
  intro first second _ _ less more
  exact absurd (less.trans more) (Nat.lt_irrefl _)

/-- Added updates of an event stand behind its history. -/
theorem history_insertAll {added : List StatusRow} (id : Nat)
    (grown : final.statuses = store.statuses.insertAll added) :
    ∃ entries, final.history id = store.history id ++ entries ∧
      entries.map Prod.snd = added.filter (fun row => row.incidentId = id) := by
  obtain ⟨entries, listed, values⟩ := SerialTable.rows_insertAll store.statuses added
  refine ⟨entries.filter (fun entry => entry.2.incidentId = id), ?_, ?_⟩
  · unfold Store.history
    rw [grown, listed, List.filter_append]
  · rw [← values, List.filter_map]
    rfl

/-! ## Rows -/

theorem get?_update_some {table : SerialTable IncidentRow} {row : IncidentRow}
    {rewrite : IncidentRow → IncidentRow} (found : table.get? other = some row) :
    (table.update id rewrite).get? other = some (if other = id then rewrite row else row) := by
  rw [SerialTable.get?_update, found]
  split_ifs <;> rfl

theorem get?_update_none {table : SerialTable IncidentRow} {rewrite : IncidentRow → IncidentRow}
    (missing : table.get? other = none) :
    (table.update id rewrite).get? other = none := by
  rw [SerialTable.get?_update, missing]
  split_ifs <;> rfl

theorem Modified.nextVersion_eq (modified : Modified now incident version store final) :
    nextVersion incident = version + 1 := by
  unfold nextVersion
  rw [modified.expected]
  rfl

/-- Giving a new row its first status leaves the created row. -/
theorem modifiedRow_newIncidentRow (now : Time) (userID : Option String) (incident : Incident)
    (id : Nat) (statuses : List IncidentStatus) :
    modifiedRow now (withInitialStatus now userID { incident with
        id := id
        version := some (newIncidentRow now incident).version
        createdAt := (newIncidentRow now incident).createdAt
        modifiedAt := (newIncidentRow now incident).modifiedAt
        statuses := statuses })
      ((newIncidentRow now incident).version + 1) (newIncidentRow now incident) =
      createdRow now incident := by
  have known : (initialStatus incident).1 ≠ .unset := by
    unfold initialStatus
    split
    · simp
    · split_ifs <;> simp
    · simp
  unfold modifiedRow applyIncidentPatch createdRow
  cases incident with
  | mk id text description startDate endDate impact =>
      cases text <;> cases startDate <;> cases impact <;>
        simp_all [withInitialStatus, newIncidentRow, initialStatus]

/-! ## The footprint of each transaction -/

theorem componentIds_of_relation (same : final.relation = store.relation) (id : Nat) :
    final.componentIds id = store.componentIds id := by
  unfold Store.componentIds
  rw [same]

private theorem modified_rows {modified : Store}
    (effect : Modified now incident version store modified) (published : SameEvents modified final) :
    (∀ id row, store.incidents.get? id = some row → final.incidents.get? id =
      some (if id = incident.id then modifiedRow now incident (nextVersion incident) row else row)) ∧
    (∀ id, store.incidents.get? id = none → final.incidents.get? id = none) ∧
    (∀ id other, other ∈ final.componentIds id ↔ other ∈ store.componentIds id) ∧
    final.components = store.components ∧
    final.statuses = store.statuses.insertAll
      (newStatusRows now incident.id incident.statuses) := by
  have incidents := published.incidents.trans effect.incidents
  refine ⟨?_, ?_, ?_, published.components.trans effect.components,
    published.statuses.trans effect.statuses⟩
  · intro id row found
    rw [incidents, get?_update_some found, effect.nextVersion_eq]
  · intro id missing
    rw [incidents]
    exact get?_update_none missing
  · intro id other
    rw [componentIds_of_relation (published.relation.trans effect.relation)]

/-- The footprint of a transaction that modifies one event. -/
private theorem modified_footprint {modified : Store}
    (effect : Modified choice.now incident version store modified)
    (published : SameEvents modified final)
    (rewrites : ∀ id row, statement.rewritten choice id row = if id = incident.id then
      modifiedRow choice.now incident (nextVersion incident) row else row)
    (inserts : statement.inserted choice = none)
    (links : ∀ fresh id other stored, statement.links fresh id other stored = stored)
    (updates : ∀ fresh, statement.updates choice fresh =
      newStatusRows choice.now incident.id incident.statuses)
    (modifies : statement.modifies = some incident) :
    Footprint choice statement store final := by
  rcases modified_rows effect published with ⟨rows, fresh, linked, components, grown⟩
  refine ⟨?_, ?_, ?_, components, ?_, ?_, ?_⟩
  · intro id row found
    rw [rows id row found, rewrites]
  · intro id missing
    rw [fresh id missing, inserts]
    split_ifs <;> rfl
  · intro id other
    rw [linked, links]
  · rw [updates, grown]
    exact historyGrew_insertAll _ _
  · intro _
    rw [updates, grown]
  · intro modified equal
    rw [modifies] at equal
    cases equal
    exact ⟨version, effect.expected, effect.guarded⟩

private theorem pair_footprint {first second : Incident}
    (saved : PairSaved choice.now first second store final)
    (rewrites : ∀ id row, statement.rewritten choice id row =
      writtenRow choice.now first second id row) (inserts : statement.inserted choice = none)
    (links : ∀ fresh id other stored, statement.links fresh id other stored ↔
      if id = second.id then other ∈ second.wantedIds
      else if id = first.id then other ∈ first.wantedIds else stored)
    (updates : ∀ fresh, statement.updates choice fresh =
      newStatusRows choice.now first.id first.statuses ++
        newStatusRows choice.now second.id second.statuses) (modifies : statement.modifies = none) :
    Footprint choice statement store final := by
  refine ⟨?_, ?_, ?_, saved.components, ?_, ?_, ?_⟩
  · intro id row found
    rw [saved.get?, found, rewrites]
    rfl
  · intro id missing
    rw [saved.get?, missing, inserts]
    split_ifs <;> rfl
  · intro id other
    rw [saved.linked, links]
  · rw [saved.statuses, updates]
    exact historyGrew_insertAll _ _
  · intro _
    rw [saved.statuses, updates]
  · intro modified equal
    rw [modifies] at equal
    cases equal

private theorem inserted_rows (inserted : Inserted now incident store final) :
    (∀ id row, store.incidents.get? id = some row → final.incidents.get? id = some row) ∧
    (∀ id, store.incidents.get? id = none → final.incidents.get? id =
      if id = store.incidents.nextId then some (newIncidentRow now incident) else none) := by
  constructor
  · intro id row found
    rw [inserted.incidents]
    exact SerialTable.get?_insert_of_get? _ found
  · intro id missing
    rw [inserted.incidents, SerialTable.get?_insert, missing]

private theorem createEvent_footprint {publisher : Option Publisher} {created : Incident}
    {userID : Option String}
    (committed : createEventTx publisher choice.now choice.changeId incident userID store =
      .ok (created, final)) :
    Footprint choice (.createEvent publisher incident userID) store final := by
  rcases createEventTx_ok committed with
    ⟨saved, middle, modified, version, savedCommitted, effect, _, publication⟩
  rcases saveIncidentTx_ok savedCommitted with ⟨inserted, statuses, nonzero, rfl⟩
  have published := publishMaintenanceChange_sameEvents publication
  rcases modified_rows effect published with ⟨rows, missing, linked, components, _⟩
  rcases inserted_rows inserted with ⟨keptRows, newRows⟩
  have sameVersion : nextVersion (withInitialStatus choice.now userID { incident with
      id := store.incidents.nextId
      version := some (newIncidentRow choice.now incident).version
      createdAt := (newIncidentRow choice.now incident).createdAt
      modifiedAt := (newIncidentRow choice.now incident).modifiedAt
      statuses := statuses }) = (newIncidentRow choice.now incident).version + 1 := rfl
  have onlyNew : newStatusRows choice.now store.incidents.nextId
      (statuses ++ [createdUpdate choice.now userID incident store.incidents.nextId]) =
      [statusRow choice.now store.incidents.nextId
        (createdUpdate choice.now userID incident store.incidents.nextId)] := by
    unfold newStatusRows
    rw [List.filter_append, List.filter_eq_nil_iff.mpr]
    · rfl
    · intro status member
      simpa using nonzero status member
  have grown : final.statuses = store.statuses.insertAll (EventWrite.updates choice
      store.incidents.nextId (.createEvent publisher incident userID)) := by
    rw [published.statuses, effect.statuses, inserted.statuses, ← SerialTable.insertAll_append,
      EventWrite.updates, ← onlyNew]
    rfl
  refine ⟨?_, ?_, ?_, components.trans inserted.components, ?_, fun _ => grown,
    fun _ equal => by cases equal⟩
  · intro id row found
    rw [rows id row (keptRows id row found)]
    have old : id ≠ store.incidents.nextId := Nat.ne_of_lt (SerialTable.lt_nextId_of_get? found)
    exact congrArg some (if_neg old)
  · intro id absent
    by_cases new : id = store.incidents.nextId
    · have stored := newRows id absent
      rw [if_pos new] at stored
      rw [if_pos new, rows id _ stored, sameVersion, modifiedRow_newIncidentRow]
      exact congrArg some (if_pos new)
    · have stored := newRows id absent
      rw [if_neg new] at stored
      rw [if_neg new]
      exact missing id stored
  · intro id other
    rw [linked, inserted.linked]
    rfl
  · rw [grown]
    exact historyGrew_insertAll _ _

/-- A committed transaction did what its footprint says. -/
theorem exec_footprint {value : β} (committed : statement.exec choice store = .ok (value, final)) :
    Footprint choice statement store final := by
  cases statement with
  | createEvent => exact createEvent_footprint committed
  | persistPatch publisher stored oldStatus =>
    rcases persistPatchTx_ok committed with ⟨version, modified, effect, _, same, changed⟩
    have published : SameEvents modified final := by
      by_cases unchanged : stored.status = oldStatus
      · rw [same unchanged]
        exact SameEvents.refl _
      · exact publishMaintenanceChange_sameEvents (changed unchanged)
    exact modified_footprint effect published (fun _ _ => rfl) rfl (fun _ _ _ _ => rfl)
      (fun _ => rfl) rfl
  | checkerPatch =>
    rcases checkerPatchTx_ok committed with ⟨version, modified, effect, _, publication⟩
    exact modified_footprint effect (publishTx_sameEvents publication) (fun _ _ => rfl) rfl
      (fun _ _ _ _ => rfl) (fun _ => rfl) rfl
  | modifyIncident =>
    rcases modifyIncident_ok committed with ⟨version, effect, _⟩
    exact modified_footprint effect (SameEvents.refl _) (fun _ _ => rfl) rfl
      (fun _ _ _ _ => rfl) (fun _ => rfl) rfl
  | saveIncident =>
    rcases saveIncidentTx_ok committed with ⟨inserted, _⟩
    rcases inserted_rows inserted with ⟨keptRows, newRows⟩
    refine ⟨keptRows, newRows, inserted.linked, inserted.components, ?_,
      fun _ => inserted.statuses, fun _ equal => by cases equal⟩
    rw [inserted.statuses]
    exact historyGrew_insertAll _ _
  | addComponent incident =>
    rcases addComponentTx_ok committed with ⟨added, _⟩
    rcases added.versioned with ⟨version, row, expected, _, _, incidents⟩
    have next : nextVersion incident = version + 1 := by
      unfold nextVersion
      rw [expected]
      rfl
    refine ⟨?_, ?_, added.linked, added.components, ?_, fun _ => added.statuses,
      fun _ equal => by cases equal⟩
    · intro id stored found
      rw [incidents, get?_update_some found, ← next]
      rfl
    · intro id missing
      rw [incidents, get?_update_none missing]
      split_ifs <;> rfl
    · rw [added.statuses]
      exact historyGrew_insertAll _ [_]
  | moveComponent =>
    rcases moveComponentTx_ok committed with ⟨saved, _⟩
    apply pair_footprint saved (fun _ _ => rfl) rfl
    · intro fresh id other stored
      rw [releasedSource_id]
      exact Iff.rfl
    · intro fresh
      rw [releasedSource_id]
      rfl
    · rfl
  | extractComponents =>
    rcases extractComponentsTx_ok committed with ⟨saved, _⟩
    apply pair_footprint saved (fun _ _ => rfl) rfl
    · intro fresh id other stored
      rw [dropIncidentComponents_id]
      exact Iff.rfl
    · intro fresh
      rw [dropIncidentComponents_id]
      rfl
    · rfl
  | increaseImpact =>
    rcases increaseImpactTx_ok committed with ⟨_, rfl⟩
    refine ⟨?_, ?_, fun _ _ => Iff.rfl, rfl, historyGrew_insertAll _ [_], fun _ => rfl,
      fun _ equal => by cases equal⟩
    · intro id row found
      exact get?_update_some found
    · intro id missing
      exact (get?_update_none missing).trans (by split_ifs <;> rfl)
  | reOpenIncident =>
    rcases reOpenIncidentTx_ok committed with ⟨incidents, components, relation, statuses, _⟩
    refine ⟨?_, ?_, ?_, components, ?_, fun _ => statuses, fun _ equal => by cases equal⟩
    · intro id row found
      rw [incidents]
      exact get?_update_some found
    · intro id missing
      rw [incidents, get?_update_none missing]
      split_ifs <;> rfl
    · intro id other
      rw [componentIds_of_relation relation]
      exact Iff.rfl
    · rw [statuses]
      exact historyGrew_nil _
  | modifyEventUpdate =>
    rcases modifyEventUpdateTx_ok committed with ⟨row, found, rfl⟩
    refine ⟨fun _ _ present => present, ?_, fun _ _ => Iff.rfl, rfl, ?_,
      fun unedited => (by cases unedited), fun _ equal => by cases equal⟩
    · intro id missing
      exact missing.trans (by split_ifs <;> rfl)
    · exact historyGrew_update found ⟨rfl, rfl⟩

/-! ## Moves and extractions -/

/-- The statement by which a component is moved. -/
abbrev moveStatement (timeNow : Time) (named : Component) (old new : Incident) (close : Bool) :
    EventWrite (Incident × Incident) :=
  .moveComponent named (releaseComponent timeNow named old new close)
    (receiveComponent timeNow named old new) close

/-- The source of a move as it is written. -/
abbrev movedSource (timeNow : Time) (named : Component) (old new : Incident) (close : Bool) :
    Incident :=
  releasedSource named (releaseComponent timeNow named old new close) close

theorem movedSource_id (timeNow : Time) (named : Component) (old new : Incident) (close : Bool) :
    (movedSource timeNow named old new close).id = old.id := by
  rw [releasedSource_id, releaseComponent_id]

theorem movedSource_type (timeNow : Time) (named : Component) (old new : Incident)
    (close : Bool) : (movedSource timeNow named old new close).type = old.type := by
  unfold movedSource releasedSource
  split_ifs <;> exact releaseComponent_type _ _ _ _ _

/-- The statement by which components are taken out into a saved incident. -/
abbrev extractStatement (timeNow : Time) (components : List Component) (old saved : Incident) :
    EventWrite (Incident × Incident) :=
  .extractComponents components (extractionTarget timeNow components old saved)
    (extractionSource timeNow components (extractionTarget timeNow components old saved) old)

/-- The source of an extraction as it is written. -/
abbrev extractedSource (timeNow : Time) (components : List Component) (old saved : Incident) :
    Incident :=
  dropIncidentComponents
    (extractionSource timeNow components (extractionTarget timeNow components old saved) old)
    (components.map Component.id)

end StatusDashboard.Storage
