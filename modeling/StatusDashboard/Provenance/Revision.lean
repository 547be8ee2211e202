import StatusDashboard.Provenance.Create
import StatusDashboard.Provenance.Evolution

namespace StatusDashboard.Provenance

open Event Storage Tables Handlers Process Checker

/-!
# Who writes to an event

A stored maintenance is rewritten by two kinds of transactions only: a PATCH of
it and a round of the maintenance checker.  `Revision` lists both with what is
known of the copy that is written.  And whatever a transaction writes, the
updates it adds belong to the events it rewrites or inserts.
-/

namespace Setting

inductive Revision (setting : Setting) : Activity → Store → Incident → Prop
  | patch {caller : Caller} {id : Nat} {data : PatchIncidentData} {copy : Incident}
      {row : IncidentRow} {before first store : Store} (bound : data.bound = true)
      (fetched : setting.Fetched id copy row before first store)
      (versioned : copy.type = .maintenance → data.version ≠ none)
      (allowed : prepareIncidentPatch caller copy data = none) :
      Revision setting (.patch caller id data) store (patchedIncident data caller.userID copy)
  | check {batchRow row : IncidentRow} {copy fixed : Incident} {now : Time}
      {batch before first store : Store} (kept : setting.always batch)
      (listed : batch.incidents.get? copy.id = some batchRow)
      (type : batchRow.type = .maintenance)
      (submitted : batchRow.status.getD .unset ≠ .pendingReview)
      (later : setting.across batch before)
      (fetched : setting.Fetched copy.id copy row before first store)
      (fixes : fixMntMissedStatuses (currentMntStatus now copy) (calculateMntStatusHistory copy)
        copy = some fixed)
      (changes : copy.status ≠ currentMntStatus now copy) :
      Revision setting .checkMaintenance store { fixed with status := currentMntStatus now copy }

end Setting

section Rewritten

variable {β : Type} {statement : EventWrite β} {incident : Incident}

theorem rewritten_of_modifies (modifies : statement.modifies = some incident) (choice : Choice)
    (row : IncidentRow) : statement.rewritten choice incident.id row =
      modifiedRow choice.now incident (nextVersion incident) row := by
  cases statement <;> cases modifies <;> exact if_pos rfl

theorem updates_of_modifies (modifies : statement.modifies = some incident) (choice : Choice)
    (fresh : Nat) : statement.updates choice fresh =
      newStatusRows choice.now incident.id incident.statuses := by
  cases statement <;> cases modifies <;> rfl

end Rewritten

namespace Setting.Evolving

variable {setting : Setting} (evolving : setting.Evolving)
include evolving

/-- The event that a transaction rewrites is stored with the type of a copy, and
if it is a maintenance the transaction is a revision of it. -/
theorem written_of_target {deployment : Deployment} {activity : Activity} {β : Type}
    {statement : EventWrite β} {store : Store} {id : Nat}
    (issued : setting.Issued deployment activity store statement)
    (target : id ∈ statement.targets) :
    ∃ copy, id = copy.id ∧ Typed copy store ∧ (copy.type ≠ .maintenance ∨
      ∃ incident, statement.modifies = some incident ∧ incident.id = id ∧
        setting.Revision activity store incident) := by
  have incident : ∀ {copy : Incident}, copy.type = .incident → Typed copy store → id = copy.id →
      ∃ copy, id = copy.id ∧ Typed copy store ∧ (copy.type ≠ .maintenance ∨
        ∃ incident, statement.modifies = some incident ∧ incident.id = id ∧
          setting.Revision activity store incident) := by
    intro copy type typed same
    exact ⟨copy, same, typed, Or.inl (by rw [type]; decide)⟩
  cases issued with
  | regularCreate | systemCreate | extractSave | editText => cases target
  | regularMove regular valid names oldTracked newTracked oldSettled newSettled oldType newType =>
      simp only [EventWrite.targets, releaseComponent_id, receiveComponent, List.mem_cons,
        List.not_mem_nil, or_false] at target
      rcases target with source | destination
      · exact incident oldType (evolving.tracked oldTracked) source
      · exact incident newType (evolving.tracked newTracked) destination
  | systemMove names same sourceFound targetFound =>
    rcases evolving.source_typed sourceFound with ⟨sourceType, sourceTyped⟩
    rcases evolving.target_typed targetFound with ⟨targetType, targetTyped⟩
    simp only [EventWrite.targets, releaseComponent_id, receiveComponent, List.mem_cons,
      List.not_mem_nil, or_false] at target
    rcases target with source | destination
    · exact incident sourceType sourceTyped source
    · exact incident targetType targetTyped destination
  | systemAdd names targetFound =>
    rcases evolving.target_typed targetFound with ⟨type, typed⟩
    exact incident type typed (List.mem_singleton.mp target)
  | systemRaise names sourceFound =>
    rcases evolving.source_typed sourceFound with ⟨type, typed⟩
    exact incident type typed (List.mem_singleton.mp target)
  | extract extracts later inserted oldTracked savedTracked =>
    have savedType : _ = EventType.incident := congrArg Incident.type inserted.same
    simp only [EventWrite.targets, extractionSource, extractionTarget, List.mem_cons,
      List.not_mem_nil, or_false] at target
    rcases target with source | destination
    · exact incident (evolving.extracts_typed extracts) (evolving.tracked oldTracked) source
    · exact incident savedType (evolving.tracked savedTracked) destination
  | systemMark type valid inserted tracked =>
    exact incident (congrArg Incident.type inserted.same) (evolving.tracked tracked)
      (List.mem_singleton.mp target)
  | reopen status fetched allowed later =>
    rcases fetched with ⟨sameId, _, _, _, reading⟩
    have typed := (evolving.typed_of_reading reading).evolves (evolving.across later)
    exact incident (incident_of_reopened allowed status) typed
      ((List.mem_singleton.mp target).trans sameId.symm)
  | patch bound fetched versioned allowed =>
    have here := List.mem_singleton.mp target
    refine ⟨_, ?_, evolving.typed_of_reading fetched.2.2.2.2,
      Or.inr ⟨_, rfl, here.symm, .patch bound fetched versioned allowed⟩⟩
    exact here
  | checkMaintenance kept listed type submitted later fetched fixes changes =>
    have here := List.mem_singleton.mp target
    have revision := Revision.check kept listed type submitted later fetched fixes changes
    rcases completes_fixMntMissedStatuses fixes with ⟨added, rfl, _⟩
    refine ⟨_, ?_, evolving.typed_of_reading fetched.2.2.2.2,
      Or.inr ⟨_, rfl, here.symm, revision⟩⟩
    exact here
  | checkInfo type assumed kept reading later fixes =>
    rcases completes_fixInfoMissedStatuses fixes with ⟨added, rfl, _⟩
    have typed := (evolving.typed_of_reading reading).evolves (evolving.across later)
    refine ⟨_, ?_, typed, Or.inl ?_⟩
    · exact List.mem_singleton.mp target
    · rw [reading.type_eq, type]
      decide

/-- A stored maintenance is only rewritten by a revision. -/
theorem revision_of_target {deployment : Deployment} {activity : Activity} {β : Type}
    {statement : EventWrite β} {store : Store} {id : Nat} {row : IncidentRow}
    (issued : setting.Issued deployment activity store statement)
    (found : store.incidents.get? id = some row) (maintenance : row.type = .maintenance)
    (target : id ∈ statement.targets) :
    ∃ incident, statement.modifies = some incident ∧ incident.id = id ∧
      setting.Revision activity store incident := by
  rcases evolving.written_of_target issued target with ⟨copy, rfl, typed, other | revision⟩
  · exact absurd ((typed.row_type found).symm.trans maintenance) other
  · exact revision

end Setting.Evolving

variable {setting : Setting} {deployment : Deployment} {activity : Activity} {β : Type}
variable {statement : EventWrite β} {store : Store} {id : Nat} {now timeNow : Time}
variable {statuses : List IncidentStatus} {incident old : Incident} {component : Component}
variable {components : List Component} {choice : Choice}

/-- A transaction only rewrites events that are stored. -/
theorem Setting.Evolving.stored_of_target (evolving : setting.Evolving)
    (issued : setting.Issued deployment activity store statement) (target : id ∈ statement.targets)
    : ∃ row, store.incidents.get? id = some row := by
  rcases evolving.written_of_target issued target with ⟨copy, rfl, ⟨row, found, _⟩, _⟩
  exact ⟨row, found⟩

/-! ## Added updates -/

/-- All updates of a loaded copy are stored ones. -/
theorem settled_loaded (id : Nat) (row : IncidentRow) (components : List Component)
    (store : Store) : Settled (incidentFromEnt id row components (loadedHistory store id)) := by
  intro update member
  change update ∈ (store.history id).map _ at member
  rcases List.mem_map.mp member with ⟨entry, stored, rfl⟩
  exact Nat.ne_of_gt (SerialTable.pos_of_get? (SerialTable.mem_rows.mp
    (List.mem_filter.mp stored).1))

theorem newStatusRows_of_settled (settled : ∀ status ∈ statuses, status.id ≠ 0) :
    newStatusRows now id statuses = [] := by
  unfold newStatusRows
  rw [List.filter_eq_nil_iff.mpr]
  · rfl
  · intro status member
    simpa using settled status member

theorem newStatusRows_append (now : Time) (id : Nat) (first second : List IncidentStatus) :
    newStatusRows now id (first ++ second) =
      newStatusRows now id first ++ newStatusRows now id second := by
  unfold newStatusRows
  rw [List.filter_append, List.map_append]

/-- Behind a settled history exactly the appended updates are new. -/
theorem newStatusRows_appended {α : Type} {items : List α} {appended : α → IncidentStatus}
    (settled : ∀ status ∈ statuses, status.id ≠ 0) (new : ∀ item, (appended item).id = 0) :
    newStatusRows now id (statuses ++ items.map appended) =
      items.map (fun item => statusRow now id (appended item)) := by
  have kept : (items.map appended).filter (fun status => status.id = 0) = items.map appended := by
    apply List.filter_eq_self.mpr
    intro status member
    rcases List.mem_map.mp member with ⟨item, _, rfl⟩
    simpa using new item
  rw [newStatusRows_append, newStatusRows_of_settled settled, List.nil_append]
  unfold newStatusRows
  rw [kept, List.map_map]
  rfl

/-- New updates of one event are inserted for it. -/
theorem newStatusRows_own (own : ∀ status ∈ statuses, status.id = 0 → status.incidentId = id) :
    ∀ row ∈ newStatusRows now id statuses, row.incidentId = id := by
  intro row member
  unfold newStatusRows at member
  rcases List.mem_map.mp member with ⟨status, listed, rfl⟩
  rcases List.mem_filter.mp listed with ⟨held, new⟩
  have same := own status held (by simpa using new)
  unfold statusRow
  dsimp only
  split_ifs
  · rfl
  · exact same

/-- A copy whose new updates are its own. -/
def OwnUpdates (incident : Incident) : Prop :=
  ∀ status ∈ incident.statuses, status.id = 0 → status.incidentId = incident.id

/-- Appending updates of the event itself to a settled copy. -/
theorem ownUpdates_append {extended : Incident} {added : List IncidentStatus}
    (settled : Settled incident) (same : extended.id = incident.id)
    (statuses : extended.statuses = incident.statuses ++ added)
    (own : ∀ status ∈ added, status.incidentId = incident.id) : OwnUpdates extended := by
  intro status member new
  rw [statuses] at member
  rcases List.mem_append.mp member with old | appended
  · exact absurd new (settled status old)
  · rw [same]
    exact own status appended

theorem ownUpdates_receive {new : Incident} (settled : Settled new) :
    OwnUpdates (receiveComponent timeNow component old new) :=
  ownUpdates_append settled rfl rfl (fun _ member => by rw [List.mem_singleton.mp member])

theorem ownUpdates_release {new : Incident} {close : Bool} (settled : Settled old) :
    OwnUpdates (releaseComponent timeNow component old new close) := by
  cases close <;>
    exact ownUpdates_append settled rfl rfl (fun _ member => by rw [List.mem_singleton.mp member])

theorem ownUpdates_released {incOld : Incident} {close : Bool} (own : OwnUpdates incOld) :
    OwnUpdates (releasedSource component incOld close) := by
  unfold releasedSource
  split_ifs <;> exact own

theorem ownUpdates_extractionTarget {saved : Incident} (settled : Settled saved) :
    OwnUpdates (extractionTarget timeNow components old saved) := by
  refine ownUpdates_append settled rfl rfl ?_
  intro status member
  rcases List.mem_map.mp member with ⟨component, _, rfl⟩
  rfl

theorem ownUpdates_extractionSource (settled : Settled old) :
    OwnUpdates (extractionSource timeNow components incident old) := by
  refine ownUpdates_append settled rfl rfl ?_
  intro status member
  rcases List.mem_map.mp member with ⟨component, _, rfl⟩
  rfl

theorem ownUpdates_dropped {ids : List Nat} (own : OwnUpdates incident) :
    OwnUpdates (dropIncidentComponents incident ids) := by
  rw [dropIncidentComponents_fields]
  exact own

theorem ownUpdates_patched {data : PatchIncidentData} {userID : Option String} {copy : Incident}
    (settled : Settled copy) : OwnUpdates (patchedIncident data userID copy) :=
  ownUpdates_append settled rfl rfl (fun _ member => by rw [List.mem_singleton.mp member])

theorem settled_of_extracts {impact : Int} {text : String} {description : Option String}
    (extracts : setting.Extracts activity store components old impact text description) :
    Settled old := by
  cases extracts with
  | system names found =>
    rcases found with ⟨_, _, _, _, reading, _⟩
    exact settled_of_reading reading
  | request fetched =>
    rcases fetched with ⟨_, _, _, _, reading⟩
    exact settled_of_reading reading

theorem ownUpdates_completed {before after : Incident} {status : Status} (settled : Settled before)
    (completes : Completes before after) : OwnUpdates { after with status := status } := by
  rcases completes with ⟨added, rfl, own⟩
  exact ownUpdates_append settled rfl rfl (fun update member => (own update member).1.2)

/-- The update a creation adds belongs to the new event. -/
theorem createdUpdates_own {fresh : Nat} {publisher : Option Notification.Publisher}
    {userID : Option String} {row : StatusRow} (bare : incident.statuses = [])
    (added : row ∈ (EventWrite.createEvent publisher incident userID).updates choice fresh) :
    row.incidentId = fresh := by
  rw [EventWrite.updates, bare] at added
  rw [List.mem_singleton.mp added]
  unfold statusRow createdUpdate
  dsimp only
  split_ifs <;> rfl

/-- Every update a transaction adds belongs to an event it rewrites or inserts. -/
theorem added_own {fresh : Nat} {row : StatusRow}
    (issued : setting.Issued deployment activity store statement)
    (added : row ∈ statement.updates choice fresh) :
    row.incidentId ∈ statement.targets ∨
      row.incidentId = fresh ∧ statement.inserted choice ≠ none := by
  cases issued with
  | regularCreate | systemCreate =>
    exact Or.inr ⟨createdUpdates_own rfl added, Option.some_ne_none _⟩
  | extractSave | editText | reopen => cases added
  | regularMove regular valid names oldTracked newTracked oldSettled newSettled =>
      rcases List.mem_append.mp added with new | old
      · rw [newStatusRows_own (ownUpdates_receive newSettled) row new]
        exact Or.inl (List.mem_cons_of_mem _ List.mem_cons_self)
      · rw [← releasedSource_id] at old
        rw [newStatusRows_own (ownUpdates_released (ownUpdates_release oldSettled)) row old,
          releasedSource_id]
        exact Or.inl List.mem_cons_self
  | systemMove names same sourceFound targetFound =>
    rcases sourceFound with ⟨_, _, _, _, sourceReading, _⟩
    rcases targetFound with ⟨_, _, _, _, targetReading, _⟩
    rcases List.mem_append.mp added with new | old
    · rw [newStatusRows_own (ownUpdates_receive (settled_of_reading targetReading)) row new]
      exact Or.inl (List.mem_cons_of_mem _ List.mem_cons_self)
    · rw [← releasedSource_id] at old
      rw [newStatusRows_own (ownUpdates_released
        (ownUpdates_release (settled_of_reading sourceReading))) row old, releasedSource_id]
      exact Or.inl List.mem_cons_self
  | systemAdd | systemRaise =>
    rw [List.mem_singleton.mp added]
    unfold statusRow
    dsimp only
    split_ifs <;> exact Or.inl List.mem_cons_self
  | extract extracts later inserted =>
    rcases List.mem_append.mp added with new | old
    · rw [newStatusRows_own (ownUpdates_extractionTarget inserted.settled) row new]
      exact Or.inl (List.mem_cons_of_mem _ List.mem_cons_self)
    · rw [← dropIncidentComponents_id] at old
      rw [newStatusRows_own (ownUpdates_dropped
        (ownUpdates_extractionSource (settled_of_extracts extracts))) row old,
        dropIncidentComponents_id]
      exact Or.inl List.mem_cons_self
  | systemMark type valid inserted =>
    rw [EventWrite.updates, newStatusRows_of_settled inserted.settled] at added
    cases added
  | patch bound fetched =>
    rcases fetched with ⟨_, _, _, _, reading⟩
    rw [newStatusRows_own (ownUpdates_patched (settled_of_reading reading)) row added]
    exact Or.inl List.mem_cons_self
  | checkMaintenance kept listed type submitted later fetched fixes =>
    rcases fetched with ⟨_, _, _, _, reading⟩
    rw [newStatusRows_own (ownUpdates_completed (settled_of_reading reading)
      (completes_fixMntMissedStatuses fixes)) row added]
    exact Or.inl List.mem_cons_self
  | checkInfo type assumed kept reading later fixes =>
    rw [newStatusRows_own (ownUpdates_completed (settled_of_reading reading)
      (completes_fixInfoMissedStatuses fixes)) row added]
    exact Or.inl List.mem_cons_self

/-- The history of a stored event that a transaction does not rewrite stays, unless
a text is edited. -/
theorem history_of_not_target {value : β} {final : Store} {row : IncidentRow}
    (issued : setting.Issued deployment activity store statement)
    (commits : statement.exec choice store = .ok (value, final)) (unedited : statement.edits = none)
    (found : store.incidents.get? id = some row) (untouched : id ∉ statement.targets) :
    final.history id = store.history id := by
  apply history_congr
  intro key update own
  rw [(exec_footprint commits).grown unedited]
  constructor
  · intro later
    rcases SerialTable.get?_insertAll_cases later with before | added
    · exact before
    · rcases added_own issued added with touches | ⟨fresh, _⟩
      · exact absurd (own ▸ touches) untouched
      · have old := SerialTable.lt_nextId_of_get? found
        rw [← own, fresh] at old
        exact absurd old (Nat.lt_irrefl _)
  · exact SerialTable.get?_insertAll_of_get? _

namespace Setting.Evolving

variable {setting : Setting} (evolving : setting.Evolving)
include evolving

/-- What a committed write leaves of a stored maintenance: the row as it was, or
the row of a revision. -/
theorem maintenance_row {value : β} {final : Store} {row : IncidentRow}
    (issued : setting.Issued deployment activity store statement)
    (commits : statement.exec choice store = .ok (value, final))
    (found : store.incidents.get? id = some row) (maintenance : row.type = .maintenance) :
    final.incidents.get? id = some row ∨
      ∃ incident, statement.modifies = some incident ∧ incident.id = id ∧
        setting.Revision activity store incident ∧
        final.incidents.get? id =
          some (modifiedRow choice.now incident (nextVersion incident) row) := by
  have stored := (exec_footprint commits).rows id row found
  by_cases target : id ∈ statement.targets
  · rcases evolving.revision_of_target issued found maintenance target with
      ⟨incident, modifies, rfl, revision⟩
    rw [rewritten_of_modifies modifies] at stored
    exact Or.inr ⟨incident, modifies, rfl, revision, stored⟩
  · rw [EventWrite.rewritten_of_not_target target] at stored
    exact Or.inl stored

end Setting.Evolving

namespace Setting

/-- A maintenance that a regular creation inserts, with its only update. -/
structure Creation (choice : Choice) (activity : Activity) (store : Store)
    (added : List StatusRow) (row : IncidentRow) : Prop where
  posted : ∃ route caller data prepared, activity = .post route caller data ∧
    Prepared caller data prepared ∧ data.type = .maintenance ∧
    row = createdRow choice.now (regularIncident prepared caller.userID)
  announced : ∀ update ∈ added, some update.status = row.status

end Setting

/-- The only maintenances that are inserted are those of regular creations. -/
theorem creation_of_inserted {row : IncidentRow}
    (issued : setting.Issued deployment activity store statement)
    (inserted : statement.inserted choice = some row) (maintenance : row.type = .maintenance) :
    Setting.Creation choice activity store (statement.updates choice store.incidents.nextId)
      row := by
  cases issued with
  | @regularCreate route caller data prepared _ regular valid prepares =>
    cases inserted
    have type : prepared.type = data.type := by rw [prepares.same]
    refine ⟨⟨route, caller, data, prepared, rfl, prepares, type.symm.trans maintenance, rfl⟩, ?_⟩
    intro update member
    rw [List.mem_singleton.mp member]
    rfl
  | @systemCreate route caller data component _ names =>
    cases inserted
    have type : (withDefaultDescription data).type = .incident := by
      unfold withDefaultDescription
      split_ifs <;> exact names.type
    change (withDefaultDescription data).type = .maintenance at maintenance
    rw [type] at maintenance
    cases maintenance
  | extractSave =>
    cases inserted
    cases maintenance
  | regularMove | systemAdd | systemMove | systemRaise | extract | systemMark | patch | reopen
  | editText | checkMaintenance | checkInfo => cases inserted

namespace Setting.Evolving

variable {setting : Setting} (evolving : setting.Evolving)
include evolving

/-- An added update belongs to an event that is stored afterwards. -/
theorem stored_of_added {value : β} {final : Store} {update : StatusRow}
    (issued : setting.Issued deployment activity store statement)
    (commits : statement.exec choice store = .ok (value, final))
    (added : update ∈ statement.updates choice store.incidents.nextId) :
    ∃ row, final.incidents.get? update.incidentId = some row := by
  have footprint := exec_footprint commits
  rcases added_own issued added with target | ⟨fresh, inserts⟩
  · rcases evolving.stored_of_target issued target with ⟨row, found⟩
    exact ⟨_, footprint.rows _ row found⟩
  · have inserted := footprint.fresh _ (SerialTable.get?_nextId store.incidents)
    rw [if_pos rfl, ← fresh] at inserted
    rw [inserted]
    exact Option.ne_none_iff_exists'.mp inserts

/-- Everything a committed write can do to an event that is a maintenance
afterwards: nothing, create it, or revise it. -/
theorem maintenance_cases {value : β} {final : Store} {row : IncidentRow}
    (issued : setting.Issued deployment activity store statement)
    (commits : statement.exec choice store = .ok (value, final))
    (present : final.incidents.get? id = some row) (maintenance : row.type = .maintenance) :
    (store.incidents.get? id = some row ∧
        ∀ update ∈ statement.updates choice store.incidents.nextId, update.incidentId ≠ id) ∨
      (store.incidents.get? id = none ∧ Creation choice activity store
        (statement.updates choice store.incidents.nextId) row) ∨
      ∃ before incident, store.incidents.get? id = some before ∧ before.type = .maintenance ∧
        statement.modifies = some incident ∧ incident.id = id ∧
        setting.Revision activity store incident ∧
        row = modifiedRow choice.now incident (nextVersion incident) before ∧
        statement.updates choice store.incidents.nextId =
          newStatusRows choice.now id incident.statuses := by
  have footprint := exec_footprint commits
  cases found : store.incidents.get? id with
  | none =>
    have inserted := footprint.fresh id found
    rw [present] at inserted
    split_ifs at inserted
    exact Or.inr (Or.inl ⟨rfl, creation_of_inserted issued inserted.symm maintenance⟩)
  | some before =>
    have stored := footprint.rows id before found
    rw [present, Option.some.injEq] at stored
    have type : before.type = .maintenance :=
      ((evolving.issued_evolves issued commits).type_eq found present).symm.trans maintenance
    by_cases target : id ∈ statement.targets
    · rcases evolving.revision_of_target issued found type target with
        ⟨incident, modifies, rfl, revision⟩
      rw [rewritten_of_modifies modifies] at stored
      exact Or.inr (Or.inr ⟨before, incident, rfl, type, modifies, rfl, revision, stored,
        updates_of_modifies modifies choice _⟩)
    · rw [EventWrite.rewritten_of_not_target target] at stored
      refine Or.inl ⟨by rw [stored], ?_⟩
      intro update member own
      rcases added_own issued member with touched | ⟨fresh, _⟩
      · exact target (own ▸ touched)
      · have old := SerialTable.lt_nextId_of_get? found
        rw [← own, fresh] at old
        exact absurd old (Nat.lt_irrefl _)

end Setting.Evolving

/-- The status a modification leaves. -/
theorem modifiedRow_status (now : Time) (incident : Incident) (version : Int) (row : IncidentRow)
    (set : incident.status ≠ .unset) :
    (modifiedRow now incident version row).status = some incident.status :=
  if_neg set

/-- A PATCH leaves the status it names, -/
theorem patched_status {data : PatchIncidentData} (bound : data.bound = true) (now : Time)
    (userID : Option String) (copy : Incident) (version : Int) (row : IncidentRow) :
    (modifiedRow now (patchedIncident data userID copy) version row).status = some data.status := by
  apply modifiedRow_status
  intro unset
  change data.status = .unset at unset
  simp [PatchIncidentData.bound, unset] at bound

/-- and adds one update with this status. -/
theorem patched_updates {copy : Incident} (settled : Settled copy) (now : Time)
    (data : PatchIncidentData) (userID : Option String) :
    ∃ update, newStatusRows now (patchedIncident data userID copy).id
        (patchedIncident data userID copy).statuses = [update] ∧
      update.incidentId = (patchedIncident data userID copy).id ∧ update.status = data.status := by
  change ∃ update, newStatusRows now copy.id (copy.statuses ++ [_]) = [update] ∧ _
  rw [newStatusRows_append, newStatusRows_of_settled settled, List.nil_append]
  refine ⟨_, rfl, ?_, rfl⟩
  unfold statusRow
  dsimp only
  split_ifs <;> rfl

/-- The statuses the maintenance checker computes. -/
theorem currentMntStatus_mem (now : Time) (mn : Incident) :
    currentMntStatus now mn ∈ [Status.cancelled, .planned, .inProgress, .completed] := by
  unfold currentMntStatus mntStatusAt
  dsimp only
  split_ifs <;> simp

end StatusDashboard.Provenance
