import StatusDashboard.Storage.Operation

namespace StatusDashboard.Storage

open Event Tables Notification

/-!
# What a committed transaction did

One lemma for each transaction: from the fact that it committed, which rows it
rewrote and how, which links it left and which rows it inserted.  Everything
proved about whole requests and runs rests on these and never unfolds a
transaction again.
-/

/-! ## Statements -/

variable {id : Nat} {store final : Store} {others : List Nat} {now : Time} {status : IncidentStatus}
variable {incident first second : Incident} {publisher : Option Publisher} {changeId : String}
variable {oldStatus : Status} {userID : Option String}

theorem updateOneID_ok {rewrite : IncidentRow → IncidentRow}
    (committed : updateOneID id rewrite store = .ok ((), final)) :
    ∃ row, store.incidents.get? id = some row ∧ (rewrite row).storable = true ∧
      final = store.updateIncident id rewrite := by
  unfold updateOneID at committed
  split at committed
  · cases committed
  · rename_i row found
    split_ifs at committed with fits
    cases committed
    exact ⟨row, found, fits, rfl⟩

/-- Either no row met the condition, or one did and was rewritten. -/
theorem updateWhere_ok {condition : IncidentRow → Bool} {rewrite : IncidentRow → IncidentRow}
    {affected : Bool} (committed : updateWhere id condition rewrite store = .ok (affected, final)) :
    (affected = false ∧ final = store ∧
      ∀ row, store.incidents.get? id = some row → condition row = false) ∨
    (affected = true ∧ ∃ row, store.incidents.get? id = some row ∧ condition row = true ∧
      (rewrite row).storable = true ∧ final = store.updateIncident id rewrite) := by
  unfold updateWhere at committed
  split at committed
  · rename_i none
    cases committed
    refine Or.inl ⟨rfl, rfl, ?_⟩
    intro row found
    rw [found] at none
    simpa [Option.filter_eq_none_iff] using none
  · rename_i row hit
    split_ifs at committed with fits
    cases committed
    rw [Option.filter_eq_some_iff] at hit
    exact Or.inr ⟨rfl, row, hit.1, hit.2, fits, rfl⟩

theorem addComponentIDs_ok (committed : addComponentIDs id others store = .ok ((), final)) :
    ∃ present exist, final = store.link id others present exist := by
  unfold addComponentIDs at committed
  split_ifs at committed with present exist
  cases committed
  exact ⟨present, exist, rfl⟩

/-- The rows that are inserted for the updates without an id. -/
def newStatusRows (now : Time) (id : Nat) (statuses : List IncidentStatus) : List StatusRow :=
  (statuses.filter (fun status => status.id = 0)).map (statusRow now id)

theorem insertIncidentStatus_ok {inserted : IncidentStatus}
    (committed : insertIncidentStatus now status id store = .ok (inserted, final)) :
    final = store.insertStatus (statusRow now id status) := by
  unfold insertIncidentStatus at committed
  dsimp only at committed
  split_ifs at committed
  cases committed
  rfl

theorem insertNewIncidentStatuses_ok {statuses inserted : List IncidentStatus}
    (committed : insertNewIncidentStatuses now id statuses store = .ok (inserted, final)) :
    final = store.insertStatuses (newStatusRows now id statuses) := by
  induction statuses generalizing store inserted final with
  | nil =>
    rw [insertNewIncidentStatuses, Tx.pure_ok] at committed
    exact committed.2.symm
  | cons status statuses ih =>
    rw [insertNewIncidentStatuses] at committed
    split_ifs at committed with isNew
    · rcases Tx.bind_ok.mp committed with ⟨first, middle, firstCommitted, rest⟩
      rcases Tx.bind_ok.mp rest with ⟨others, last, othersCommitted, finish⟩
      rw [Tx.pure_ok] at finish
      have inserts := ih othersCommitted
      rw [insertIncidentStatus_ok firstCommitted] at inserts
      rcases finish with ⟨_, rfl⟩
      rw [inserts]
      simp [newStatusRows, isNew, Store.insertStatuses, Store.insertStatus,
        SerialTable.insertAll]
    · rcases Tx.bind_ok.mp committed with ⟨others, last, othersCommitted, finish⟩
      rw [Tx.pure_ok] at finish
      have inserts := ih othersCommitted
      rcases finish with ⟨_, rfl⟩
      rw [inserts]
      simp [newStatusRows, isNew]

theorem insertNewIncidentStatuses_ids {statuses inserted : List IncidentStatus}
    (committed : insertNewIncidentStatuses now id statuses store = .ok (inserted, final)) :
    ∀ status ∈ inserted, status.id ≠ 0 := by
  induction statuses generalizing store inserted final with
  | nil =>
    rw [insertNewIncidentStatuses, Tx.pure_ok] at committed
    rcases committed with ⟨rfl, _⟩
    exact List.forall_mem_nil _
  | cons first statuses ih =>
    rw [insertNewIncidentStatuses] at committed
    split_ifs at committed with isNew
    · rcases Tx.bind_ok.mp committed with ⟨stamped, middle, firstCommitted, rest⟩
      rcases Tx.bind_ok.mp rest with ⟨others, last, othersCommitted, finish⟩
      rcases Tx.pure_ok.mp finish with ⟨rfl, _⟩
      intro status member
      rcases List.mem_cons.mp member with rfl | later
      · unfold insertIncidentStatus at firstCommitted
        dsimp only at firstCommitted
        split_ifs at firstCommitted
        cases firstCommitted
        exact Nat.succ_ne_zero _
      · exact ih othersCommitted status later
    · rcases Tx.bind_ok.mp committed with ⟨others, last, othersCommitted, finish⟩
      rcases Tx.pure_ok.mp finish with ⟨rfl, _⟩
      exact List.forall_mem_cons.mpr ⟨isNew, ih othersCommitted⟩

/-! ## Links -/

@[simp] theorem componentIds_updateIncident (store : Store) (id holder : Nat)
    (rewrite : IncidentRow → IncidentRow) :
    (store.updateIncident id rewrite).componentIds holder = store.componentIds holder := rfl

@[simp] theorem componentIds_insertIncident (store : Store) (row : IncidentRow) (holder : Nat) :
    (store.insertIncident row).componentIds holder = store.componentIds holder := rfl

@[simp] theorem componentIds_insertStatuses (store : Store) (rows : List StatusRow) (holder : Nat) :
    (store.insertStatuses rows).componentIds holder = store.componentIds holder := rfl

@[simp] theorem componentIds_insertStatus (store : Store) (row : StatusRow) (holder : Nat) :
    (store.insertStatus row).componentIds holder = store.componentIds holder := rfl

theorem mem_componentIds_link {holder found : Nat} {present : (store.incidents.get? id).isSome}
    {exist : ∀ other ∈ others, (store.components.get? other).isSome} :
    found ∈ (store.link id others present exist).componentIds holder ↔
      found ∈ store.componentIds holder ∨ (holder = id ∧ found ∈ others) :=
  JoinTable.mem_right_linkAll

theorem mem_componentIds_unlink {holder found : Nat} :
    found ∈ (store.unlink id others).componentIds holder ↔
      found ∈ store.componentIds holder ∧ ¬ (holder = id ∧ found ∈ others) :=
  JoinTable.mem_right_unlinkAll

theorem mem_wantedIds :
    id ∈ incident.wantedIds ↔ id ∈ incident.componentIds ∧ id ≠ 0 := by
  simp [Incident.wantedIds]

/-- Reconciling leaves exactly the copy's components. -/
theorem reconcileIncidentComponents_ok
    (committed : reconcileIncidentComponents incident store = .ok ((), final)) :
    final.incidents = store.incidents ∧ final.components = store.components ∧
      final.statuses = store.statuses ∧ final.outbox = store.outbox ∧
      ∀ holder found, found ∈ final.componentIds holder ↔
        if holder = incident.id then found ∈ incident.wantedIds
        else found ∈ store.componentIds holder := by
  unfold reconcileIncidentComponents at committed
  rcases Tx.bind_ok.mp committed with ⟨current, same, got, rest⟩
  cases got
  rcases Tx.bind_ok.mp rest with ⟨⟨⟩, removed, removal, addition⟩
  cases removal
  rcases addComponentIDs_ok addition with ⟨present, exist, rfl⟩
  refine ⟨rfl, rfl, rfl, rfl, ?_⟩
  intro holder found
  rw [mem_componentIds_link, mem_componentIds_unlink]
  by_cases here : holder = incident.id
  · subst here
    simp only [List.mem_filter, true_and, if_true]
    constructor
    · rintro (⟨stored, kept⟩ | added)
      · by_contra unwanted
        exact kept ⟨stored, by simpa using unwanted⟩
      · exact added.1
    · intro wanted
      by_cases stored : found ∈ store.componentIds incident.id
      · exact Or.inl ⟨stored, fun removed => by simp [wanted] at removed⟩
      · exact Or.inr ⟨wanted, by simpa using stored⟩
  · simp [here]

/-! ## Writing back a copy -/

/-- The committed effect of writing back a whole copy. -/
structure SavedFull (now : Time) (incident : Incident) (store final : Store) : Prop where
  present : ∃ row, store.incidents.get? incident.id = some row
  incidents : final.incidents = store.incidents.update incident.id (fullRow now incident)
  components : final.components = store.components
  linked : ∀ holder found, found ∈ final.componentIds holder ↔
    if holder = incident.id then found ∈ incident.wantedIds else found ∈ store.componentIds holder
  statuses : final.statuses =
    store.statuses.insertAll (newStatusRows now incident.id incident.statuses)
  outbox : final.outbox = store.outbox

theorem saveIncidentFull_ok {saved : Incident}
    (committed : saveIncidentFull now incident store = .ok (saved, final)) :
    SavedFull now incident store final ∧
      ∃ statuses, (∀ status ∈ statuses, status.id ≠ 0) ∧ saved = { incident with
        createdAt := some (incident.createdAt.getD now)
        modifiedAt := some now
        statuses := statuses } := by
  unfold saveIncidentFull at committed
  split_ifs at committed with noText noStart
  · cases committed
  · cases committed
  · rcases Tx.bind_ok.mp committed with ⟨⟨⟩, first, updated, rest⟩
    rcases Tx.bind_ok.mp rest with ⟨⟨⟩, second, reconciled, rest⟩
    rcases Tx.bind_ok.mp rest with ⟨statuses, third, inserted, finish⟩
    rw [Tx.pure_ok] at finish
    rcases updateOneID_ok updated with ⟨row, found, _, rfl⟩
    rcases reconcileIncidentComponents_ok reconciled with
      ⟨sameIncidents, sameComponents, sameStatuses, sameOutbox, links⟩
    have inserts := insertNewIncidentStatuses_ok inserted
    rcases finish with ⟨result, equal⟩
    subst equal
    refine ⟨⟨⟨row, found⟩, ?_, ?_, ?_, ?_, ?_⟩, statuses, insertNewIncidentStatuses_ids inserted,
      result.symm⟩
    · rw [inserts]
      exact sameIncidents
    · rw [inserts]
      exact sameComponents
    · intro holder other
      rw [inserts, componentIds_insertStatuses, links]
      rfl
    · rw [inserts]
      exact congrArg (fun table => SerialTable.insertAll table _) sameStatuses
    · rw [inserts]
      exact sameOutbox

theorem removeIncidentComponent_ok {incidentID componentID : Nat}
    (committed : removeIncidentComponent incidentID componentID store = .ok ((), final)) :
    final = store.unlink incidentID [componentID] := by
  unfold removeIncidentComponent at committed
  rcases Tx.bind_ok.mp committed with ⟨⟨⟩, middle, required, removed⟩
  unfold requireIncident at required
  split_ifs at required
  cases required
  cases removed
  rfl

/-- Removing join rows changes nothing but links of that incident. -/
theorem removeIncidentComponents_ok {incidentID : Nat}
    (committed : removeIncidentComponents incidentID others store = .ok ((), final)) :
    final.incidents = store.incidents ∧ final.components = store.components ∧
      final.statuses = store.statuses ∧ final.outbox = store.outbox ∧
      ∀ holder, holder ≠ incidentID →
        ∀ found, found ∈ final.componentIds holder ↔ found ∈ store.componentIds holder := by
  induction others generalizing store with
  | nil =>
    rw [removeIncidentComponents, Tx.pure_ok] at committed
    rcases committed with ⟨_, rfl⟩
    exact ⟨rfl, rfl, rfl, rfl, fun _ _ _ => Iff.rfl⟩
  | cons other others ih =>
    rw [removeIncidentComponents] at committed
    split_ifs at committed with zero
    · exact ih committed
    · rcases Tx.bind_ok.mp committed with ⟨⟨⟩, middle, removed, rest⟩
      have first := removeIncidentComponent_ok removed
      subst first
      rcases ih rest with ⟨incidents, components, statuses, outbox, links⟩
      refine ⟨incidents, components, statuses, outbox, ?_⟩
      intro holder elsewhere found
      rw [links holder elsewhere, mem_componentIds_unlink]
      simp [elsewhere]

/-! ## Moving and extracting components -/

/-- The row a table holds after two copies were written back. -/
def writtenRow (now : Time) (first second : Incident) (holder : Nat) (row : IncidentRow) :
    IncidentRow :=
  let afterFirst := if holder = first.id then fullRow now first row else row
  if holder = second.id then fullRow now second afterFirst else afterFirst

/-- The copy written last decides every column it sets. -/
theorem writtenRow_fields (now : Time) (first second : Incident) (holder : Nat)
    (row : IncidentRow) :
    (writtenRow now first second holder row).type =
        (if holder = second.id then second.type
        else if holder = first.id then first.type else row.type) ∧
      (writtenRow now first second holder row).endDate =
        (if holder = second.id then second.endDate
        else if holder = first.id then first.endDate else row.endDate) ∧
      (writtenRow now first second holder row).impact =
        (if holder = second.id then second.impact.getD 0
        else if holder = first.id then first.impact.getD 0 else row.impact) := by
  unfold writtenRow
  dsimp only
  by_cases isSecond : holder = second.id
  · simp only [if_pos isSecond]
    exact ⟨rfl, rfl, rfl⟩
  · by_cases isFirst : holder = first.id
    · simp only [if_neg isSecond, if_pos isFirst]
      exact ⟨rfl, rfl, rfl⟩
    · simp only [if_neg isSecond, if_neg isFirst, and_self]

theorem writtenRow_first (apart : second.id ≠ first.id) (row : IncidentRow) :
    writtenRow now first second first.id row = fullRow now first row := by
  unfold writtenRow
  rw [if_neg (Ne.symm apart), if_pos rfl]

theorem writtenRow_second (apart : second.id ≠ first.id) (row : IncidentRow) :
    writtenRow now first second second.id row = fullRow now second row := by
  unfold writtenRow
  rw [if_pos rfl, if_neg apart]

/-- The committed effect of writing back two copies, one after the other. -/
structure PairSaved (now : Time) (first second : Incident) (store final : Store) : Prop where
  firstPresent : ∃ row, store.incidents.get? first.id = some row
  secondPresent : ∃ row, store.incidents.get? second.id = some row
  incidents : final.incidents =
    (store.incidents.update first.id (fullRow now first)).update second.id (fullRow now second)
  components : final.components = store.components
  linked : ∀ holder found, found ∈ final.componentIds holder ↔
    if holder = second.id then found ∈ second.wantedIds
    else if holder = first.id then found ∈ first.wantedIds
    else found ∈ store.componentIds holder
  statuses : final.statuses = store.statuses.insertAll
    (newStatusRows now first.id first.statuses ++ newStatusRows now second.id second.statuses)
  outbox : final.outbox = store.outbox

theorem PairSaved.get? (saved : PairSaved now first second store final) (holder : Nat) :
    final.incidents.get? holder =
      (store.incidents.get? holder).map (writtenRow now first second holder) := by
  rw [saved.incidents, SerialTable.get?_update, SerialTable.get?_update]
  cases store.incidents.get? holder with
  | none => simp
  | some =>
    rw [Option.map_some]
    unfold writtenRow
    split_ifs <;> rfl

private theorem pairSaved_of (store start : Store) {middle : Store}
    (incidents : start.incidents = store.incidents)
    (components : start.components = store.components) (statuses : start.statuses = store.statuses)
    (outbox : start.outbox = store.outbox) (links : ∀ holder, holder ≠ second.id →
      ∀ found, found ∈ start.componentIds holder ↔ found ∈ store.componentIds holder)
    (savedFirst : SavedFull now first start middle)
    (savedSecond : SavedFull now second middle final) : PairSaved now first second store final where
  firstPresent := incidents ▸ savedFirst.present
  secondPresent := by
    rcases savedSecond.present with ⟨row, found⟩
    rw [savedFirst.incidents, SerialTable.get?_update, incidents] at found
    split_ifs at found
    · rw [Option.map_eq_some_iff] at found
      rcases found with ⟨stored, present, _⟩
      exact ⟨stored, present⟩
    · exact ⟨row, found⟩
  incidents := by rw [savedSecond.incidents, savedFirst.incidents, incidents]
  components := by rw [savedSecond.components, savedFirst.components, components]
  linked := by
    intro holder found
    rw [savedSecond.linked, savedFirst.linked]
    split_ifs with isSecond isFirst
    · exact Iff.rfl
    · exact Iff.rfl
    · exact links holder isSecond found
  statuses := by
    rw [savedSecond.statuses, savedFirst.statuses, statuses, SerialTable.insertAll_append]
  outbox := by rw [savedSecond.outbox, savedFirst.outbox, outbox]

/-- The source copy as a move writes it back: a source that is not closed loses
the component. -/
def releasedSource (component : Component) (incOld : Incident) (closeOld : Bool) : Incident :=
  if closeOld = false ∧ component.id ≠ 0 then dropIncidentComponent incOld component.id else incOld

theorem releasedSource_id (component : Component) (incOld : Incident) (closeOld : Bool) :
    (releasedSource component incOld closeOld).id = incOld.id := by
  unfold releasedSource
  split_ifs <;> rfl

theorem moveComponentTx_ok {component : Component} {incOld incNew : Incident} {closeOld : Bool}
    {copies : Incident × Incident}
    (committed : moveComponentTx now component incOld incNew closeOld store = .ok (copies, final)) :
    PairSaved now incNew (releasedSource component incOld closeOld) store final ∧
      (∃ statuses, (∀ status ∈ statuses, status.id ≠ 0) ∧ copies.1 = { releasedSource component incOld closeOld with
        createdAt := some (incOld.createdAt.getD now)
        modifiedAt := some now
        statuses := statuses }) ∧
      (∃ statuses, (∀ status ∈ statuses, status.id ≠ 0) ∧ copies.2 = { incNew with
        createdAt := some (incNew.createdAt.getD now)
        modifiedAt := some now
        statuses := statuses }) := by
  unfold moveComponentTx at committed
  split_ifs at committed with stays
  · rcases Tx.bind_ok.mp committed with ⟨⟨⟩, first, removed, rest⟩
    rcases Tx.bind_ok.mp rest with ⟨savedNew, second, newCommitted, rest⟩
    rcases Tx.bind_ok.mp rest with ⟨savedOld, third, oldCommitted, finish⟩
    rcases Tx.pure_ok.mp finish with ⟨rfl, rfl⟩
    have unlinked := removeIncidentComponent_ok removed
    subst unlinked
    rcases saveIncidentFull_ok newCommitted with ⟨newSaved, newCopy⟩
    rcases saveIncidentFull_ok oldCommitted with ⟨oldSaved, oldCopy⟩
    have released : releasedSource component incOld closeOld =
        dropIncidentComponent incOld component.id := if_pos stays
    rw [released]
    refine ⟨pairSaved_of store (store.unlink incOld.id [component.id]) rfl rfl rfl rfl ?_ newSaved
      oldSaved, oldCopy, newCopy⟩
    intro holder elsewhere found
    rw [mem_componentIds_unlink]
    constructor
    · exact And.left
    · intro stored
      exact ⟨stored, fun same => elsewhere same.1⟩
  · rcases Tx.bind_ok.mp committed with ⟨savedNew, second, newCommitted, rest⟩
    rcases Tx.bind_ok.mp rest with ⟨savedOld, third, oldCommitted, finish⟩
    rcases Tx.pure_ok.mp finish with ⟨rfl, rfl⟩
    rcases saveIncidentFull_ok newCommitted with ⟨newSaved, newCopy⟩
    rcases saveIncidentFull_ok oldCommitted with ⟨oldSaved, oldCopy⟩
    have released : releasedSource component incOld closeOld = incOld := if_neg stays
    rw [released]
    exact ⟨pairSaved_of store store rfl rfl rfl rfl (fun _ _ _ => Iff.rfl) newSaved oldSaved, oldCopy, newCopy⟩

/-- Dropping components changes nothing else of a copy. -/
theorem dropIncidentComponents_fields (incident : Incident) (ids : List Nat) :
    dropIncidentComponents incident ids = { incident with
      components := (dropIncidentComponents incident ids).components } := by
  unfold dropIncidentComponents
  induction ids generalizing incident with
  | nil => rfl
  | cons id ids ih =>
    rw [List.foldl_cons]
    split_ifs
    · exact ih incident
    · exact ih (dropIncidentComponent incident id)

theorem dropIncidentComponents_id (incident : Incident) (ids : List Nat) :
    (dropIncidentComponents incident ids).id = incident.id := by
  rw [dropIncidentComponents_fields]

theorem dropIncidentComponents_type (incident : Incident) (ids : List Nat) :
    (dropIncidentComponents incident ids).type = incident.type := by
  rw [dropIncidentComponents_fields]

theorem mem_dropIncidentComponent {id other : Nat} :
    other ∈ (dropIncidentComponent incident id).wantedIds ↔
      other ∈ incident.wantedIds ∧ other ≠ id := by
  rw [mem_wantedIds, mem_wantedIds]
  unfold dropIncidentComponent Incident.componentIds
  constructor
  · rintro ⟨member, named⟩
    rcases List.mem_map.mp member with ⟨held, listed, rfl⟩
    rcases List.mem_filter.mp listed with ⟨present, different⟩
    exact ⟨⟨List.mem_map_of_mem present, named⟩, by simpa using different⟩
  · rintro ⟨⟨member, named⟩, different⟩
    rcases List.mem_map.mp member with ⟨held, listed, rfl⟩
    refine ⟨List.mem_map_of_mem (List.mem_filter.mpr ⟨listed, ?_⟩), named⟩
    simpa using different

/-- The components a copy has left. -/
theorem mem_dropIncidentComponents {ids : List Nat} {other : Nat} :
    other ∈ (dropIncidentComponents incident ids).wantedIds ↔
      other ∈ incident.wantedIds ∧ other ∉ ids := by
  unfold dropIncidentComponents
  induction ids generalizing incident with
  | nil => simp
  | cons id ids ih =>
    rw [List.foldl_cons, ih, List.mem_cons, not_or, ← and_assoc]
    apply and_congr_left
    intro _
    split_ifs with zero
    · subst zero
      rw [mem_wantedIds]
      exact ⟨fun held => ⟨held, held.2⟩, And.left⟩
    · exact mem_dropIncidentComponent

theorem extractComponentsTx_ok {components : List Component} {incOld : Incident}
    {copies : Incident × Incident}
    (committed : extractComponentsTx now components incident incOld store = .ok (copies, final)) :
    PairSaved now incident (dropIncidentComponents incOld (components.map Component.id))
        store final ∧
      (∃ statuses, (∀ status ∈ statuses, status.id ≠ 0) ∧ copies.2 = { incident with
        createdAt := some (incident.createdAt.getD now)
        modifiedAt := some now
        statuses := statuses }) := by
  unfold extractComponentsTx at committed
  rcases Tx.bind_ok.mp committed with ⟨⟨⟩, first, removed, rest⟩
  rcases Tx.bind_ok.mp rest with ⟨saved, second, newCommitted, rest⟩
  rcases Tx.bind_ok.mp rest with ⟨savedOld, third, oldCommitted, finish⟩
  rcases Tx.pure_ok.mp finish with ⟨rfl, rfl⟩
  rcases removeIncidentComponents_ok removed with ⟨incidents, sameComponents, statuses, outbox, links⟩
  rcases saveIncidentFull_ok newCommitted with ⟨newSaved, newCopy⟩
  rcases saveIncidentFull_ok oldCommitted with ⟨oldSaved, _⟩
  have sameId := dropIncidentComponents_id incOld (components.map Component.id)
  exact ⟨pairSaved_of store first incidents sameComponents statuses outbox (sameId.symm ▸ links)
    newSaved oldSaved, newCopy⟩

/-! ## Creating and modifying events -/

/-- The committed effect of inserting an event. -/
structure Inserted (now : Time) (incident : Incident) (store final : Store) : Prop where
  incidents : final.incidents = store.incidents.insert (newIncidentRow now incident)
  components : final.components = store.components
  linked : ∀ holder found, found ∈ final.componentIds holder ↔
    found ∈ store.componentIds holder ∨
      (holder = store.incidents.nextId ∧ found ∈ incident.wantedIds)
  statuses : final.statuses = store.statuses.insertAll
    (newStatusRows now store.incidents.nextId incident.statuses)
  outbox : final.outbox = store.outbox

theorem saveIncidentTx_ok {saved : Incident}
    (committed : saveIncidentTx now incident store = .ok (saved, final)) :
    Inserted now incident store final ∧
      ∃ statuses, (∀ status ∈ statuses, status.id ≠ 0) ∧ saved = { incident with
        id := store.incidents.nextId
        version := some (newIncidentRow now incident).version
        createdAt := (newIncidentRow now incident).createdAt
        modifiedAt := (newIncidentRow now incident).modifiedAt
        statuses := statuses } := by
  unfold saveIncidentTx at committed
  split_ifs at committed with noText
  · cases committed
  · dsimp only at committed
    rcases Tx.bind_ok.mp committed with ⟨id, first, inserted, rest⟩
    rcases Tx.bind_ok.mp rest with ⟨⟨⟩, second, linked, rest⟩
    rcases Tx.bind_ok.mp rest with ⟨statuses, third, stamped, finish⟩
    rcases Tx.pure_ok.mp finish with ⟨result, rfl⟩
    unfold insertIncident at inserted
    split_ifs at inserted
    cases inserted
    rcases addComponentIDs_ok linked with ⟨present, exist, rfl⟩
    have stamps := insertNewIncidentStatuses_ok stamped
    subst stamps
    refine ⟨⟨rfl, rfl, ?_, rfl, rfl⟩, statuses, insertNewIncidentStatuses_ids stamped, result.symm⟩
    intro holder found
    rw [componentIds_insertStatuses, mem_componentIds_link, componentIds_insertIncident]

/-- The committed effect of modifying an event.  The guard on the version
concerns maintenances only; without a row to hit, nothing is rewritten. -/
structure Modified (now : Time) (incident : Incident) (version : Int) (store final : Store) :
    Prop where
  expected : incident.version = some version
  guarded : incident.type = .maintenance →
    ∃ row, store.incidents.get? incident.id = some row ∧ row.version = version
  incidents : final.incidents =
    store.incidents.update incident.id (modifiedRow now incident (version + 1))
  components : final.components = store.components
  relation : final.relation = store.relation
  statuses : final.statuses =
    store.statuses.insertAll (newStatusRows now incident.id incident.statuses)
  outbox : final.outbox = store.outbox

theorem modifyIncident_ok {modified : Incident}
    (committed : modifyIncident now incident store = .ok (modified, final)) :
    ∃ version, Modified now incident version store final ∧
      ∃ statuses, (∀ status ∈ statuses, status.id ≠ 0) ∧ modified = { incident with
        version := some (version + 1), statuses := statuses } := by
  unfold modifyIncident at committed
  cases expected : incident.version with
  | none =>
    simp only [expected] at committed
    cases committed
  | some version =>
    simp only [expected] at committed
    refine ⟨version, ?_⟩
    split_ifs at committed with fits
    · rcases Tx.bind_ok.mp committed with ⟨affected, first, updated, rest⟩
      split_ifs at rest with conflict
      · cases rest
      · rcases Tx.bind_ok.mp rest with ⟨statuses, second, inserted, finish⟩
        rcases Tx.pure_ok.mp finish with ⟨result, rfl⟩
        have inserts := insertNewIncidentStatuses_ok inserted
        subst inserts
        rcases updateWhere_ok updated with ⟨missed, same, unhit⟩ | ⟨_, row, found, hit, _, rewritten⟩
        · subst same
          have other : incident.type ≠ .maintenance := fun maintenance =>
            conflict ⟨maintenance, missed⟩
          have missing : first.incidents.get? incident.id = none := by
            cases found : first.incidents.get? incident.id with
            | none => rfl
            | some row =>
              have guardFails := unhit row found
              simp [modifyGuard, other] at guardFails
          refine ⟨⟨expected, fun maintenance => absurd maintenance other, ?_, rfl, rfl, rfl, rfl⟩,
            statuses, insertNewIncidentStatuses_ids inserted, result.symm⟩
          exact (SerialTable.update_of_get?_none missing _).symm
        · subst rewritten
          refine ⟨⟨expected, ?_, rfl, rfl, rfl, rfl, rfl⟩, statuses,
            insertNewIncidentStatuses_ids inserted, result.symm⟩
          intro maintenance
          exact ⟨row, found, by simpa [modifyGuard, maintenance] using hit⟩
    · cases committed

/-- Only the outbox changes. -/
structure SameEvents (store final : Store) : Prop where
  incidents : final.incidents = store.incidents
  components : final.components = store.components
  relation : final.relation = store.relation
  statuses : final.statuses = store.statuses

theorem SameEvents.refl (store : Store) : SameEvents store store := ⟨rfl, rfl, rfl, rfl⟩

theorem SameEvents.trans {first second third : Store} (before : SameEvents first second)
    (after : SameEvents second third) : SameEvents first third :=
  ⟨after.incidents.trans before.incidents, after.components.trans before.components,
    after.relation.trans before.relation, after.statuses.trans before.statuses⟩

theorem enqueueAll_sameEvents {rows : List NotificationOutbox}
    (committed : enqueueAll rows store = .ok ((), final)) : SameEvents store final := by
  induction rows generalizing store with
  | nil =>
    rw [enqueueAll, Tx.pure_ok] at committed
    exact committed.2 ▸ SameEvents.refl store
  | cons row rows ih =>
    rw [enqueueAll, Tx.bind_ok] at committed
    rcases committed with ⟨inserted, middle, first, rest⟩
    refine SameEvents.trans ?_ (ih rest)
    unfold enqueue at first
    split_ifs at first
    · cases first
      exact SameEvents.refl store
    · cases first
      exact ⟨rfl, rfl, rfl, rfl⟩

theorem publishTx_sameEvents {change : Change}
    (committed : publishTx publisher now changeId change store = .ok ((), final)) :
    SameEvents store final := by
  unfold publishTx at committed
  split at committed
  · rw [Tx.pure_ok] at committed
    exact committed.2 ▸ SameEvents.refl store
  · split_ifs at committed
    · exact enqueueAll_sameEvents committed
    · rw [Tx.pure_ok] at committed
      exact committed.2 ▸ SameEvents.refl store

theorem publishMaintenanceChange_sameEvents
    (committed : publishMaintenanceChange publisher now changeId incident oldStatus userID store =
      .ok ((), final)) : SameEvents store final := by
  unfold publishMaintenanceChange at committed
  split_ifs at committed
  · rw [Tx.pure_ok] at committed
    exact committed.2 ▸ SameEvents.refl store
  · exact publishTx_sameEvents committed

/-- The parts of a committed creation: the insertion, the first status and what
was published. -/
theorem createEventTx_ok {created : Incident}
    (committed : createEventTx publisher now changeId incident userID store = .ok (created, final)) :
    ∃ saved inserted modified version,
      saveIncidentTx now incident store = .ok (saved, inserted) ∧
      Modified now (withInitialStatus now userID saved) version inserted modified ∧
      (∃ statuses, (∀ status ∈ statuses, status.id ≠ 0) ∧ created = { withInitialStatus now userID saved with
        version := some (version + 1), statuses := statuses }) ∧
      publishMaintenanceChange publisher now changeId created .unset userID modified =
        .ok ((), final) := by
  unfold createEventTx at committed
  rcases Tx.bind_ok.mp committed with ⟨saved, inserted, savedCommitted, rest⟩
  rcases Tx.bind_ok.mp rest with ⟨result, modified, modifiedCommitted, rest⟩
  rcases Tx.bind_ok.mp rest with ⟨⟨⟩, published, publication, finish⟩
  rcases Tx.pure_ok.mp finish with ⟨rfl, rfl⟩
  rcases modifyIncident_ok modifiedCommitted with ⟨version, effect, copy⟩
  exact ⟨saved, inserted, modified, version, savedCommitted, effect, copy, publication⟩

theorem persistPatchTx_ok {stored patched : Incident}
    (committed : persistPatchTx publisher now changeId stored oldStatus userID store =
      .ok (patched, final)) :
    ∃ version modified, Modified now stored version store modified ∧
      (∃ statuses, (∀ status ∈ statuses, status.id ≠ 0) ∧
        patched = { stored with version := some (version + 1), statuses := statuses }) ∧
      (stored.status = oldStatus → final = modified) ∧
      (stored.status ≠ oldStatus →
        publishMaintenanceChange publisher now changeId patched oldStatus userID modified =
          .ok ((), final)) := by
  unfold persistPatchTx at committed
  rcases Tx.bind_ok.mp committed with ⟨result, modified, modifiedCommitted, rest⟩
  rcases modifyIncident_ok modifiedCommitted with ⟨version, effect, copy⟩
  split_ifs at rest with same
  · rcases Tx.pure_ok.mp rest with ⟨rfl, rfl⟩
    exact ⟨version, modified, effect, copy, fun _ => rfl, fun changed => absurd same changed⟩
  · rcases Tx.bind_ok.mp rest with ⟨⟨⟩, published, publication, finish⟩
    rcases Tx.pure_ok.mp finish with ⟨rfl, rfl⟩
    exact ⟨version, modified, effect, copy, fun equal => absurd equal same, fun _ => publication⟩

theorem checkerPatchTx_ok {fresh patched : Incident}
    (committed : checkerPatchTx publisher now changeId fresh oldStatus store =
      .ok (patched, final)) :
    ∃ version modified, Modified now fresh version store modified ∧
      (∃ statuses, (∀ status ∈ statuses, status.id ≠ 0) ∧
        patched = { fresh with version := some (version + 1), statuses := statuses }) ∧
      publishTx publisher now changeId
        { incidentId := patched.id
          title := strDeref patched.text
          oldStatus := oldStatus
          newStatus := patched.status
          contactEmail := strDeref patched.contactEmail
          actor := actorChecker } modified = .ok ((), final) := by
  unfold checkerPatchTx at committed
  rcases Tx.bind_ok.mp committed with ⟨result, modified, modifiedCommitted, rest⟩
  rcases modifyIncident_ok modifiedCommitted with ⟨version, effect, copy⟩
  rcases Tx.bind_ok.mp rest with ⟨⟨⟩, published, publication, finish⟩
  rcases Tx.pure_ok.mp finish with ⟨rfl, rfl⟩
  exact ⟨version, modified, effect, copy, publication⟩

/-! ## The remaining transactions -/

/-- The committed effect of adding a component under the version of the copy. -/
structure ComponentAdded (now : Time) (incident : Incident) (component : Component)
    (status : IncidentStatus) (store final : Store) : Prop where
  versioned : ∃ version row, incident.version = some version ∧
    store.incidents.get? incident.id = some row ∧ row.version = version ∧
    final.incidents = store.incidents.update incident.id
      (fun row => { row with version := version + 1 })
  components : final.components = store.components
  linked : ∀ holder found, found ∈ final.componentIds holder ↔
    found ∈ store.componentIds holder ∨
      (holder = incident.id ∧ found = component.id ∧ component.id ≠ 0)
  statuses : final.statuses = store.statuses.insert (statusRow now incident.id status)
  outbox : final.outbox = store.outbox

theorem addComponentTx_ok {added : Incident} {component : Component}
    (committed : addComponentTx now incident component status store = .ok (added, final)) :
    ComponentAdded now incident component status store final ∧ added.id = incident.id := by
  unfold addComponentTx at committed
  cases expected : incident.version with
  | none =>
    simp only [expected] at committed
    cases committed
  | some version =>
    simp only [expected] at committed
    by_cases fits : (fitsInteger version && fitsInteger (version + 1)) = true
    · rw [if_pos fits, Tx.bind_ok] at committed
      rcases committed with ⟨affected, first, updated, rest⟩
      rcases updateWhere_ok updated with ⟨missed, _, _⟩ | ⟨hit, row, found, matched, _, rewritten⟩
      · rw [if_pos missed] at rest
        cases rest
      · subst rewritten
        rw [hit, if_neg (by simp)] at rest
        have versioned : row.version = version := by simpa using matched
        split_ifs at rest with zero
        · rcases Tx.bind_ok.mp rest with ⟨inserted, second, stamped, finish⟩
          rcases Tx.pure_ok.mp finish with ⟨rfl, rfl⟩
          have stamps := insertIncidentStatus_ok stamped
          subst stamps
          refine ⟨⟨⟨version, row, expected, found, versioned, rfl⟩, rfl, ?_, rfl, rfl⟩, rfl⟩
          intro holder other
          rw [componentIds_insertStatus, componentIds_updateIncident]
          simp [zero]
        · rcases Tx.bind_ok.mp rest with ⟨⟨⟩, second, linked, rest⟩
          rcases Tx.bind_ok.mp rest with ⟨inserted, third, stamped, finish⟩
          rcases Tx.pure_ok.mp finish with ⟨rfl, rfl⟩
          have stamps := insertIncidentStatus_ok stamped
          subst stamps
          rcases addComponentIDs_ok linked with ⟨present, exist, rfl⟩
          refine ⟨⟨⟨version, row, expected, found, versioned, rfl⟩, rfl, ?_, rfl, rfl⟩, rfl⟩
          intro holder other
          rw [componentIds_insertStatus, mem_componentIds_link, componentIds_updateIncident]
          simp [zero]
    · rw [if_neg fits] at committed
      cases committed

theorem increaseImpactTx_ok {timeNow : Time}
    (committed : increaseImpactTx timeNow incident status store = .ok ((), final)) :
    (∃ row, store.incidents.get? incident.id = some row) ∧
      final = (store.updateIncident incident.id (raisedRow timeNow incident)).insertStatus
        (statusRow timeNow incident.id status) := by
  unfold increaseImpactTx at committed
  rcases Tx.bind_ok.mp committed with ⟨⟨⟩, first, updated, rest⟩
  rcases Tx.bind_ok.mp rest with ⟨inserted, second, stamped, finish⟩
  rcases Tx.pure_ok.mp finish with ⟨_, rfl⟩
  rcases updateOneID_ok updated with ⟨row, found, _, rfl⟩
  exact ⟨⟨row, found⟩, insertIncidentStatus_ok stamped⟩

theorem reOpenIncidentTx_ok (committed : reOpenIncidentTx id store = .ok ((), final)) :
    final.incidents = store.incidents.update id (fun row => { row with endDate := none }) ∧
      final.components = store.components ∧ final.relation = store.relation ∧
      final.statuses = store.statuses ∧ final.outbox = store.outbox := by
  unfold reOpenIncidentTx at committed
  rcases Tx.bind_ok.mp committed with ⟨affected, first, updated, finish⟩
  rcases Tx.pure_ok.mp finish with ⟨_, rfl⟩
  rcases updateWhere_ok updated with ⟨_, same, unhit⟩ | ⟨_, row, _, _, _, rewritten⟩
  · subst same
    have missing : first.incidents.get? id = none := by
      cases found : first.incidents.get? id with
      | none => rfl
      | some row => exact absurd (unhit row found) (by simp)
    exact ⟨(SerialTable.update_of_get?_none missing _).symm, rfl, rfl, rfl, rfl⟩
  · subst rewritten
    exact ⟨rfl, rfl, rfl, rfl, rfl⟩

theorem modifyEventUpdateTx_ok {update updated : IncidentStatus}
    (committed : modifyEventUpdateTx now update store = .ok (updated, final)) :
    ∃ row, store.statuses.get? update.id = some row ∧
      final = { store with
        statuses := store.statuses.update update.id (fun _ =>
          { row with text := update.text, modifiedAt := some now }) } := by
  unfold modifyEventUpdateTx at committed
  split_ifs at committed
  split at committed
  · cases committed
  · rename_i row found
    cases committed
    rw [Option.filter_eq_some_iff] at found
    exact ⟨row, found.1, rfl⟩

end StatusDashboard.Storage
