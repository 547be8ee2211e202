import StatusDashboard.Properties.Conservation

namespace StatusDashboard.Properties

open Event Storage Tables Notification Handlers Process Provenance Sequence

/-!
# Regular creations redistribute components

A regular creation lists the active events, stores the new incident and then
takes each of its components out of the listed incident that holds it.  The
loop works on the listed copies and writes each of them back as a whole, so the
sets that are stored in the end are those the copies arrive at.  `Progress`
says what a copy has arrived at once some components were handled, and
`Distributing` that the store agrees with the copies.
-/

/-- An event with its components and its history is as it was. -/
structure Unchanged (id : Nat) (store final : Store) : Prop where
  row : final.incidents.get? id = store.incidents.get? id
  linked : ∀ component, component ∈ final.componentIds id ↔ component ∈ store.componentIds id
  history : final.history id = store.history id

theorem Unchanged.trans {id : Nat} {first second third : Store}
    (before : Unchanged id first second) (after : Unchanged id second third) :
    Unchanged id first third where
  row := after.row.trans before.row
  linked component := (after.linked component).trans (before.linked component)
  history := after.history.trans before.history

/-- What became of a listed incident once some components were handled.  Its
components leave it one by one; the last one stays with it and closes it. -/
inductive Progress (origin : Store) (handled : List Nat) (copy : Incident) : Prop
  | kept (distinct : copy.componentIds.Nodup)
      (holds : ∀ component, component ∈ copy.componentIds ↔
        component ∈ origin.componentIds copy.id ∧ component ∉ handled)
      (status : ∀ row ∈ origin.incidents.get? copy.id, copy.status = row.status.getD .unset)
      (remains : copy.components = [] → origin.componentIds copy.id = [])
  | closed (single : copy.components.length = 1)
      (holds : ∀ component ∈ copy.componentIds, component ∈ origin.componentIds copy.id)
      (emptied : ∀ component ∈ origin.componentIds copy.id, component ∈ handled)
      (status : copy.status = .resolved) (ended : copy.endDate ≠ none)

namespace Progress

variable {origin : Store} {handled : List Nat} {copy : Incident}

theorem held {component : Nat} (progress : Progress origin handled copy)
    (member : component ∈ copy.componentIds) : component ∈ origin.componentIds copy.id := by
  cases progress with
  | kept distinct holds => exact ((holds component).mp member).1
  | closed single holds => exact holds component member

/-- A component that the copy does not hold makes no difference to it. -/
theorem passed {component : Nat} (progress : Progress origin handled copy)
    (absent : component ∉ copy.componentIds) : Progress origin (component :: handled) copy := by
  cases progress with
  | kept distinct holds status remains =>
    refine .kept distinct ?_ status remains
    intro other
    rw [holds, List.mem_cons, not_or]
    constructor
    · rintro ⟨linked, unhandled⟩
      refine ⟨linked, ?_, unhandled⟩
      rintro rfl
      exact absent ((holds _).mpr ⟨linked, unhandled⟩)
    · rintro ⟨linked, _, unhandled⟩
      exact ⟨linked, unhandled⟩
  | closed single holds emptied status ended =>
    exact .closed single holds
      (fun other linked => List.mem_cons_of_mem _ (emptied other linked)) status ended

/-- Of several components one leaves. -/
theorem dropped {component : Nat} {smaller : Incident} (progress : Progress origin handled copy)
    (several : copy.components.length ≠ 1) (id : smaller.id = copy.id)
    (status : smaller.status = copy.status)
    (components : smaller.components =
      copy.components.filter (fun other => other.id ≠ component)) :
    Progress origin (component :: handled) smaller := by
  have members : ∀ other, other ∈ smaller.componentIds ↔
      other ∈ copy.componentIds ∧ other ≠ component := by
    intro other
    unfold Incident.componentIds
    rw [components]
    simp only [List.mem_map, List.mem_filter, decide_eq_true_eq]
    constructor
    · rintro ⟨held, ⟨listed, different⟩, rfl⟩
      exact ⟨⟨held, listed, rfl⟩, different⟩
    · rintro ⟨⟨held, listed, rfl⟩, different⟩
      exact ⟨held, ⟨listed, different⟩, rfl⟩
  cases progress with
  | closed single => exact absurd single several
  | kept distinct holds sameStatus remains =>
    refine .kept ?_ ?_ ?_ ?_
    · unfold Incident.componentIds
      rw [components]
      exact distinct.sublist (List.filter_sublist.map _)
    · intro other
      rw [members, holds, id, List.mem_cons, not_or, and_assoc, and_comm (a := other ∉ handled)]
    · rw [id, status]
      exact sameStatus
    · intro empty
      rw [id]
      apply remains
      -- Distinct components that are all the same one are at most one.
      have all : ∀ other ∈ copy.componentIds, other = component := by
        intro other member
        by_contra different
        have stays := (members other).mpr ⟨member, different⟩
        unfold Incident.componentIds at stays
        rw [empty] at stays
        cases stays
      have short : copy.componentIds.length ≤ [component].length :=
        (distinct.subperm fun other member => List.mem_singleton.mpr (all other member)).length_le
      unfold Incident.componentIds at short
      rw [List.length_map] at short
      have bound : [component].length = 1 := rfl
      exact List.eq_nil_of_length_eq_zero (by omega)

/-- The only component closes the incident. -/
theorem closes {component : Nat} {last : Incident} (progress : Progress origin handled copy)
    (member : component ∈ copy.componentIds) (single : copy.components.length = 1)
    (id : last.id = copy.id) (components : last.components = copy.components)
    (status : last.status = .resolved) (ended : last.endDate ≠ none) :
    Progress origin (component :: handled) last := by
  have sameIds : last.componentIds = copy.componentIds := by
    unfold Incident.componentIds
    rw [components]
  refine .closed (components ▸ single) ?_ ?_ status ended
  · rw [sameIds, id]
    exact fun other => progress.held
  · rw [id]
    intro other linked
    cases progress with
    | closed _ _ emptied => exact List.mem_cons_of_mem _ (emptied other linked)
    | kept distinct holds =>
      by_cases known : other ∈ handled
      · exact List.mem_cons_of_mem _ known
      · have here := (holds other).mpr ⟨linked, known⟩
        rcases List.length_eq_one_iff.mp single with ⟨only, shape⟩
        unfold Incident.componentIds at here member
        rw [shape] at here member
        have equal := (List.mem_singleton.mp here).trans (List.mem_singleton.mp member).symm
        exact equal ▸ List.mem_cons_self

end Progress

/-! ## One move -/

section Move

variable {named : Component} {timeNow : Time} {old new : Incident} {close : Bool}
  {choice : Choice} {copies : Incident × Incident} {store final : Store}

/-- A move changes no event but its source and its target. -/
theorem moved_unchanged (oldSettled : Settled old) (newSettled : Settled new)
    (commits : (moveStatement timeNow named old new close).exec choice store = .ok (copies, final))
    {id : Nat} (notOld : id ≠ old.id) (notNew : id ≠ new.id) : Unchanged id store final := by
  have footprint := exec_footprint commits
  have untouched : id ∉ EventWrite.targets (moveStatement timeNow named old new close) :=
    not_target_of_move notOld notNew
  constructor
  case row =>
    cases found : store.incidents.get? id with
    | none =>
      rw [footprint.fresh id found]
      exact ite_self none
    | some row => rw [footprint.rows id row found, EventWrite.rewritten_of_not_target untouched]
  case linked =>
    intro component
    rw [footprint.linked, EventWrite.links, releaseComponent_id, if_neg notOld,
      if_neg (show id ≠ (receiveComponent timeNow named old new).id from notNew)]
  case history =>
    obtain ⟨entries, shape, values⟩ := history_insertAll id (footprint.grown rfl)
    have gained : ∀ row ∈ newStatusRows choice.now (receiveComponent timeNow named old new).id
        (receiveComponent timeNow named old new).statuses, row.incidentId = new.id :=
      newStatusRows_own (ownUpdates_receive newSettled)
    have released : OwnUpdates (movedSource timeNow named old new close) :=
      ownUpdates_released (ownUpdates_release oldSettled)
    have given : ∀ row ∈ newStatusRows choice.now old.id
        (movedSource timeNow named old new close).statuses, row.incidentId = old.id := by
      apply newStatusRows_own
      intro status member fresh
      rw [released status member fresh, movedSource_id]
    rw [EventWrite.updates, List.filter_append, filter_foreign gained notNew,
      releaseComponent_id, filter_foreign given notOld] at values
    rw [shape, List.map_eq_nil_iff.mp values, List.append_nil]

end Move

/-- What a move makes of its source. -/
theorem moved_progress {named : Component} {timeNow : Time} {old new : Incident} {choice : Choice}
    {copies : Incident × Incident} {origin store final : Store} {handled : List Nat}
    (progress : Progress origin handled old) (holds : named.id ∈ old.componentIds)
    (nonzero : named.id ≠ 0)
    (commits : (moveStatement timeNow named old new (old.components.length == 1)).exec choice
      store = .ok (copies, final)) : Progress origin (named.id :: handled) copies.1 := by
  rcases moveComponentTx_ok commits with ⟨_, ⟨statuses, _, shape⟩, _⟩
  by_cases single : old.components.length = 1
  · have close : (old.components.length == 1) = true := by simpa using single
    rw [close] at shape
    have released : releasedSource named (releaseComponent timeNow named old new true) true =
        releaseComponent timeNow named old new true := if_neg (by simp)
    rw [released] at shape
    refine progress.closes holds single ?_ ?_ ?_ ?_
    · rw [shape]
      rfl
    · rw [shape]
      rfl
    · rw [shape]
      rfl
    · rw [shape]
      exact Option.some_ne_none _
  · have close : (old.components.length == 1) = false := by simpa using single
    rw [close] at shape
    have released : releasedSource named (releaseComponent timeNow named old new false) false =
        dropIncidentComponent (releaseComponent timeNow named old new false) named.id :=
      if_pos ⟨rfl, nonzero⟩
    rw [released] at shape
    refine progress.dropped single ?_ ?_ ?_
    · rw [shape]
      rfl
    · rw [shape]
      rfl
    · rw [shape]
      rfl

/-! ## The loop -/

/-- A listed incident in the loop: the copy, the store and the progress agree. -/
structure Listed (origin : Store) (handled : List Nat) (new : Nat) (copy : Incident)
    (store : Store) : Prop where
  sync : InSync copy store
  settled : Settled copy
  old : copy.id ≠ new
  status : ShowsStatus copy store
  progress : Progress origin handled copy

/-- The state of the loop of a regular creation that started in `origin`, once the
components `handled` were looked at. -/
structure Distributing (origin : Store) (requested handled : List Nat) (incIn : Incident)
    (opened : List Incident) (store : Store) : Prop where
  new : InSync incIn store
  newType : incIn.type = .incident
  newSettled : Settled incIn
  target : ∀ component, component ∈ incIn.wantedIds ↔ component ∈ requested
  distinct : (opened.map Incident.id).Nodup
  listed : ∀ copy ∈ opened, copy.type = .incident → Listed origin handled incIn.id copy store
  apart : ∀ first ∈ opened, ∀ second ∈ opened, first.type = .incident →
    second.type = .incident → ∀ component, component ∈ origin.componentIds first.id →
      component ∈ origin.componentIds second.id → first.id = second.id
  others : ∀ id, id ≠ incIn.id → (∀ copy ∈ opened, copy.type = .incident → copy.id = id →
    ∀ component ∈ handled, component ∉ origin.componentIds id) → Unchanged id origin store

namespace Distributing

variable {origin store final : Store} {requested handled : List Nat} {incIn : Incident}
  {opened : List Incident}

/-- A component that no listed incident holds. -/
theorem passed {component : Component}
    (state : Distributing origin requested handled incIn opened store)
    (passes : ∀ copy ∈ opened, PassedOver component copy) :
    Distributing origin requested (component.id :: handled) incIn opened store := by
  refine { state with listed := ?_, others := ?_ }
  · intro copy member type
    have listed := state.listed copy member type
    refine { listed with progress := listed.progress.passed ?_ }
    rcases passes copy member with skipped | absent
    · simp [shouldSkipIncident, type] at skipped
    · exact absent
  · intro id different untouched
    refine state.others id different ?_
    intro copy member type same other known
    exact untouched copy member type same other (List.mem_cons_of_mem _ known)

/-- A component that is moved out of the listed incident that holds it. -/
theorem moved {component named : Component} {old : Incident} {before after : List Incident}
    {timeNow : Time} {choice : Choice} {copies : Incident × Incident}
    (state : Distributing origin requested handled incIn (before ++ old :: after) store)
    (wanted : component.id ∈ requested) (nonzero : component.id ≠ 0)
    (type : old.type = .incident) (holds : component.id ∈ old.componentIds)
    (same : named.id = component.id)
    (commits : (moveStatement timeNow named old incIn (old.components.length == 1)).exec choice
      store = .ok (copies, final)) :
    Distributing origin requested (component.id :: handled) copies.2
      (before ++ copies.1 :: after) final := by
  have member : old ∈ before ++ old :: after := List.mem_append_right _ List.mem_cons_self
  have source := state.listed old member type
  have synced := moved_inSync source.sync state.new source.old commits
  rcases moved_source source.old commits with ⟨oldId, oldType, oldSettled, oldStatus⟩
  rcases moved_target commits with ⟨newId, newType, newSettled, newComponents⟩
  have unchanged : ∀ id, id ≠ old.id → id ≠ incIn.id → Unchanged id store final :=
    fun id notOld notNew => moved_unchanged source.settled state.newSettled commits notOld notNew
  have progressed : Progress origin (component.id :: handled) copies.1 := by
    rw [← same]
    exact moved_progress source.progress (same ▸ holds) (same ▸ nonzero) commits
  have sourceHeld := source.progress.held holds
  -- The component is in no other listed incident, so nothing changes for these.
  have elsewhere : ∀ copy ∈ before ++ old :: after, copy.id ≠ old.id → copy.type = .incident →
      component.id ∉ copy.componentIds := by
    intro copy listed different incident shared
    exact different (state.apart copy listed old member incident type component.id
      ((state.listed copy listed incident).progress.held shared) sourceHeld)
  refine ⟨synced _ (by simp), newType.trans state.newType, newSettled, ?_, ?_, ?_, ?_, ?_⟩
  · intro other
    rw [mem_wantedIds, ← state.target, mem_wantedIds]
    unfold Incident.componentIds
    rw [newComponents, List.map_append, List.mem_append]
    constructor
    · rintro ⟨held | received, nonzero⟩
      · exact ⟨held, nonzero⟩
      · rw [List.mem_singleton.mp received, same]
        exact mem_wantedIds.mp ((state.target _).mpr wanted)
    · rintro ⟨held, nonzero⟩
      exact ⟨Or.inl held, nonzero⟩
  · have distinct := state.distinct
    rw [List.map_append, List.map_cons] at distinct ⊢
    rw [oldId]
    exact distinct
  · intro copy listed incident
    rw [newId]
    rcases mem_replaced state.distinct listed with rfl | ⟨stays, notOld⟩
    · exact ⟨synced _ (by simp), oldSettled, oldId ▸ source.old, oldStatus, progressed⟩
    · have earlier := state.listed copy stays incident
      have row := (unchanged copy.id notOld earlier.old).row
      refine ⟨?_, earlier.settled, earlier.old, ?_, ?_⟩
      · exact earlier.sync.kept (exec_footprint commits) (not_target_of_move notOld earlier.old)
      · unfold ShowsStatus
        rw [row]
        exact earlier.status
      · exact earlier.progress.passed (elsewhere copy stays notOld incident)
  · intro first firstListed second secondListed firstType secondType
    have listedBefore : ∀ copy ∈ before ++ copies.1 :: after, copy.type = .incident →
        ∃ earlier ∈ before ++ old :: after, earlier.type = .incident ∧ earlier.id = copy.id := by
      intro copy listed incident
      rcases mem_replaced state.distinct listed with rfl | ⟨stays, _⟩
      · exact ⟨old, member, type, oldId.symm⟩
      · exact ⟨copy, stays, incident, rfl⟩
    rcases listedBefore first firstListed firstType with ⟨one, oneListed, oneType, oneId⟩
    rcases listedBefore second secondListed secondType with ⟨two, twoListed, twoType, twoId⟩
    rw [← oneId, ← twoId]
    exact state.apart one oneListed two twoListed oneType twoType
  · intro id different untouched
    rw [newId] at different
    have notOld : id ≠ old.id := by
      rintro rfl
      exact untouched copies.1 (List.mem_append_right _ List.mem_cons_self) (oldType.trans type)
        oldId component.id List.mem_cons_self sourceHeld
    refine (state.others id different ?_).trans (unchanged id notOld different)
    intro copy listed incident sameId other known
    have kept : copy.id ≠ old.id := fun same => notOld (sameId.symm.trans same)
    exact untouched copy (mem_kept listed kept) incident sameId other (List.mem_cons_of_mem _ known)

end Distributing

/-- Which event a copy is of. -/
def kindOf (copy : Incident) : Nat × EventType := (copy.id, copy.type)

/-- The whole loop handles every component, on copies of the same events. -/
theorem Distributing.relocates {reading : Clock} {components : List Component}
    {origin store final : Store} {requested handled : List Nat} {incIn : Incident}
    {opened : List Incident} (moves : Relocates reading components incIn opened store final)
    (state : Distributing origin requested handled incIn opened store)
    (wanted : ∀ component ∈ components, component.id ∈ requested ∧ component.id ≠ 0) :
    ∃ later incOut closing, Distributing origin requested later incOut closing final ∧
      (∀ component, component ∈ later ↔
        component ∈ components.map Component.id ∨ component ∈ handled) ∧
      incOut.id = incIn.id ∧ closing.map kindOf = opened.map kindOf := by
  induction moves generalizing handled with
  | done => exact ⟨handled, _, _, state, by simp, rfl, rfl⟩
  | @passed component components incIn opened store final passes rest ih =>
    obtain ⟨later, incOut, closing, ending, members, sameId, kinds⟩ := ih (state.passed passes)
      (fun other member => wanted other (List.mem_cons_of_mem _ member))
    refine ⟨later, incOut, closing, ending, ?_, sameId, kinds⟩
    intro other
    rw [members, List.map_cons, List.mem_cons, List.mem_cons]
    exact or_left_comm.trans or_assoc.symm
  | @moved component named components incIn old before after timeNow choice copies store middle
      final passes type holds clock same commits rest ih =>
      have here := wanted component List.mem_cons_self
      have source := state.listed old (List.mem_append_right _ List.mem_cons_self) type
      obtain ⟨later, incOut, closing, ending, members, sameId, kinds⟩ :=
        ih (state.moved here.1 here.2 type holds same commits)
          (fun other member => wanted other (List.mem_cons_of_mem _ member))
      rcases moved_source source.old commits with ⟨oldId, oldType, _⟩
      refine ⟨later, incOut, closing, ending, ?_, sameId.trans (moved_target commits).1, ?_⟩
      · intro other
        rw [members, List.map_cons, List.mem_cons, List.mem_cons]
        exact or_left_comm.trans or_assoc.symm
      · rw [kinds, List.map_append, List.map_append, List.map_cons, List.map_cons]
        have sameKind : kindOf copies.1 = kindOf old := by rw [kindOf, kindOf, oldId, oldType]
        rw [sameKind]

/-- An active incident: no end date, or between its dates with a status that is not
a final one. -/
def ActiveIncident (time : Time) (store : Store) (id : Nat) : Prop :=
  ∃ row, store.incidents.get? id = some row ∧ row.type = .incident ∧
    Truth.selects (activeCondition time [.resolved, .completed, .cancelled, .pendingReview,
      .reviewed, .completed, .cancelled] row) = true

theorem activeParams_selects {time : Time} {store : Store} {id : Nat} {row : IncidentRow} :
    (applyEventsFilters activeParams authorizedAccess time store id row).all Truth.selects = true ↔
      Truth.selects (activeCondition time [.resolved, .completed, .cancelled, .pendingReview,
        .reviewed, .completed, .cancelled] row) = true := by
  simp [applyEventsFilters, activeParams, dateConditions, authorizedAccess]

/-- No component is in two active incidents. -/
def OneActive (time : Time) (store : Store) : Prop :=
  ∀ component first second, ActiveIncident time store first → ActiveIncident time store second →
    component ∈ store.componentIds first → component ∈ store.componentIds second → first = second

/-- The loop starts on the listed copies, with nothing handled. -/
theorem distributing_start {publisher : Option Publisher} {incident created : Incident}
    {userID : Option String} {choice : Choice} {time : Time} {store middle : Store}
    {opened : List Incident} (oneActive : OneActive time store)
    (lists : Solo.Lists store (fun id row => (applyEventsFilters activeParams authorizedAccess time
      store id row).all Truth.selects = true) opened)
    (type : incident.type = .incident) (known : incident.impact.isSome ∧ incident.startDate.isSome)
    (nonzero : ∀ id ∈ incident.componentIds, id ≠ 0) (bare : incident.statuses = [])
    (commits : (EventWrite.createEvent publisher incident userID).exec choice store =
      .ok (created, middle)) :
    Distributing store incident.componentIds [] created opened middle := by
  have footprint := exec_footprint commits
  rcases created_row commits with ⟨newId, newType, _, _, components, _⟩
  have active : ∀ copy ∈ opened, copy.type = .incident → ActiveIncident time store copy.id := by
    intro copy member incident
    rcases lists.sound copy member with ⟨row, found, selected, shape⟩
    refine ⟨row, found, ?_, activeParams_selects.mp selected⟩
    rw [shape] at incident
    exact incident
  refine ⟨created_inSync known.1 known.2 commits, newType.trans type, ?_, ?_, lists.distinct, ?_,
    ?_, ?_⟩
  · rcases createEventTx_ok commits with ⟨_, _, _, _, _, _, ⟨statuses, settled, shape⟩, _⟩
    rw [shape]
    exact settled
  · intro component
    rw [mem_wantedIds]
    unfold Incident.componentIds at nonzero ⊢
    rw [components]
    exact and_iff_left_of_imp (nonzero component)
  · intro copy member incident
    rcases lists.sound copy member with ⟨row, found, _, shape⟩
    have stored := footprint.rows copy.id row found
    have ids := componentIds_stored shape
    refine ⟨(inSync_stored found shape).kept footprint List.not_mem_nil, ?_, ?_, ?_, ?_⟩
    · rw [shape]
      exact settled_storedCopy found
    · rw [newId]
      exact Nat.ne_of_lt (SerialTable.lt_nextId_of_get? found)
    · intro later present
      cases stored.symm.trans present
      rw [shape]
      rfl
    · refine .kept (ids ▸ JoinTable.right_nodup _ _) ?_ ?_ ?_
      · intro component
        rw [ids]
        simp
      · intro earlier present
        cases found.symm.trans present
        rw [shape]
        rfl
      · intro empty
        rw [← ids, Incident.componentIds, empty]
        rfl
  · intro first firstListed second secondListed firstType secondType component one two
    exact oneActive component first.id second.id (active first firstListed firstType)
      (active second secondListed secondType) one two
  · intro id different _
    have spared := others_of_insert footprint rfl (newId ▸ different)
    refine ⟨spared.1, spared.2, ?_⟩
    obtain ⟨entries, shape, values⟩ := history_insertAll id (footprint.grown rfl)
    have own : ∀ row ∈ EventWrite.updates choice store.incidents.nextId
        (.createEvent publisher incident userID), row.incidentId = created.id := by
      intro row added
      rw [createdUpdates_own bare added, newId]
    rw [filter_foreign own different] at values
    rw [shape, List.map_eq_nil_iff.mp values, List.append_nil]

/-! ## The whole creation -/

/-- How a regular creation for the components `requested` distributes components.
`time` is the instant at which events count as active. -/
structure Redistributes (requested : List Nat) (time : Time) (store final : Store) : Prop where
  created : ∃ row, final.incidents.get? store.incidents.nextId = some row ∧ row.type = .incident
  target : ∀ component, component ∈ final.componentIds store.incidents.nextId ↔
    component ∈ requested
  kept : ∀ id, ActiveIncident time store id →
    (∃ component ∈ store.componentIds id, component ∉ requested) →
    (∀ component, component ∈ final.componentIds id ↔
      component ∈ store.componentIds id ∧ component ∉ requested) ∧
    ∃ row later, store.incidents.get? id = some row ∧ final.incidents.get? id = some later ∧
      later.status.getD .unset = row.status.getD .unset
  closed : ∀ id, ActiveIncident time store id → store.componentIds id ≠ [] →
    (∀ component ∈ store.componentIds id, component ∈ requested) →
    ∃ later, final.incidents.get? id = some later ∧ later.status = some .resolved ∧
      later.endDate ≠ none
  others : ∀ id, id ≠ store.incidents.nextId →
    ¬ (ActiveIncident time store id ∧ ∃ component ∈ store.componentIds id,
      component ∈ requested) → Unchanged id store final

section Outcome

variable {origin final : Store} {requested handled : List Nat} {new : Nat} {copy : Incident}

/-- An incident that keeps components is stored with exactly these. -/
theorem Listed.kept (listed : Listed origin handled new copy final)
    (stays : ∃ component ∈ origin.componentIds copy.id, component ∉ handled) :
    (∀ component, component ∈ final.componentIds copy.id ↔
      component ∈ origin.componentIds copy.id ∧ component ∉ handled) ∧
    ∀ row ∈ origin.incidents.get? copy.id, ∃ later,
      final.incidents.get? copy.id = some later ∧
        later.status.getD .unset = row.status.getD .unset := by
  cases listed.progress with
  | closed single holds emptied =>
    rcases stays with ⟨component, linked, unhandled⟩
    exact absurd (emptied component linked) unhandled
  | kept distinct holds status =>
    constructor
    · intro component
      rw [listed.sync.linked, mem_wantedIds, holds]
      exact and_iff_left_of_imp fun held => Store.pos_of_mem_componentIds held.1
    · intro row found
      rcases listed.sync.stored with ⟨later, present, _⟩
      exact ⟨later, present, (listed.status later present).trans (status row found)⟩

/-- An incident all of whose components were handled is stored as closed. -/
theorem Listed.closed (listed : Listed origin handled new copy final)
    (nonempty : origin.componentIds copy.id ≠ [])
    (emptied : ∀ component ∈ origin.componentIds copy.id, component ∈ handled) :
    ∃ later, final.incidents.get? copy.id = some later ∧ later.status = some .resolved ∧
      later.endDate ≠ none := by
  cases listed.progress with
  | kept distinct holds status remains =>
    rcases List.exists_mem_of_ne_nil _ (fun empty => nonempty (remains empty)) with
      ⟨component, member⟩
    have held := (holds component.id).mp (List.mem_map_of_mem member)
    exact absurd (emptied _ held.1) held.2
  | closed single holds _ status ended =>
    rcases listed.sync.stored with ⟨later, present, _, _, ongoing⟩
    have shown := listed.status later present
    rw [status] at shown
    refine ⟨later, present, ?_, fun still => ended (ongoing still)⟩
    cases known : later.status with
    | none =>
      rw [known] at shown
      cases shown
    | some =>
      rw [known] at shown
      exact congrArg some shown

end Outcome

/-- Once all components were handled, they are distributed as required. -/
theorem Distributing.redistributes {time : Time} {origin final : Store}
    {requested handled : List Nat} {incOut : Incident} {closing : List Incident}
    (state : Distributing origin requested handled incOut closing final)
    (new : incOut.id = origin.incidents.nextId)
    (all : ∀ component, component ∈ handled ↔ component ∈ requested)
    (active : ∀ id, ActiveIncident time origin id ↔
      ∃ copy ∈ closing, copy.id = id ∧ copy.type = .incident) :
    Redistributes requested time origin final := by
  constructor
  case created =>
    rcases state.new.stored with ⟨row, found, type, _⟩
    exact ⟨row, new ▸ found, type.trans state.newType⟩
  case target =>
    intro component
    rw [← new, state.new.linked]
    exact state.target component
  case kept =>
    rintro id isActive ⟨component, linked, unwanted⟩
    rcases (active id).mp isActive with ⟨copy, member, rfl, type⟩
    rcases isActive with ⟨row, found, _⟩
    rcases (state.listed copy member type).kept
      ⟨component, linked, fun known => unwanted ((all component).mp known)⟩ with ⟨links, statuses⟩
    rcases statuses row found with ⟨later, present, same⟩
    refine ⟨?_, row, later, found, present, same⟩
    intro other
    rw [links, all]
  case closed =>
    intro id isActive nonempty emptied
    rcases (active id).mp isActive with ⟨copy, member, rfl, type⟩
    exact (state.listed copy member type).closed nonempty
      (fun component linked => (all component).mpr (emptied component linked))
  case others =>
    intro id different untouched
    refine state.others id (new ▸ different) ?_
    rintro copy member type rfl component known linked
    exact untouched ⟨(active copy.id).mpr ⟨copy, member, rfl, type⟩, component, linked,
      (all component).mp known⟩

/-! ## The theorem -/

theorem redistributes_of_created {reading : Clock} {deployment : Deployment}
    {caller : Caller} {data : IncidentData} {store final : Store} {response : Response}
    (regular : data.system ≠ some true) (type : data.type = .incident)
    (creation : Created reading deployment caller data store response final) :
    response = .created (entriesFor store.incidents.nextId data.components) false ∧
    ∃ time, (reading time store ∧ reading.lists time) ∧
      (OneActive time store → Redistributes data.components time store final) := by
  cases creation with
  | system flag => exact absurd flag regular
  | @regular prepared opened created choice middle final _ valid prepares listed commits moves =>
    have same : prepared = data := prepares.other (by rw [type]; decide)
    subst same
    rcases listed with ⟨time, clock, lists⟩
    refine ⟨rfl, time, clock, fun oneActive => ?_⟩
    have requested := regularIncident_componentIds prepared caller.userID
    have nonzero : ∀ id ∈ (regularIncident prepared caller.userID).componentIds, id ≠ 0 :=
      requested ▸ valid.nonzero
    have start := distributing_start oneActive lists type ⟨rfl, rfl⟩ nonzero rfl commits
    rw [requested] at start
    rcases created_row commits with ⟨newId, _, _, _, components, _⟩
    have ids : created.components.map Component.id = prepared.components := by
      rw [components]
      exact requested
    obtain ⟨handled, incOut, closing, ending, members, sameId, kinds⟩ :=
      start.relocates (relocates_of_moves _ valid type moves) (by
        intro component member
        have listed : component.id ∈ prepared.components := ids ▸ List.mem_map_of_mem member
        exact ⟨listed, valid.nonzero _ listed⟩)
    refine ending.redistributes (sameId.trans newId) ?_ ?_
    · intro component
      rw [members, ids]
      simp
    · intro id
      have copies : (∃ copy ∈ closing, copy.id = id ∧ copy.type = .incident) ↔
          ∃ copy ∈ opened, copy.id = id ∧ copy.type = .incident := by
        have kindOf_mem : ∀ list : List Incident, (∃ copy ∈ list, copy.id = id ∧
            copy.type = .incident) ↔ (id, EventType.incident) ∈ list.map kindOf := by
          intro list
          simp only [List.mem_map, kindOf, Prod.mk.injEq]
        rw [kindOf_mem, kindOf_mem, kinds]
      rw [copies]
      constructor
      · rintro ⟨row, found, incident, selected⟩
        exact ⟨storedCopy store (id, row),
          lists.complete id row found (activeParams_selects.mpr selected), rfl, incident⟩
      · rintro ⟨copy, member, rfl, incident⟩
        rcases lists.sound copy member with ⟨row, found, selected, shape⟩
        refine ⟨row, found, ?_, activeParams_selects.mp selected⟩
        rw [shape] at incident
        exact incident

/-- A regular creation of an incident that succeeds alone names the new incident for
every requested component.  If at the instant it lists the active events no
component is in two active incidents, it redistributes the components. -/
theorem create_redistributes {deployment : Deployment} {route : CreationRoute} {caller : Caller}
    {data : IncidentData} {store final : Store} {events : List DbEvent} {response : Response}
    (regular : data.system ≠ some true) (type : data.type = .incident)
    (run : Run database ((Activity.post route caller data).program deployment) store events
      (.ok response) final) :
    response = .created (entriesFor store.incidents.nextId data.components) false ∧
    ∃ time ∈ clockReadings events, time ∈ listingTimes events ∧
      (OneActive time store → Redistributes data.components time store final) := by
  have clock : ∀ event ∈ events, Ticks (clockOf events) event :=
    fun event member => ticks_clockOf member
  have creation := Solo.run (yields_created deployment route caller data store) run clock
  rcases redistributes_of_created regular type creation with
    ⟨answers, time, ⟨read, listed⟩, redistributes⟩
  exact ⟨answers, time, read, listed, redistributes⟩

/-- A system report moves the only component of the first incident into the second,
which has two, and so leaves the first one open and without components. -/
def emptied : Store :=
  (replay quietDeployment
    [(.post .events anAdmin (incidentReport true [1] 1), atTime 20),
      (.post .events anAdmin (incidentReport true [2, 3] 2), atTime 30),
      (.post .events anAdmin (incidentReport true [1] 2), atTime 40)] (bareStore 4)).2

/-- Links that share no component leave each one in at most one active incident. -/
theorem oneActive_of_links {store : Store} (time : Time)
    (apart : ∀ first ∈ store.relation.pairs, ∀ second ∈ store.relation.pairs,
      first.2 = second.2 → first.1 = second.1) : OneActive time store := by
  intro component first second _ _ one two
  exact apart (first, component) (JoinTable.mem_right.mp one) (second, component)
    (JoinTable.mem_right.mp two) rfl

theorem activeIncident_of_open {store : Store} {id : Nat} (time : Time)
    (still : Ongoing store id) : ActiveIncident time store id := by
  rcases still with ⟨row, found, type, ongoing⟩
  exact ⟨row, found, type, open_active ongoing⟩

/-- A regular creation does not close an active incident without components. -/
theorem create_redistributes_fails :
    ¬ ∀ (deployment : Deployment) (route : CreationRoute) (caller : Caller) (data : IncidentData)
        (store final : Store) (events : List DbEvent) (response : Response),
      data.system ≠ some true → data.type = .incident →
      Run database ((Activity.post route caller data).program deployment) store events
        (.ok response) final →
      ∃ time ∈ clockReadings events, OneActive time store → ∀ id, ActiveIncident time store id →
        (∀ component ∈ store.componentIds id, component ∈ data.components) →
        ¬ Ongoing final id := by
  intro claimed
  have run := Program.evaluate_run database (atTime 50)
    ((Activity.post .events anAdmin (incidentReport false [4] 1)).program quietDeployment) emptied
  have answered : (((Activity.post .events anAdmin (incidentReport false [4] 1)).program
      quietDeployment).evaluate database (atTime 50) emptied).1 =
      .ok (.created (entriesFor 3 [4]) false) := by decide +kernel
  rw [answered] at run
  rcases claimed _ _ _ _ _ _ _ _ (by decide) rfl run with ⟨time, _, closes⟩
  have bare : emptied.componentIds 1 = [] := by decide +kernel
  refine closes (oneActive_of_links time (by decide +kernel)) 1
    (activeIncident_of_open time (by decide +kernel)) ?_ (by decide +kernel)
  rw [bare]
  exact nofun

/-- Of the two components of an incident one is reported again. -/
theorem create_redistributes_pair :
    ∃ time, Redistributes [2] time pairReported
      (((Activity.post .events anAdmin (incidentReport false [2] 1)).program
        quietDeployment).evaluate database (atTime 30) pairReported).2 := by
  have run := Program.evaluate_run database (atTime 30)
    ((Activity.post .events anAdmin (incidentReport false [2] 1)).program quietDeployment)
    pairReported
  have answered : (((Activity.post .events anAdmin (incidentReport false [2] 1)).program
      quietDeployment).evaluate database (atTime 30) pairReported).1 =
      .ok (.created (entriesFor 2 [2]) false) := by decide +kernel
  rw [answered] at run
  rcases (create_redistributes (by decide) rfl run).2 with ⟨time, _, _, redistributes⟩
  exact ⟨time, redistributes (oneActive_of_links time (by decide +kernel))⟩

end StatusDashboard.Properties
