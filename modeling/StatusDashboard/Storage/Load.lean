import StatusDashboard.Storage.Discipline

namespace StatusDashboard.Storage

open Event Tables Process

/-!
# Loaded copies

A copy is assembled from three readings, so in general its row, its components
and its history belong to three stores, each reached from the one before.
`Reading` records this.  When nobody interferes the three coincide and the copy
is the event as it is stored.
-/

/-! ## Loaded histories -/

variable {rank : Nat → Nat} {store : Store} {ids : List Nat} {id : Nat}
variable {rows : List (Nat × IncidentRow)}

/-- The history of an event as a copy carries it. -/
def loadedHistory (store : Store) (id : Nat) : List IncidentStatus :=
  (store.history id).map (fun entry => incidentStatusFromEnt entry.1 entry.2)

/-- The event as it is stored, as a copy. -/
def storedCopy (store : Store) (entry : Nat × IncidentRow) : Incident :=
  incidentFromEnt entry.1 entry.2 (linkedComponents store entry.1) (loadedHistory store entry.1)

theorem chunked_flatten {size : Nat} (positive : 0 < size) (ids : List Nat) {fuel : Nat}
    (enough : ids.length ≤ fuel) : (chunked size fuel ids).flatten = ids := by
  induction fuel generalizing ids with
  | zero =>
    have none : ids = [] := List.eq_nil_of_length_eq_zero (Nat.le_zero.mp enough)
    subst none
    rfl
  | succ fuel ih =>
    cases ids with
    | nil => rfl
    | cons id ids =>
      have shorter : ((id :: ids).drop size).length ≤ fuel := by
        rw [List.length_drop]
        have bound : (id :: ids).length ≤ fuel + 1 := enough
        omega
      have unfolded : chunked size (fuel + 1) (id :: ids) =
          (id :: ids).take size :: chunked size fuel ((id :: ids).drop size) := rfl
      rw [unfolded, List.flatten_cons, ih _ shorter, List.take_append_drop]

theorem statusesOf_append (id : Nat) (first second : List (Nat × StatusRow)) :
    statusesOf id (first ++ second) = statusesOf id first ++ statusesOf id second := by
  simp [statusesOf]

/-- One piece of the history query gives the full history of each id it names. -/
theorem statusesOf_read {rows : List (Nat × StatusRow)}
    (answer : (Query.statuses ids).eval rank store = .ok rows) (id : Nat) :
    statusesOf id rows = if id ∈ ids then loadedHistory store id else [] := by
  cases answer
  unfold statusesOf loadedHistory Store.history
  rw [List.filter_filter]
  split_ifs with listed
  · congr 1
    apply List.filter_congr
    intro entry _
    by_cases same : entry.2.incidentId = id
    · simp [same, listed]
    · simp [same]
  · rw [List.filter_eq_nil_iff.mpr]
    · rfl
    · intro entry _
      by_cases same : entry.2.incidentId = id
      · simp [same, listed]
      · simp [same]

/-- What an eager load returns for one of distinct ids. -/
theorem filterMap_pairs {β : Type} (distinct : ids.Nodup) (listed : id ∈ ids)
    (linked : Nat → List β) :
    (ids.flatMap (fun other => (linked other).map (fun item => (other, item)))).filterMap
      (fun entry => if entry.1 = id then some entry.2 else none) = linked id := by
  have others : ∀ other, ((linked other).map (fun item => (other, item))).filterMap
      (fun entry => if entry.1 = id then some entry.2 else none) =
      if other = id then linked other else [] := by
    intro other
    rw [List.filterMap_map]
    split_ifs with same
    · simp [same]
    · simp [same]
  rw [List.filterMap_flatMap]
  simp only [others]
  induction ids with
  | nil => exact absurd listed List.not_mem_nil
  | cons first rest ih =>
    rw [List.flatMap_cons]
    rw [List.nodup_cons] at distinct
    rcases List.mem_cons.mp listed with same | later
    · subst same
      have empty : rest.flatMap (fun other => if other = id then linked other else []) = [] := by
        rw [List.flatMap_eq_nil_iff]
        intro other otherMember
        rw [if_neg]
        rintro rfl
        exact distinct.1 otherMember
      rw [empty]
      simp
    · rw [if_neg, List.nil_append]
      · exact ih distinct.2 later
      · rintro rfl
        exact distinct.1 later

theorem componentsOf_read {loaded : List (Nat × Component)}
    (answer : (Query.components ids).eval rank store = .ok loaded) (listed : id ∈ ids) :
    componentsOf id loaded = linkedComponents store id := by
  cases answer
  exact filterMap_pairs (List.nodup_dedup ids) (List.mem_dedup.mpr listed) (linkedComponents store)

theorem incidentsOf_read {loaded : List (Nat × Nat × IncidentRow)}
    (answer : (Query.incidentsOfComponents ids).eval rank store = .ok loaded) (distinct : ids.Nodup)
    (listed : id ∈ ids) :
    incidentsOf id loaded = linkedIncidents rank store id := by
  cases answer
  exact filterMap_pairs distinct listed (linkedIncidents rank store)

/-! ## Selected rows -/

theorem selectRows_ids_nodup (store : Store) (conditions : Nat → IncidentRow → List Truth) :
    ((selectRows store conditions).map Prod.fst).Nodup :=
  store.incidents.rows_ids_nodup.sublist (List.filter_sublist.map Prod.fst)

/-- The event query lists stored rows that meet its conditions, each once. -/
theorem events_eval {params : IncidentsParams} {isAuth : Bool} {time : Time}
    (answer : (Query.events params isAuth time).eval rank store = .ok rows) :
    (rows.map Prod.fst).Nodup ∧ ∀ entry ∈ rows,
      store.incidents.get? entry.1 = some entry.2 ∧
        (applyEventsFilters params isAuth time store entry.1 entry.2).all Truth.selects = true := by
  have shown := mem_paginate answer
  have sorted := List.perm_insertionSort (startsBefore rank)
    (selectRows store (applyEventsFilters params isAuth time store))
  constructor
  · have distinct := (sorted.map Prod.fst).nodup_iff.mpr (selectRows_ids_nodup store _)
    exact distinct.sublist (shown.map Prod.fst)
  · intro entry member
    exact mem_selectRows.mp (sorted.mem_iff.mp (shown.subset member))

theorem eventsByComponent_eval {componentID : Nat} {params : IncidentsParams} {time : Time}
    (answer : (Query.eventsByComponent componentID params time).eval rank store = .ok rows) :
    (rows.map Prod.fst).Nodup ∧ ∀ entry ∈ rows,
      store.incidents.get? entry.1 = some entry.2 ∧
        (componentEventConditions componentID params time store entry.1 entry.2).all
          Truth.selects = true := by
  have distinct := selectRows_ids_nodup store (componentEventConditions componentID params time store)
  simp only [Query.eval] at answer
  split_ifs at answer
  · cases answer
    exact ⟨distinct, fun entry member => mem_selectRows.mp member⟩
  · cases answer
    constructor
    · rw [List.map_take, List.map_reverse]
      exact (List.nodup_reverse.mpr distinct).sublist (List.take_sublist _ _)
    · intro entry member
      exact mem_selectRows.mp (List.mem_reverse.mp (List.mem_of_mem_take member))

theorem eventsByType_eval {type : EventType} {descending : Bool}
    (answer : (Query.eventsByType type descending).eval rank store = .ok rows) :
    (rows.map Prod.fst).Nodup ∧ ∀ entry ∈ rows,
      store.incidents.get? entry.1 = some entry.2 ∧ entry.2.type = type := by
  have distinct : ((store.incidents.rows.filter (fun entry => entry.2.type = type)).map
      Prod.fst).Nodup := store.incidents.rows_ids_nodup.sublist (List.filter_sublist.map Prod.fst)
  cases answer
  split_ifs
  · rw [List.map_reverse]
    refine ⟨List.nodup_reverse.mpr distinct, ?_⟩
    intro entry member
    rw [List.mem_reverse, List.mem_filter, SerialTable.mem_rows] at member
    exact ⟨member.1, by simpa using member.2⟩
  · refine ⟨distinct, ?_⟩
    intro entry member
    rw [List.mem_filter, SerialTable.mem_rows] at member
    exact ⟨member.1, by simpa using member.2⟩

theorem incident_eval {row : IncidentRow} (answer : (Query.incident id).eval rank store = .ok row) :
    store.incidents.get? id = some row := by
  simp only [Query.eval] at answer
  split at answer
  · rename_i found present
    cases answer
    exact present
  · cases answer

theorem component_eval {component : Component}
    (answer : (Query.component id).eval rank store = .ok component) : component.id = id := by
  simp only [Query.eval] at answer
  split at answer
  · cases answer
    rfl
  · cases answer

/-! ## Readings -/

/-- A copy that holds each of its components once, and no missing one. -/
def ListsOnce (incident : Incident) : Prop :=
  incident.componentIds.Nodup ∧ ∀ id ∈ incident.componentIds, id ≠ 0

/-- A copy whose row was read in `first`; its components, as `load` gives them,
and its history were read after that and before `later`. -/
structure Reading (rely : Store → Store → Prop) (load : Store → Nat → List Component)
    (copy : Incident) (row : IncidentRow) (first later : Store) : Prop where
  found : first.incidents.get? copy.id = some row
  assembled : ∃ second third, rely first second ∧ rely second third ∧ rely third later ∧
    copy = incidentFromEnt copy.id row (load second copy.id) (loadedHistory third copy.id)

/-- A reading without the components. -/
def noComponents (_ : Store) (_ : Nat) : List Component := []

namespace Reading

variable {rely : Store → Store → Prop} {load : Store → Nat → List Component}
variable {copy : Incident} {row : IncidentRow} {first later : Store}

theorem type_eq (reading : Reading rely load copy row first later) : copy.type = row.type := by
  rcases reading.assembled with ⟨_, _, _, _, _, equal⟩
  rw [equal]
  rfl

theorem impact_eq (reading : Reading rely load copy row first later) :
    copy.impact = some row.impact := by
  rcases reading.assembled with ⟨_, _, _, _, _, equal⟩
  rw [equal]
  rfl

theorem endDate_eq (reading : Reading rely load copy row first later) :
    copy.endDate = optTimePtr row.endDate := by
  rcases reading.assembled with ⟨_, _, _, _, _, equal⟩
  rw [equal]
  rfl

theorem startDate_eq (reading : Reading rely load copy row first later) :
    copy.startDate = some row.startDate := by
  rcases reading.assembled with ⟨_, _, _, _, _, equal⟩
  rw [equal]
  rfl

theorem status_eq (reading : Reading rely load copy row first later) :
    copy.status = row.status.getD .unset := by
  rcases reading.assembled with ⟨_, _, _, _, _, equal⟩
  rw [equal]
  rfl

theorem reaches [IsPreorder Store rely] (reading : Reading rely load copy row first later) :
    rely first later := by
  rcases reading.assembled with ⟨_, _, one, two, three, _⟩
  exact trans_of rely one (trans_of rely two three)

theorem extend [IsPreorder Store rely] {further : Store}
    (reading : Reading rely load copy row first later) (onward : rely later further) :
    Reading rely load copy row first further := by
  rcases reading.assembled with ⟨second, third, one, two, three, equal⟩
  exact ⟨reading.found, second, third, one, two, trans_of rely three onward, equal⟩

/-- Undisturbed, the copy is the event as stored. -/
theorem alone (reading : Reading Eq load copy row first later) :
    first = later ∧ later.incidents.get? copy.id = some row ∧
      copy = incidentFromEnt copy.id row (load later copy.id) (loadedHistory later copy.id) := by
  rcases reading.assembled with ⟨second, third, rfl, rfl, rfl, equal⟩
  exact ⟨rfl, reading.found, equal⟩

theorem listsOnce (reading : Reading rely linkedComponents copy row first later) :
    ListsOnce copy := by
  rcases reading.assembled with ⟨second, third, _, _, _, equal⟩
  have ids : copy.componentIds = second.componentIds copy.id := by
    rw [← linkedComponents_ids]
    exact congrArg Incident.componentIds equal
  unfold ListsOnce
  rw [ids]
  exact ⟨JoinTable.right_nodup _ _, fun id linked => Store.pos_of_mem_componentIds linked⟩

end Reading

/-- The conditions of the event list at some time. -/
def eventsCondition (params : IncidentsParams) (isAuth : Bool) (store : Store) (id : Nat)
    (row : IncidentRow) : Prop :=
  ∃ time, (applyEventsFilters params isAuth time store id row).all Truth.selects = true

/-- The conditions of the events of a component at some time. -/
def componentCondition (componentID : Nat) (params : IncidentsParams) (store : Store) (id : Nat)
    (row : IncidentRow) : Prop :=
  ∃ time, (componentEventConditions componentID params time store id row).all Truth.selects = true

/-! ## Loading programs -/

namespace Discipline

variable {discipline : Discipline}

local instance : IsPreorder Store discipline.rely := discipline.preorder

variable {load : Store → Nat → List Component} {first later : Store}

theorem yields_loadStatuses (discipline : Discipline) (chunks : List (List Nat)) (distinct : chunks.flatten.Nodup)
    (store : Store) :
    discipline.Yields (fun rows later => discipline.rely store later ∧ ∀ id,
        (id ∈ chunks.flatten → ∃ seen, discipline.rely store seen ∧ discipline.rely seen later ∧
          statusesOf id rows = loadedHistory seen id) ∧
        (id ∉ chunks.flatten → statusesOf id rows = []))
      (loadStatuses chunks) store := by
  induction chunks generalizing store with
  | nil =>
    apply Regime.yields_pure
    intro later related _
    refine ⟨related, ?_⟩
    intro id
    exact ⟨nofun, fun _ => rfl⟩
  | cons chunk chunks ih =>
    rw [List.flatten_cons, List.nodup_append] at distinct
    rcases distinct with ⟨_, restDistinct, apart⟩
    apply (discipline.yields_read (.statuses chunk) store).bind
    intro rows middle _ answered
    rcases answered with ⟨seen, related, _, ⟨choice, _, answer⟩, onward⟩
    have start := trans_of _ related onward
    apply (ih restDistinct middle).bind
    intro others last _ loaded
    rcases loaded with ⟨rest, loaded⟩
    apply Regime.yields_pure
    intro later further _
    have ending := trans_of _ rest further
    refine ⟨trans_of _ start ending, ?_⟩
    intro id
    rw [statusesOf_append, statusesOf_read answer id, List.flatten_cons, List.mem_append]
    rcases loaded id with ⟨listed, unlisted⟩
    constructor
    · rintro (here | there)
      · have notThere : id ∉ chunks.flatten := fun there => apart id here id there rfl
        rw [if_pos here, unlisted notThere, List.append_nil]
        exact ⟨seen, related, trans_of _ onward ending, rfl⟩
      · have notHere : id ∉ chunk := fun here => apart id here id there rfl
        rw [if_neg notHere, List.nil_append]
        rcases listed there with ⟨found, reached, stays, equal⟩
        exact ⟨found, trans_of _ start reached,
          trans_of _ stays further, equal⟩
    · intro missing
      rw [if_neg (fun here => missing (Or.inl here)), List.nil_append]
      exact unlisted (fun there => missing (Or.inr there))

theorem yields_statusesByIncident (discipline : Discipline) (distinct : ids.Nodup) (store : Store) :
    discipline.Yields (fun rows later => discipline.rely store later ∧
      ∀ id ∈ ids, ∃ seen, discipline.rely store seen ∧ discipline.rely seen later ∧
        statusesOf id rows = loadedHistory seen id)
      (statusesByIncident ids) store := by
  have whole : (chunked incidentStatusChunkSize ids.length ids).flatten = ids :=
    chunked_flatten (by decide) ids (Nat.le_refl _)
  apply (discipline.yields_loadStatuses _ (whole.symm ▸ distinct) store).mono
  intro rows later _ held
  refine ⟨held.1, ?_⟩
  intro id listed
  exact (held.2 id).1 (whole.symm ▸ listed)

theorem yields_loadComponents (discipline : Discipline) (ids : List Nat) (store : Store) :
    discipline.Yields (fun loaded later => ∃ seen, discipline.rely store seen ∧
      discipline.rely seen later ∧ ∀ id ∈ ids, componentsOf id loaded = linkedComponents seen id)
      (loadComponents ids) store := by
  unfold loadComponents
  split_ifs with none
  · apply Regime.yields_pure
    intro later related _
    refine ⟨store, refl_of discipline.rely store, related, ?_⟩
    intro id listed
    rw [none] at listed
    exact absurd listed List.not_mem_nil
  · apply (discipline.yields_read (.components ids) store).mono
    intro loaded later _ answered
    rcases answered with ⟨seen, related, _, ⟨choice, _, answer⟩, onward⟩
    exact ⟨seen, related, onward, fun id listed => componentsOf_read answer listed⟩

/-- The copies of rows read in `first`, in the order of the rows. -/
def Assembled (discipline : Discipline) (load : Store → Nat → List Component)
    (first later : Store) (rows : List (Nat × IncidentRow)) (copies : List Incident) : Prop :=
  discipline.rely first later ∧ copies.map Incident.id = rows.map Prod.fst ∧
    ∀ copy ∈ copies, ∃ row, (copy.id, row) ∈ rows ∧
      Reading discipline.rely load copy row first later

theorem Assembled.extend {further : Store} {copies : List Incident}
    (assembled : discipline.Assembled load first later rows copies)
    (onward : discipline.rely later further) :
    discipline.Assembled load first further rows copies := by
  refine ⟨trans_of _ assembled.1 onward, assembled.2.1, ?_⟩
  intro copy member
  rcases assembled.2.2 copy member with ⟨row, listed, reading⟩
  exact ⟨row, listed, reading.extend onward⟩

private theorem assembled_attach {components : List (Nat × Component)}
    {statuses : List (Nat × StatusRow)} (onward : discipline.rely first later)
    (stored : ∀ entry ∈ rows, first.incidents.get? entry.1 = some entry.2)
    (loaded : ∀ entry ∈ rows, ∃ second third, discipline.rely first second ∧
      discipline.rely second third ∧ discipline.rely third later ∧
      componentsOf entry.1 components = load second entry.1 ∧
      statusesOf entry.1 statuses = loadedHistory third entry.1) :
    discipline.Assembled load first later rows (attach rows components statuses) := by
  refine ⟨onward, ?_, ?_⟩
  · unfold attach
    rw [List.map_map]
    rfl
  · intro copy member
    rcases List.mem_map.mp member with ⟨entry, listed, rfl⟩
    rcases loaded entry listed with ⟨second, third, one, two, three, sameComponents, sameStatuses⟩
    refine ⟨entry.2, listed, stored entry listed, second, third, one, two, three, ?_⟩
    rw [sameComponents, sameStatuses]
    rfl

theorem yields_loadEvents (discipline : Discipline) (distinct : (rows.map Prod.fst).Nodup)
    (stored : ∀ entry ∈ rows, first.incidents.get? entry.1 = some entry.2)
    (onward : discipline.rely first store) :
    discipline.Yields
      (fun copies later => discipline.Assembled linkedComponents first later rows copies)
      (loadEvents rows) store := by
  apply (discipline.yields_loadComponents (rows.map Prod.fst) store).bind
  intro components middle _ loaded
  rcases loaded with ⟨seen, reached, leaves, sameComponents⟩
  apply (discipline.yields_statusesByIncident distinct middle).bind
  intro statuses last _ histories
  apply Regime.yields_pure
  intro later further _
  have reading := trans_of _ onward (trans_of _ reached leaves)
  apply assembled_attach (trans_of _ reading
    (trans_of _ histories.1 further)) stored
  intro entry listed
  have member : entry.1 ∈ rows.map Prod.fst := List.mem_map_of_mem listed
  rcases histories.2 entry.1 member with ⟨third, before, after, sameStatuses⟩
  exact ⟨seen, third, trans_of _ onward reached,
    trans_of _ leaves before, trans_of _ after further,
    sameComponents entry.1 member, sameStatuses⟩

theorem yields_filterTime (discipline : Discipline) (params : IncidentsParams) (store : Store) :
    discipline.Yields (fun _ later => discipline.rely store later) (filterTime params) store := by
  unfold filterTime
  split_ifs
  · exact discipline.yields_currentTime store
  · apply Regime.yields_pure
    intro later related _
    exact related

/-- Copies of different events, read from rows of one store that meet a condition. -/
def Listed (discipline : Discipline) (load : Store → Nat → List Component)
    (condition : Store → Nat → IncidentRow → Prop) (copies : List Incident)
    (store later : Store) : Prop :=
  ∃ first, discipline.rely store first ∧ discipline.always first ∧
    discipline.rely first later ∧ (copies.map Incident.id).Nodup ∧
    ∀ copy ∈ copies, ∃ row, condition first copy.id row ∧
      Reading discipline.rely load copy row first later

theorem Assembled.listed {condition : Store → Nat → IncidentRow → Prop} {copies : List Incident}
    (assembled : discipline.Assembled load first later rows copies)
    (reached : discipline.rely store first) (kept : discipline.always first)
    (distinct : (rows.map Prod.fst).Nodup) (meets : ∀ entry ∈ rows, condition first entry.1 entry.2) :
    discipline.Listed load condition copies store later := by
  refine ⟨first, reached, kept, assembled.1, assembled.2.1 ▸ distinct, ?_⟩
  intro copy member
  rcases assembled.2.2 copy member with ⟨row, listed, reading⟩
  exact ⟨row, meets _ listed, reading⟩

theorem yields_getEventsWithCount (discipline : Discipline) (isAuth : Bool) (params : IncidentsParams) (store : Store) :
    discipline.Yields
      (fun result later => discipline.Listed linkedComponents (eventsCondition params isAuth)
        result.1 store later)
      (getEventsWithCount isAuth params) store := by
  unfold getEventsWithCount
  split_ifs with inactive
  · exact Regime.yields_fail _
  · apply (discipline.yields_filterTime params store).bind
    intro time timed _ reached
    apply (discipline.yields_read (.countEvents params isAuth time) timed).bind
    intro total counted _ answered
    rcases answered with ⟨_, countReached, _, _, countOnward⟩
    apply (discipline.yields_read (.events params isAuth time) counted).bind
    intro rows read _ answered
    rcases answered with ⟨first, rowsReached, kept, ⟨choice, _, answer⟩, onward⟩
    rcases events_eval answer with ⟨distinct, stored⟩
    apply (discipline.yields_loadEvents distinct (fun entry member => (stored entry member).1) onward).bind
    intro copies last _ assembled
    apply Regime.yields_pure
    intro later further _
    have start := trans_of _ reached
      (trans_of _ countReached (trans_of _ countOnward rowsReached))
    apply (assembled.extend further).listed start kept distinct
    intro entry member
    exact ⟨time, (stored entry member).2⟩

theorem yields_getEventsInternal (discipline : Discipline) (params : IncidentsParams) (store : Store) :
    discipline.Yields
      (fun copies later => discipline.Listed linkedComponents
        (eventsCondition params authorizedAccess) copies store later)
      (getEventsInternal params) store := by
  apply (discipline.yields_getEventsWithCount authorizedAccess params store).bind
  intro result middle _ listed
  apply Regime.yields_pure
  intro later onward _
  rcases listed with ⟨first, reached, kept, passed, distinct, readings⟩
  refine ⟨first, reached, kept, trans_of _ passed onward, distinct, ?_⟩
  intro copy member
  rcases readings copy member with ⟨row, meets, reading⟩
  exact ⟨row, meets, reading.extend onward⟩

theorem yields_getEventsByComponentID (discipline : Discipline) (componentID : Nat) (params : IncidentsParams)
    (store : Store) :
    discipline.Yields
      (fun copies later => discipline.Listed linkedComponents
        (componentCondition componentID params) copies store later)
      (getEventsByComponentID componentID params) store := by
  apply (discipline.yields_filterTime params store).bind
  intro time timed _ reached
  apply (discipline.yields_read (.eventsByComponent componentID params time) timed).bind
  intro rows read _ answered
  rcases answered with ⟨first, rowsReached, kept, ⟨choice, _, answer⟩, onward⟩
  rcases eventsByComponent_eval answer with ⟨distinct, stored⟩
  apply (discipline.yields_loadEvents distinct (fun entry member => (stored entry member).1) onward).mono
  intro copies later _ assembled
  apply assembled.listed (trans_of _ reached rowsReached) kept distinct
  intro entry member
  exact ⟨time, (stored entry member).2⟩

/-- All events of a type, with the read statement that found them. -/
theorem yields_getEventsByType (discipline : Discipline) (type : EventType) (descending : Bool) (store : Store) :
    discipline.Yields
      (fun copies later => discipline.Listed noComponents
        (fun first _ row => row.type = type ∧ ∃ choice, discipline.assume
          (database.event choice (.read (.eventsByType type descending)) first))
        copies store later)
      (getEventsByType type descending) store := by
  apply (discipline.yields_read (.eventsByType type descending) store).bind
  intro rows read _ answered
  rcases answered with ⟨first, reached, kept, ⟨choice, assumed, answer⟩, onward⟩
  rcases eventsByType_eval answer with ⟨distinct, stored⟩
  apply (discipline.yields_statusesByIncident distinct read).bind
  intro statuses last _ histories
  apply Regime.yields_pure
  intro later further _
  have assembled : discipline.Assembled noComponents first later rows (attach rows [] statuses) := by
    apply assembled_attach _ (fun entry member => (stored entry member).1)
    · intro entry listed
      rcases histories.2 entry.1 (List.mem_map_of_mem listed) with ⟨third, before, after, same⟩
      exact ⟨first, third, refl_of discipline.rely first, trans_of _ onward before,
        trans_of _ after further, rfl, same⟩
    · exact trans_of _ onward (trans_of _ histories.1 further)
  apply assembled.listed reached kept distinct
  intro entry member
  exact ⟨(stored entry member).2, choice, assumed⟩

/-- One event, with the read statement that found its row. -/
def Fetched (discipline : Discipline) (id : Nat) (copy : Incident) (row : IncidentRow)
    (store first later : Store) : Prop :=
  copy.id = id ∧ discipline.rely store first ∧ discipline.always first ∧
    (∃ choice, discipline.assume (database.event choice (.read (.incident id)) first)) ∧
    Reading discipline.rely linkedComponents copy row first later

theorem yields_getIncident (discipline : Discipline) (id : Nat) (store : Store) :
    discipline.Yields
      (fun copy later => ∃ row first, discipline.Fetched id copy row store first later)
      (getIncident id) store := by
  apply (discipline.yields_read (.incident id) store).bind
  intro row read _ answered
  rcases answered with ⟨first, reached, kept, ⟨choice, assumed, answer⟩, onward⟩
  apply (discipline.yields_loadComponents [id] read).bind
  intro components middle _ loaded
  rcases loaded with ⟨seen, seenReached, leaves, sameComponents⟩
  apply (discipline.yields_statusesByIncident (List.nodup_singleton id) middle).bind
  intro statuses last _ histories
  apply Regime.yields_pure
  intro later further _
  rcases histories.2 id (List.mem_singleton.mpr rfl) with ⟨third, before, after, sameStatuses⟩
  refine ⟨row, first, rfl, reached, kept, ⟨choice, assumed⟩, incident_eval answer, seen, third,
    trans_of _ onward seenReached, trans_of _ leaves before,
    trans_of _ after further, ?_⟩
  rw [sameComponents id (List.mem_singleton.mpr rfl), sameStatuses]
  rfl

end Discipline

theorem chunked_of_short {size : Nat} (nonempty : ids ≠ []) (short : ids.length ≤ size) :
    chunked size ids.length ids = [ids] := by
  cases ids with
  | nil => exact absurd rfl nonempty
  | cons id others =>
    have unfolded : chunked size (id :: others).length (id :: others) =
        (id :: others).take size :: chunked size others.length ((id :: others).drop size) := rfl
    rw [unfolded, List.take_of_length_le short, List.drop_eq_nil_of_le short]
    cases others.length <;> rfl

/-! ## Undisturbed loading -/

/-- The update rows that the statements for the chunks return together. -/
def chunkRows (store : Store) (chunks : List (List Nat)) : List (Nat × StatusRow) :=
  chunks.flatMap (fun chunk => store.statuses.rows.filter (fun entry => entry.2.incidentId ∈ chunk))

section Evaluate

variable {choice : Choice} (faultless : choice.fault = false)
include faultless

theorem evaluate_read {β : Type} (query : Query β) (store : Store) :
    (read query).evaluate database choice store = (query.eval choice.rank store, store) := by
  unfold read Program.callExcept
  rw [Program.evaluate, perform_read, if_neg (by simp [faultless])]
  cases query.eval choice.rank store <;> rfl

omit faultless in
theorem evaluate_write {β : Type} (statement : EventWrite β) (store : Store) :
    (write statement).evaluate database choice store =
      commit choice (statement.exec choice) store := by
  unfold write Program.callExcept
  rw [Program.evaluate, perform_write]
  rcases commit choice (statement.exec choice) store with ⟨outcome, final⟩
  cases outcome <;> rfl

theorem evaluate_getEventUpdates (id : Nat) (store : Store) :
    (getEventUpdates id).evaluate database choice store = (.ok (loadedHistory store id), store) := by
  have history : (Query.statuses [id]).eval choice.rank store =
      .ok (store.statuses.rows.filter (fun entry => entry.2.incidentId ∈ [id])) := rfl
  unfold getEventUpdates
  rw [Program.evaluate_bind, evaluate_read faultless]
  change (Except.ok (statusesOf id _), store) = _
  rw [statusesOf_read history, if_pos (List.mem_singleton.mpr rfl)]

theorem evaluate_getIncident {row : IncidentRow} (found : store.incidents.get? id = some row) :
    (getIncident id).evaluate database choice store = (.ok (storedCopy store (id, row)), store) := by
  have answer : (Query.incident id).eval choice.rank store = .ok row := by
    simp only [Query.eval, found]
  have statuses : statusesByIncident [id] = loadStatuses [[id]] := rfl
  have history : (Query.statuses [id]).eval choice.rank store =
      .ok (store.statuses.rows.filter (fun entry => entry.2.incidentId ∈ [id])) := rfl
  have linked : (Query.components [id]).eval choice.rank store =
      .ok ([id].dedup.flatMap (fun id => (linkedComponents store id).map
        (fun component => (id, component)))) := rfl
  unfold getIncident loadComponents
  rw [Program.evaluate_bind, evaluate_read faultless, answer]
  simp only [List.cons_ne_nil, if_false]
  rw [Program.evaluate_bind, evaluate_read faultless]
  simp only [Query.eval]
  rw [Program.evaluate_bind, statuses]
  unfold loadStatuses
  rw [Program.evaluate_bind, evaluate_read faultless]
  simp only [Query.eval]
  change (Except.ok (incidentFromEnt id row (componentsOf id _) (statusesOf id (_ ++ []))), store) = _
  rw [List.append_nil, componentsOf_read linked (List.mem_singleton.mpr rfl),
    statusesOf_read history, if_pos (List.mem_singleton.mpr rfl)]
  rfl

theorem evaluate_loadStatuses (chunks : List (List Nat)) (store : Store) :
    (loadStatuses chunks).evaluate database choice store =
      (.ok (chunkRows store chunks), store) := by
  induction chunks with
  | nil => rfl
  | cons chunk chunks ih =>
    unfold loadStatuses
    rw [Program.evaluate_bind, evaluate_read faultless]
    simp only [Query.eval]
    rw [Program.evaluate_bind, ih]
    rfl

/-- Loading what belongs to selected rows does not fail by itself. -/
theorem evaluate_loadEvents (rows : List (Nat × IncidentRow)) (store : Store) :
    ∃ components statuses, (loadEvents rows).evaluate database choice store =
      (.ok (attach rows components statuses), store) := by
  have loaded : ∃ components, (loadComponents (rows.map Prod.fst)).evaluate database choice store =
      (.ok components, store) := by
    unfold loadComponents
    split_ifs
    · exact ⟨[], rfl⟩
    · rw [evaluate_read faultless]
      exact ⟨_, rfl⟩
  rcases loaded with ⟨components, found⟩
  have history := evaluate_loadStatuses faultless
    (chunked incidentStatusChunkSize (rows.map Prod.fst).length (rows.map Prod.fst)) store
  refine ⟨components, chunkRows store
    (chunked incidentStatusChunkSize (rows.map Prod.fst).length (rows.map Prod.fst)), ?_⟩
  unfold loadEvents statusesByIncident
  rw [Program.evaluate_bind, found]
  dsimp only
  rw [Program.evaluate_bind, history]
  rfl

theorem evaluate_statusesByIncident (nonempty : ids ≠ [])
    (short : ids.length ≤ incidentStatusChunkSize) (store : Store) :
    (statusesByIncident ids).evaluate database choice store =
      (.ok (store.statuses.rows.filter (fun entry => entry.2.incidentId ∈ ids)), store) := by
  unfold statusesByIncident
  rw [chunked_of_short nonempty short]
  unfold loadStatuses
  rw [Program.evaluate_bind, evaluate_read faultless]
  change (Except.ok (store.statuses.rows.filter _ ++ []), store) = _
  rw [List.append_nil]

/-- The rows of listed ids with what is linked to them. -/
theorem evaluate_loadIncidentRows
    (read : store.incidents.rows.filter (fun entry => entry.1 ∈ ids) = rows)
    (nonempty : rows.map Prod.fst ≠ []) :
    ∃ components, (loadIncidentRows [ids]).evaluate database choice store =
        (.ok (rows, components), store) ∧
      ∀ id ∈ rows.map Prod.fst, componentsOf id components = linkedComponents store id := by
  have linked : (Query.components (rows.map Prod.fst)).eval choice.rank store =
      .ok ((rows.map Prod.fst).dedup.flatMap (fun id => (linkedComponents store id).map
        (fun component => (id, component)))) := rfl
  refine ⟨_, ?_, fun id member => componentsOf_read linked member⟩
  unfold loadIncidentRows loadComponents
  rw [Program.evaluate_bind, evaluate_read faultless]
  simp only [Query.eval]
  rw [read, if_neg nonempty, Program.evaluate_bind, evaluate_read faultless, linked]
  change (Except.ok (rows ++ [], _ ++ []), store) = _
  rw [List.append_nil, List.append_nil]

/-- Listed ids that fit one statement are loaded as they are stored. -/
theorem evaluate_incidentsByIDs (nonempty : ids ≠ []) (short : ids.length ≤ incidentIDChunkSize)
    (stored : ∀ id ∈ ids, ∃ row, store.incidents.get? id = some row) :
    ∃ copies, (incidentsByIDs ids).evaluate database choice store = (.ok copies, store) ∧
      copies.map Incident.id = ids ∧ ∀ copy ∈ copies, ∃ row,
        store.incidents.get? copy.id = some row ∧ copy = storedCopy store (copy.id, row) := by
  have history : (Query.statuses ids).eval choice.rank store =
      .ok (store.statuses.rows.filter (fun entry => entry.2.incidentId ∈ ids)) := rfl
  generalize read : store.incidents.rows.filter (fun entry => entry.1 ∈ ids) = rows
  have listed : ∀ id row, (id, row) ∈ rows ↔ store.incidents.get? id = some row ∧ id ∈ ids := by
    intro id row
    rw [← read, List.mem_filter, SerialTable.mem_rows, decide_eq_true_eq]
  have named : ∀ id ∈ ids, id ∈ rows.map Prod.fst := by
    intro id member
    rcases stored id member with ⟨row, found⟩
    exact List.mem_map_of_mem ((listed id row).mpr ⟨found, member⟩)
  have matched : rows.map Prod.fst ≠ [] := by
    rcases List.exists_mem_of_ne_nil ids nonempty with ⟨id, member⟩
    exact List.ne_nil_of_mem (named id member)
  rcases evaluate_loadIncidentRows faultless read matched with ⟨components, loaded, linked⟩
  have evaluated : (incidentsByIDs ids).evaluate database choice store =
      (.ok (attach (ids.filterMap (fun id => rows.find? (fun entry => entry.1 = id))) components
        (store.statuses.rows.filter (fun entry => entry.2.incidentId ∈ ids))), store) := by
    unfold incidentsByIDs
    rw [chunked_of_short nonempty short, Program.evaluate_bind, loaded]
    dsimp only
    rw [Program.evaluate_bind, evaluate_statusesByIncident faultless nonempty short]
    rfl
  -- the row of a listed id is found under it
  have chosen : ∀ id ∈ ids, ∃ row, rows.find? (fun entry => entry.1 = id) = some (id, row) ∧
      store.incidents.get? id = some row := by
    intro id member
    have present : (rows.find? (fun entry => entry.1 = id)).isSome = true := by
      rcases List.mem_map.mp (named id member) with ⟨entry, inside, same⟩
      exact List.find?_isSome.mpr ⟨entry, inside, decide_eq_true same⟩
    rcases Option.isSome_iff_exists.mp present with ⟨⟨other, row⟩, found⟩
    have equal : other = id := by simpa using List.find?_some found
    subst equal
    exact ⟨row, found, ((listed _ row).mp (List.mem_of_find?_eq_some found)).1⟩
  refine ⟨_, evaluated, ?_, ?_⟩
  · unfold attach
    rw [List.map_map, List.map_filterMap]
    have first : ∀ id ∈ ids, Option.map (Incident.id ∘ fun entry : Nat × IncidentRow =>
        incidentFromEnt entry.1 entry.2 (componentsOf entry.1 components) (statusesOf entry.1
          (store.statuses.rows.filter (fun entry => entry.2.incidentId ∈ ids))))
        (rows.find? (fun entry => entry.1 = id)) = some id := by
      intro id member
      rcases chosen id member with ⟨row, found, _⟩
      rw [found]
      rfl
    rw [List.filterMap_congr first, List.filterMap_some]
  · intro copy member
    rcases List.mem_map.mp member with ⟨entry, ordered, rfl⟩
    rcases List.mem_filterMap.mp ordered with ⟨id, inside, found⟩
    rcases chosen id inside with ⟨row, same, present⟩
    rw [found] at same
    cases same
    refine ⟨row, present, ?_⟩
    dsimp only
    rw [linked id (named id inside), statusesOf_read history, if_pos inside]
    rfl

omit faultless in
theorem stored_of_attrMatches {attr : ComponentAttr} (matched : id ∈ attrMatches store attr) :
    ∃ row, store.incidents.get? id = some row := by
  unfold attrMatches at matched
  rcases List.mem_flatMap.mp matched with ⟨⟨own, row⟩, shown, mentioned⟩
  rcases List.mem_flatMap.mp mentioned with ⟨component, _, repeated⟩
  rcases List.mem_map.mp repeated with ⟨_, _, rfl⟩
  exact ⟨row, (mem_selectRows.mp shown).1⟩

/-- A bounded number of the events of an attribute is loaded as they are stored. -/
theorem evaluate_getIncidentsByComponentAttr (store : Store) (attr : ComponentAttr)
    {lastCount : Nat} (limited : lastCount ≠ 0) (short : lastCount ≤ incidentIDChunkSize) :
    ∃ copies, (getIncidentsByComponentAttr attr lastCount).evaluate database choice store =
        (.ok copies, store) ∧
      copies.map Incident.id = (attrMatches store attr).reverse.take lastCount ∧
      ∀ copy ∈ copies, ∃ row, store.incidents.get? copy.id = some row ∧
        copy = storedCopy store (copy.id, row) := by
  have answer : (Query.incidentsByComponentAttr attr lastCount).eval choice.rank store =
      .ok ((attrMatches store attr).reverse.take lastCount) := by
    simp only [Query.eval, if_neg limited]
  unfold getIncidentsByComponentAttr
  rw [Program.evaluate_bind, evaluate_read faultless, answer]
  dsimp only
  by_cases nonempty : (attrMatches store attr).reverse.take lastCount = []
  · rw [nonempty]
    exact ⟨[], rfl, rfl, fun copy none => absurd none List.not_mem_nil⟩
  · apply evaluate_incidentsByIDs faultless nonempty ((List.length_take_le _ _).trans short)
    intro id member
    exact stored_of_attrMatches (List.mem_reverse.mp (List.mem_of_mem_take member))

end Evaluate

end StatusDashboard.Storage
