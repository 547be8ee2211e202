import StatusDashboard.Storage.Model
import StatusDashboard.Tables.Truth

namespace StatusDashboard.Storage

open Event Tables

/-!
# Queries

The read statements of the database layer.  A query is one statement: it sees
one store and changes nothing.  `rank` is the order the database happens to use
among rows that the statement's ordering leaves equal.

Conditions on nullable columns are three-valued, as in the statements the
query builder emits.
-/

/-- Why a database call failed.  `constraint` stands for a value that a column,
a validator or a foreign key rejects, `driver` for a statement that could not
be executed.  `nilDereference` is no error value: the calling goroutine stops. -/
inductive DbError where
  | incidentDSNotExist
  | componentDSNotExist
  | eventUpdateDSNotExist
  | incidentTextRequired
  | incidentStartDateRequired
  | incidentFilterActiveFalse
  | versionRequired
  | versionConflict
  | noComponentsToExtract
  | dedupKeyRequired
  | notificationDuplicate
  | notificationNotFound
  | notFound
  | constraint
  | driver
  | nilDereference
deriving DecidableEq, Repr

structure IncidentsParams where
  types : Option (List EventType) := none
  status : Option Status := none
  startDate : Option Time := none
  endDate : Option Time := none
  impact : Option Int := none
  isSystem : Option Bool := none
  componentIDs : List Nat := []
  lastCount : Nat := 0
  isActive : Option Bool := none
  limit : Option Int := none
  page : Option Int := none
deriving DecidableEq, Repr

/-! ## Conditions -/

/-- Whether no update row of the event has a public maintenance status. -/
def noPublicStatus (store : Store) (id : Nat) : Bool :=
  store.statuses.rows.all (fun entry =>
    !(entry.2.incidentId == id && isPublicMaintenanceStatus entry.2.status))

def statusIn (row : IncidentRow) (statuses : List Status) : Truth :=
  Truth.compare row.status (fun status => statuses.contains status)

/-- The two conditions that hide an event from callers without the extended
view: a maintenance under review, and a cancelled one that was never public. -/
def publicEventPredicates (store : Store) (id : Nat) (row : IncidentRow) : List Truth :=
  [ Truth.not (Truth.and (some (row.type == .maintenance))
      (statusIn row [.pendingReview, .reviewed])),
    Truth.not (Truth.and (some (row.type == .maintenance))
      (Truth.and (statusIn row [.cancelled]) (some (noPublicStatus store id)))) ]

/-- No end date yet, or inside its dates with none of the given statuses. -/
def activeCondition (currentTime : Time) (finished : List Status) (row : IncidentRow) : Truth :=
  Truth.or (some row.endDate.isNone)
    (Truth.and (some (row.startDate ≤ currentTime))
      (Truth.and (Truth.compare row.endDate (fun date => currentTime ≤ date))
        (Truth.not (statusIn row finished))))

/-- Both dates restrict, either alone restricts its own column. -/
def dateConditions (params : IncidentsParams) (row : IncidentRow) : List Truth :=
  (params.startDate.map (fun date => some (decide (date ≤ row.startDate)))).toList ++
    (params.endDate.map (fun date => Truth.compare row.endDate (fun stored => stored ≤ date))).toList

def applyEventsFilters (params : IncidentsParams) (isAuth : Bool) (currentTime : Time)
    (store : Store) (id : Nat) (row : IncidentRow) : List Truth :=
  (params.types.map (fun types => some (types.contains row.type))).toList ++
    (params.impact.map (fun impact => some (row.impact == impact))).toList ++
    (params.isSystem.map (fun system => some (row.system == system))).toList ++
    (if params.componentIDs = [] then []
      else [some ((store.componentIds id).any params.componentIDs.contains)]) ++
    (if params.isActive = some true then
      [activeCondition currentTime
        [.resolved, .completed, .cancelled, .pendingReview, .reviewed, .completed, .cancelled] row]
      else []) ++
    (params.status.map (fun status => statusIn row [status])).toList ++
    dateConditions params row ++
    (if isAuth then [] else publicEventPredicates store id row)

def componentEventConditions (componentId : Nat) (params : IncidentsParams) (currentTime : Time)
    (store : Store) (id : Nat) (row : IncidentRow) : List Truth :=
  [some ((store.componentIds id).contains componentId)] ++
    publicEventPredicates store id row ++
    (if params.isActive = some true then
      [activeCondition currentTime
        [.resolved, .completed, .cancelled, .completed, .cancelled] row]
      else []) ++
    (match params.types with
      | some (first :: others) => [some ((first :: others).contains row.type)]
      | _ => [])

/-- The rows whose conditions are all true, in id order. -/
def selectRows (store : Store) (conditions : Nat → IncidentRow → List Truth) :
    List (Nat × IncidentRow) :=
  store.incidents.rows.filter (fun entry =>
    (conditions entry.1 entry.2).all Truth.selects)

/-! ## Order and limits -/

/-- Later start first; the database decides among equal starts. -/
def startsBefore (rank : Nat → Nat) (first second : Nat × IncidentRow) : Prop :=
  second.2.startDate < first.2.startDate ∨
    (first.2.startDate = second.2.startDate ∧ rank first.1 ≤ rank second.1)

instance (rank : Nat → Nat) : DecidableRel (startsBefore rank) := fun first second =>
  inferInstanceAs (Decidable (second.2.startDate < first.2.startDate ∨
    (first.2.startDate = second.2.startDate ∧ rank first.1 ≤ rank second.1)))

/-- The value a 64-bit signed integer holds after a computation. -/
def wrap64 (value : Int) : Int :=
  value.bmod (2 ^ 64)

def pageOffset (params : IncidentsParams) (limit : Int) : Int :=
  match params.page with
  | some page => if 1 < page then wrap64 ((page - 1) * limit) else 0
  | none => 0

/-- The rows a page shows.  The offset is computed in 64 bits, and a negative
one is rejected by the database. -/
def paginate (params : IncidentsParams) (rows : List (Nat × IncidentRow)) :
    Except DbError (List (Nat × IncidentRow)) :=
  match params.limit with
  | some limit =>
    if 0 < limit then
      if pageOffset params limit < 0 then .error .driver
      else .ok ((rows.drop (pageOffset params limit).toNat).take limit.toNat)
    else if 0 < params.lastCount then .ok (rows.take params.lastCount)
    else .ok rows
  | none => if 0 < params.lastCount then .ok (rows.take params.lastCount) else .ok rows

/-! ## The statements -/

/-- A component with its attributes, as the eager load of a relation returns it. -/
def linkedComponents (store : Store) (id : Nat) : List Component :=
  (store.componentIds id).filterMap (fun componentId =>
    (store.components.get? componentId).map (componentFromEnt componentId))

/-- The rows of a statement without an order, as the database returns them. -/
def ranked {ρ : Type} (rank : Nat → Nat) (rows : List (Nat × ρ)) : List (Nat × ρ) :=
  rows.insertionSort (fun first second => rank first.1 ≤ rank second.1)

/-- The incidents of a component, as the eager load of the relation returns them. -/
def linkedIncidents (rank : Nat → Nat) (store : Store) (componentId : Nat) :
    List (Nat × IncidentRow) :=
  ranked rank (store.incidents.rows.filter (fun entry => componentId ∈ store.componentIds entry.1))

/-- The visibility rules written into the hand-made statement of the region feed. -/
def attrQueryConditions (store : Store) (id : Nat) (row : IncidentRow) : List Truth :=
  [ Truth.not (Truth.and (some (row.type == .maintenance))
      (statusIn row [.pendingReview, .reviewed])),
    Truth.not (Truth.and
      (Truth.and (some (row.type == .maintenance))
        (Truth.compare row.status (fun status => status == .cancelled)))
      (Truth.not (some (!noPublicStatus store id)))) ]

/-- Each match of an attribute by a linked component of a visible event, with
one entry for each match. -/
def attrMatches (store : Store) (attr : ComponentAttr) : List Nat :=
  (selectRows store (attrQueryConditions store)).flatMap (fun entry =>
    (linkedComponents store entry.1).flatMap (fun component =>
      (component.attrs.filter (fun found => found = attr)).map (fun _ => entry.1)))

inductive Query : Type → Type where
  | componentIds : Query (List Nat)
  | component (id : Nat) : Query Component
  | componentFromNameAttrs (name value : String) : Query Component
  | allComponents : Query (List Component)
  | incidentsOfComponents (ids : List Nat) : Query (List (Nat × Nat × IncidentRow))
  | countEvents (params : IncidentsParams) (isAuth : Bool) (currentTime : Time) : Query Nat
  | events (params : IncidentsParams) (isAuth : Bool) (currentTime : Time) :
      Query (List (Nat × IncidentRow))
  | eventsByComponent (componentId : Nat) (params : IncidentsParams) (currentTime : Time) :
      Query (List (Nat × IncidentRow))
  | eventsByType (type : EventType) (descending : Bool) : Query (List (Nat × IncidentRow))
  | incident (id : Nat) : Query IncidentRow
  | incidentsByComponentAttr (attr : ComponentAttr) (lastCount : Nat) : Query (List Nat)
  | incidentsByIDs (ids : List Nat) : Query (List (Nat × IncidentRow))
  | components (ids : List Nat) : Query (List (Nat × Component))
  | statuses (ids : List Nat) : Query (List (Nat × StatusRow))
  | outboxRow (id : Nat) : Query NotificationOutbox

def Query.eval (rank : Nat → Nat) (store : Store) : {β : Type} → Query β → Except DbError β
  | _, .componentIds => .ok (store.components.rows.map Prod.fst)
  | _, .component id =>
    match store.components.get? id with
    | some row => .ok (componentFromEnt id row)
    | none => .error .componentDSNotExist
  | _, .componentFromNameAttrs name value =>
    match store.components.rows.find? (fun entry =>
      entry.2.name == name && entry.2.attrs.any (fun attr => attr.value == value)) with
    | some entry => .ok (componentFromEnt entry.1 entry.2)
    | none => .error .componentDSNotExist
  | _, .allComponents =>
    .ok ((ranked rank store.components.rows).map (fun entry => componentFromEnt entry.1 entry.2))
  | _, .incidentsOfComponents ids =>
    .ok (ids.flatMap (fun id => (linkedIncidents rank store id).map (fun entry => (id, entry))))
  | _, .countEvents params isAuth currentTime =>
    .ok (selectRows store (applyEventsFilters params isAuth currentTime store)).length
  | _, .events params isAuth currentTime =>
    paginate params ((selectRows store
      (applyEventsFilters params isAuth currentTime store)).insertionSort (startsBefore rank))
  | _, .eventsByComponent componentId params currentTime =>
    let rows := selectRows store (componentEventConditions componentId params currentTime store)
    if params.lastCount = 0 then .ok rows else .ok (rows.reverse.take params.lastCount)
  | _, .eventsByType type descending =>
    let rows := store.incidents.rows.filter (fun entry => entry.2.type = type)
    .ok (if descending then rows.reverse else rows)
  | _, .incident id =>
    match store.incidents.get? id with
    | some row => .ok row
    | none => .error .incidentDSNotExist
  | _, .incidentsByComponentAttr attr lastCount =>
    if lastCount = 0 then .ok (attrMatches store attr)
    else .ok ((attrMatches store attr).reverse.take lastCount)
  | _, .incidentsByIDs ids => .ok (store.incidents.rows.filter (fun entry => entry.1 ∈ ids))
  | _, .components ids =>
    .ok (ids.dedup.flatMap (fun id => (linkedComponents store id).map (fun component => (id, component))))
  | _, .statuses ids => .ok (store.statuses.rows.filter (fun entry => entry.2.incidentId ∈ ids))
  | _, .outboxRow id =>
    match store.outbox.get? id with
    | some row => .ok row
    | none => .error .notificationNotFound

/-! ## What the statements return -/

theorem mem_selectRows {store : Store} {conditions : Nat → IncidentRow → List Truth}
    {id : Nat} {row : IncidentRow} :
    (id, row) ∈ selectRows store conditions ↔
      store.incidents.get? id = some row ∧ (conditions id row).all Truth.selects = true := by
  rw [selectRows, List.mem_filter, SerialTable.mem_rows]

theorem mem_paginate {params : IncidentsParams} {rows page : List (Nat × IncidentRow)}
    (shown : paginate params rows = .ok page) : page.Sublist rows := by
  unfold paginate at shown
  split at shown
  · split_ifs at shown
    · cases shown
      exact (List.take_sublist _ _).trans (List.drop_sublist _ _)
    · cases shown
      exact List.take_sublist _ _
    · cases shown
      exact List.Sublist.refl _
  · split_ifs at shown
    · cases shown
      exact List.take_sublist _ _
    · cases shown
      exact List.Sublist.refl _

/-- Thanks to the foreign key a loaded copy holds exactly the linked components. -/
theorem linkedComponents_ids (store : Store) (id : Nat) :
    (linkedComponents store id).map Component.id = store.componentIds id := by
  have exist : ∀ other ∈ store.componentIds id, (store.components.get? other).isSome := by
    intro other linked
    exact store.componentExists (id, other) (JoinTable.mem_right.mp linked)
  unfold linkedComponents
  generalize store.componentIds id = others at exist
  induction others with
  | nil => rfl
  | cons other others ih =>
    rcases Option.isSome_iff_exists.mp (exist other List.mem_cons_self) with ⟨row, found⟩
    have rest := ih (fun later member => exist later (List.mem_cons_of_mem _ member))
    simp only [List.filterMap_cons, found, Option.map_some, List.map_cons, rest]
    rfl

end StatusDashboard.Storage
