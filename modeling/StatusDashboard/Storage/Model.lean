import StatusDashboard.Event.Status
import StatusDashboard.Tables.Join
import StatusDashboard.Tables.Serial

namespace StatusDashboard.Storage

open Event Tables

/-!
# Rows, copies and the store

The database holds rows; the handlers work on copies of them.  A copy mirrors
the row with every nullable or defaulted column as an option, and carries the
components and update rows that were loaded with it.  An update row of a copy
with id `0` has not been inserted yet.

Times are nanoseconds from `zeroTime`, the zero value of the language, which a
copy cannot tell from a missing date.  A row holds a date as it was sent; the
column keeps its whole microseconds, its `columnTime`.
-/

abbrev Time := Int

def zeroTime : Time := 0

/-- What a timestamp column keeps of a time: the driver drops the rest. -/
def columnTime (time : Time) : Int := time / 1000

/-- A nullable time as a copy sees it: the zero time reads as missing. -/
def optTimePtr (column : Option Time) : Option Time :=
  column.filter (fun time => time ≠ zeroTime)

theorem optTimePtr_cases (column : Option Time) :
    optTimePtr column = none ∨ optTimePtr column = column := by
  cases column with
  | none => exact Or.inl rfl
  | some =>
    unfold optTimePtr
    rw [Option.filter_some]
    split_ifs
    · exact Or.inr rfl
    · exact Or.inl rfl

/-- Only a zero time is read as none. -/
theorem optTimePtr_of_ne {column : Option Time} (nonzero : column ≠ some zeroTime) :
    optTimePtr column = column := by
  cases column with
  | none => rfl
  | some time =>
    have different : time ≠ zeroTime := fun same => nonzero (congrArg some same)
    simp [optTimePtr, different]

theorem optTimePtr_zero : optTimePtr (some zeroTime) = none := rfl

theorem optTimePtr_eq_self {column : Option Time} :
    optTimePtr column = column ↔ column ≠ some zeroTime := by
  constructor
  · intro same zero
    rw [zero] at same
    cases same
  · exact optTimePtr_of_ne

/-- A date that was read and written back is the date that was stored. -/
theorem optTimePtr_or (column : Option Time) : (optTimePtr column).or column = column := by
  rcases optTimePtr_cases column with missing | same
  · rw [missing, Option.none_or]
  · rw [same]
    cases column <;> rfl

structure ComponentAttr where
  name : String
  value : String
deriving DecidableEq, Repr

structure ComponentRow where
  name : String
  attrs : List ComponentAttr
deriving DecidableEq, Repr

structure Component where
  id : Nat
  name : String
  attrs : List ComponentAttr
deriving DecidableEq, Repr

def regionAttrName : String := "region"

/-- The value of the last attribute with a name, or the empty text. -/
def Component.attr (component : Component) (name : String) : String :=
  component.attrs.foldl (fun value attr => if attr.name = name then attr.value else value) ""

def Component.printAttrs (component : Component) : String :=
  component.name ++ " (" ++ component.attr "category" ++ ", " ++
    component.attr regionAttrName ++ ", " ++ component.attr "type" ++ ")"

structure IncidentRow where
  text : String
  description : Option String
  startDate : Time
  endDate : Option Time
  impact : Int
  system : Bool
  type : EventType
  status : Option Status
  createdAt : Option Time
  modifiedAt : Option Time
  deletedAt : Option Time
  createdBy : Option String
  contactEmail : Option String
  version : Int
deriving DecidableEq, Repr

structure StatusRow where
  incidentId : Nat
  status : Status
  text : String
  timestamp : Time
  createdAt : Option Time
  modifiedAt : Option Time
  deletedAt : Option Time
  createdBy : Option String
  modifiedBy : Option String
deriving DecidableEq, Repr

structure IncidentStatus where
  id : Nat := 0
  incidentId : Nat
  status : Status
  text : String
  timestamp : Time
  createdAt : Option Time := none
  modifiedAt : Option Time := none
  deletedAt : Option Time := none
  createdBy : Option String := none
  modifiedBy : Option String := none
deriving DecidableEq, Repr

structure Incident where
  id : Nat := 0
  text : Option String
  description : Option String
  startDate : Option Time
  endDate : Option Time
  impact : Option Int
  statuses : List IncidentStatus := []
  status : Status := .unset
  system : Bool
  type : EventType
  components : List Component
  createdAt : Option Time := none
  modifiedAt : Option Time := none
  deletedAt : Option Time := none
  createdBy : Option String := none
  contactEmail : Option String := none
  version : Option Int := none
deriving DecidableEq, Repr

def Incident.link (incident : Incident) : String :=
  "<a href='/incidents/" ++ toString incident.id ++ "'>" ++ incident.text.getD "" ++ "</a>"

/-- The ids of the components a copy holds. -/
def Incident.componentIds (incident : Incident) : List Nat :=
  incident.components.map Component.id

inductive NotificationKind where
  | pendingReview
  | reviewed
  | statusChanged
deriving DecidableEq, Repr

def NotificationKind.text : NotificationKind → String
  | .pendingReview => "pending_review"
  | .reviewed => "reviewed"
  | .statusChanged => "status_changed"

inductive NotificationStatus where
  | pending
  | processing
  | sent
  | failed
deriving DecidableEq, Repr

/-- What an email is rendered from. -/
structure Payload where
  incidentId : String
  title : String
  oldStatus : String
  newStatus : String
  actor : String
  changedAt : Time
  link : String
deriving DecidableEq, Repr

structure NotificationOutbox where
  kind : NotificationKind
  incidentId : Nat
  recipient : String
  payload : Payload
  changeId : String
  dedupKey : String
  status : NotificationStatus
  attempts : Int
  nextAttemptAt : Option Time
  lockedBy : Option String
  lockedAt : Option Time
  lastError : Option String
  createdAt : Time
  updatedAt : Time
deriving DecidableEq, Repr

/-- The tables.  `relation` links incidents to components.  Its rows name
existing incidents and components, which are the fields `incidentExists` and
`componentExists`; no incident and no component is ever deleted. -/
structure Store where
  incidents : SerialTable IncidentRow
  components : SerialTable ComponentRow
  relation : JoinTable
  statuses : SerialTable StatusRow
  outbox : SerialTable NotificationOutbox
  incidentExists : ∀ pair ∈ relation.pairs, (incidents.get? pair.1).isSome
  componentExists : ∀ pair ∈ relation.pairs, (components.get? pair.2).isSome

instance : DecidableEq Store := fun first second =>
  decidable_of_iff (first.incidents = second.incidents ∧ first.components = second.components ∧
      first.relation = second.relation ∧ first.statuses = second.statuses ∧
      first.outbox = second.outbox)
    (by rw [Store.mk.injEq])

namespace Store

def empty : Store where
  incidents := .empty
  components := .empty
  relation := .empty
  statuses := .empty
  outbox := .empty
  incidentExists := by simp
  componentExists := by simp

/-- The components linked to an incident. -/
def componentIds (store : Store) (id : Nat) : List Nat :=
  store.relation.right id

/-- The stored update rows of an incident, in id order. -/
def history (store : Store) (id : Nat) : List (Nat × StatusRow) :=
  store.statuses.rows.filter (fun entry => entry.2.incidentId = id)

def insertIncident (store : Store) (row : IncidentRow) : Store :=
  { store with
    incidents := store.incidents.insert row
    incidentExists := by
      intro pair member
      rcases Option.isSome_iff_exists.mp (store.incidentExists pair member) with ⟨found, present⟩
      rw [SerialTable.get?_insert_of_get? row present]
      rfl }

def updateIncident (store : Store) (id : Nat) (rewrite : IncidentRow → IncidentRow) : Store :=
  { store with
    incidents := store.incidents.update id rewrite
    incidentExists := by
      intro pair member
      have present := store.incidentExists pair member
      rw [SerialTable.get?_update]
      split_ifs
      · simpa using present
      · exact present }

def insertStatus (store : Store) (row : StatusRow) : Store :=
  { store with statuses := store.statuses.insert row }

def insertStatuses (store : Store) (rows : List StatusRow) : Store :=
  { store with statuses := store.statuses.insertAll rows }

def insertOutbox (store : Store) (row : NotificationOutbox) : Store :=
  { store with outbox := store.outbox.insert row }

/-- Link existing components to an existing incident. -/
def link (store : Store) (id : Nat) (others : List Nat)
    (present : (store.incidents.get? id).isSome)
    (exist : ∀ other ∈ others, (store.components.get? other).isSome) : Store :=
  { store with
    relation := store.relation.linkAll id others
    incidentExists := by
      intro pair member
      rcases JoinTable.mem_linkAll.mp member with stored | ⟨equal, _⟩
      · exact store.incidentExists pair stored
      · exact equal ▸ present
    componentExists := by
      intro pair member
      rcases JoinTable.mem_linkAll.mp member with stored | ⟨_, added⟩
      · exact store.componentExists pair stored
      · exact exist pair.2 added }

def unlink (store : Store) (id : Nat) (others : List Nat) : Store :=
  { store with
    relation := store.relation.unlinkAll id others
    incidentExists := by
      intro pair member
      exact store.incidentExists pair (JoinTable.mem_unlinkAll.mp member).1
    componentExists := by
      intro pair member
      exact store.componentExists pair (JoinTable.mem_unlinkAll.mp member).1 }

theorem incident_of_mem_componentIds {store : Store} {id other : Nat}
    (linked : other ∈ store.componentIds id) : ∃ row, store.incidents.get? id = some row :=
  Option.isSome_iff_exists.mp (store.incidentExists (id, other) (JoinTable.mem_right.mp linked))

theorem component_of_mem_componentIds {store : Store} {id other : Nat}
    (linked : other ∈ store.componentIds id) : ∃ row, store.components.get? other = some row :=
  Option.isSome_iff_exists.mp (store.componentExists (id, other) (JoinTable.mem_right.mp linked))

/-- Component ids start at one. -/
theorem pos_of_mem_componentIds {store : Store} {id other : Nat}
    (linked : other ∈ store.componentIds id) : other ≠ 0 := by
  rcases component_of_mem_componentIds linked with ⟨row, found⟩
  exact Nat.ne_of_gt (SerialTable.pos_of_get? found)

end Store

/-! ## Reading a row -/

/-- The component copy of a stored component. -/
def componentFromEnt (id : Nat) (row : ComponentRow) : Component where
  id := id
  name := row.name
  attrs := row.attrs

def incidentStatusFromEnt (id : Nat) (row : StatusRow) : IncidentStatus where
  id := id
  incidentId := row.incidentId
  status := row.status
  text := row.text
  timestamp := row.timestamp
  createdAt := optTimePtr row.createdAt
  modifiedAt := optTimePtr row.modifiedAt
  deletedAt := optTimePtr row.deletedAt
  createdBy := row.createdBy
  modifiedBy := row.modifiedBy

/-- The copy of a row, with the components and update rows loaded for it. -/
def incidentFromEnt (id : Nat) (row : IncidentRow) (components : List Component)
    (statuses : List IncidentStatus) : Incident where
  id := id
  text := some row.text
  description := row.description
  startDate := some row.startDate
  endDate := optTimePtr row.endDate
  impact := some row.impact
  statuses := statuses
  status := row.status.getD .unset
  system := row.system
  type := row.type
  components := components
  createdAt := optTimePtr row.createdAt
  modifiedAt := optTimePtr row.modifiedAt
  deletedAt := optTimePtr row.deletedAt
  createdBy := row.createdBy
  contactEmail := row.contactEmail
  version := some row.version

end StatusDashboard.Storage
