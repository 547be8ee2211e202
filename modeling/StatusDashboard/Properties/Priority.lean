import StatusDashboard.Handlers.Activity

namespace StatusDashboard.Properties

open Event Storage Notification Handlers Process

/-!
# What the open events of a component decide

A system creation walks the open events of each component.  The documentation
ranks them: a maintenance before a regular incident, a regular incident before
a system incident of sufficient impact, and only then is the component moved.
The walk stops at the first maintenance or regular incident it meets and
otherwise looks at the first event only.  It therefore follows the ranking on
exactly those lists whose order agrees with it.
-/

/-- An event that ends the walk. -/
def decisive (event : Incident) : Bool :=
  event.type == .maintenance || !event.system

/-- A system incident need not be left for the requested impact. -/
def Suffices (data : IncidentData) (event : Incident) : Prop :=
  data.impact ≤ event.impact.getD 0

/-- What a walk that meets this event first among the decisive ones ends with. -/
def settledBy (event : Incident) : EventScan :=
  if event.type = .maintenance then .maintenance event else .regular event

/-- The walk is decided by the first decisive event, and without one by the
first event of all. -/
theorem scanEvents_eq (firstSystem : Option Incident) (events : List Incident) :
    scanEvents firstSystem events =
      match events.find? decisive, firstSystem.or events.head? with
      | some event, _ => settledBy event
      | none, some event => .system event
      | none, none => .nothing := by
  induction events generalizing firstSystem with
  | nil => cases firstSystem <;> rfl
  | cons first events ih =>
    unfold scanEvents
    split_ifs with maintenance regular
    · have stops : decisive first = true := by simp [decisive, maintenance]
      simp [List.find?_cons_of_pos stops, settledBy, maintenance]
    · have stops : decisive first = true := by simp [decisive, regular]
      simp [List.find?_cons_of_pos stops, settledBy, maintenance]
    · have passes : ¬ decisive first = true := by simp [decisive, maintenance, regular]
      rw [ih, List.find?_cons_of_neg passes]
      cases firstSystem <;> simp

/-! ## The ranking -/

/-- The documented outcome for one component, whatever the order of its events.
A program that is `pure` answers without touching the database. -/
structure FollowsRanking (component : Component) (data : IncidentData) (events : List Incident)
    (program : DbProgram ProcessComponentResp) : Prop where
  maintenance : (∃ event ∈ events, event.type = .maintenance) →
    ∃ event ∈ events, event.type = .maintenance ∧
      program = pure { componentId := component.id, incidentId := event.id,
                       error := some creationMaintenanceExists }
  regular : (∀ event ∈ events, event.type ≠ .maintenance) →
    (∃ event ∈ events, event.system = false) →
    ∃ event ∈ events, event.system = false ∧
      program = pure { componentId := component.id, incidentId := event.id, error := none }
  sufficient : (∀ event ∈ events, decisive event = false) →
    (∃ event ∈ events, Suffices data event) →
    ∃ event ∈ events, Suffices data event ∧
      program = pure { componentId := component.id, incidentId := event.id, error := none }
  outranked : (∀ event ∈ events, decisive event = false) →
    (∀ event ∈ events, ¬ Suffices data event) → events ≠ [] →
    ∃ event ∈ events, program = (do
      let incident ← moveComponentFromToSystemIncidents component data event
      pure { componentId := component.id, incidentId := incident.id, error := none })

/-- The order of a list agrees with the ranking: a maintenance is not behind every
regular incident, and among system incidents a sufficient one is in front. -/
structure RankedOrder (data : IncidentData) (events : List Incident) : Prop where
  maintenance : (∃ event ∈ events, event.type = .maintenance) →
    ∀ event, events.find? decisive = some event → event.type = .maintenance
  sufficient : (∀ event ∈ events, decisive event = false) →
    (∃ event ∈ events, Suffices data event) → ∀ event ∈ events.head?, Suffices data event

section Walk

variable {component : Component} {data : IncidentData} {events : List Incident} {event : Incident}

theorem decisive_maintenance (type : event.type = .maintenance) : decisive event = true := by
  simp [decisive, type]

theorem decisive_regular (system : event.system = false) : decisive event = true := by
  simp [decisive, system]

/-- A decisive event that is no maintenance is a regular incident. -/
theorem regular_of_decisive (stops : decisive event = true) (type : event.type ≠ .maintenance) :
    event.system = false := by
  simpa [decisive, type] using stops

theorem handle_maintenance (found : events.find? decisive = some event)
    (type : event.type = .maintenance) :
    handleComponentWithExistingEvents component data events =
      pure { componentId := component.id, incidentId := event.id,
             error := some creationMaintenanceExists } := by
  unfold handleComponentWithExistingEvents
  rw [scanEvents_eq, found]
  simp [settledBy, type]

theorem handle_regular (found : events.find? decisive = some event)
    (type : event.type ≠ .maintenance) :
    handleComponentWithExistingEvents component data events =
      pure { componentId := component.id, incidentId := event.id, error := none } := by
  unfold handleComponentWithExistingEvents
  rw [scanEvents_eq, found]
  simp [settledBy, type]

theorem handle_system (none : ∀ event ∈ events, decisive event = false)
    (first : events.head? = some event) :
    handleComponentWithExistingEvents component data events =
      handleSystemIncidentWithImpactComparison component data event := by
  have missing : events.find? decisive = .none := by
    rw [List.find?_eq_none]
    intro event member stops
    exact absurd stops (by simp [none event member])
  unfold handleComponentWithExistingEvents
  rw [scanEvents_eq, missing, first]
  rfl

theorem handle_sufficient (none : ∀ event ∈ events, decisive event = false)
    (first : events.head? = some event) (enough : Suffices data event) :
    handleComponentWithExistingEvents component data events =
      pure { componentId := component.id, incidentId := event.id, error := .none } := by
  rw [handle_system none first]
  exact if_pos enough

theorem handle_outranked (none : ∀ event ∈ events, decisive event = false)
    (first : events.head? = some event) (insufficient : ¬ Suffices data event) :
    handleComponentWithExistingEvents component data events = (do
      let incident ← moveComponentFromToSystemIncidents component data event
      pure { componentId := component.id, incidentId := incident.id, error := .none }) := by
  rw [handle_system none first]
  exact if_neg insufficient

/-- Moving a component starts with a query, so it is no mere answer. -/
theorem move_ne_pure (event : Incident) (response : ProcessComponentResp) :
    (do
      let incident ← moveComponentFromToSystemIncidents component data event
      pure { componentId := component.id, incidentId := incident.id, error := none }) ≠
      (pure response : DbProgram ProcessComponentResp) := by
  intro same
  cases same

theorem find_decisive (present : ∃ event ∈ events, decisive event = true) :
    ∃ event ∈ events, events.find? decisive = some event ∧ decisive event = true := by
  obtain ⟨event, found⟩ := Option.isSome_iff_exists.mp (List.find?_isSome.mpr present)
  exact ⟨event, List.mem_of_find?_eq_some found, found, List.find?_some found⟩

/-- A walk that follows the ranking was over a list in the order of the ranking. -/
theorem RankedOrder.of_follows
    (follows : FollowsRanking component data events
      (handleComponentWithExistingEvents component data events)) :
    RankedOrder data events := by
  constructor
  case maintenance =>
    intro present event found
    by_contra type
    obtain ⟨ranked, -, -, answer⟩ := follows.maintenance present
    rw [handle_regular found type] at answer
    injection answer with response
    cases congrArg ProcessComponentResp.error response
  case sufficient =>
    intro none enough event first
    by_contra insufficient
    obtain ⟨ranked, -, -, answer⟩ := follows.sufficient none enough
    rw [handle_outranked none first insufficient] at answer
    exact move_ne_pure event _ answer

/-- On a list in the order of the ranking the walk follows it. -/
theorem RankedOrder.follows (order : RankedOrder data events) :
    FollowsRanking component data events
      (handleComponentWithExistingEvents component data events) := by
  constructor
  case maintenance =>
    intro present
    obtain ⟨event, member, found, -⟩ := find_decisive
      (present.imp fun event held => ⟨held.1, decisive_maintenance held.2⟩)
    have type := order.maintenance present event found
    exact ⟨event, member, type, handle_maintenance found type⟩
  case regular =>
    intro unplanned present
    obtain ⟨event, member, found, stops⟩ := find_decisive
      (present.imp fun event held => ⟨held.1, decisive_regular held.2⟩)
    have type := unplanned event member
    exact ⟨event, member, regular_of_decisive stops type, handle_regular found type⟩
  case sufficient =>
    intro none present
    obtain ⟨first, rest, shape⟩ := List.exists_cons_of_ne_nil
      (List.ne_nil_of_mem present.choose_spec.1)
    have head : events.head? = some first := by rw [shape]; rfl
    have enough := order.sufficient none present first head
    exact ⟨first, List.mem_of_mem_head? head, enough, handle_sufficient none head enough⟩
  case outranked =>
    intro none insufficient nonempty
    obtain ⟨first, rest, shape⟩ := List.exists_cons_of_ne_nil nonempty
    have head : events.head? = some first := by rw [shape]; rfl
    have member := List.mem_of_mem_head? head
    exact ⟨first, member, handle_outranked none head (insufficient first member)⟩

end Walk

/-- The walk over the open events of a component follows the documented ranking
exactly on the lists in the order of the ranking. -/
theorem existingEvents_followsRanking_iff (component : Component) (data : IncidentData)
    (events : List Incident) :
    FollowsRanking component data events
        (handleComponentWithExistingEvents component data events) ↔ RankedOrder data events :=
  ⟨RankedOrder.of_follows, RankedOrder.follows⟩

/-- An open event of a component, as the walk meets it. -/
def openEvent (id : Nat) (type : EventType) (system : Bool) (impact : Int) : Incident where
  id := id
  text := some "Event"
  description := none
  startDate := some 1
  endDate := none
  impact := some impact
  status := .analysing
  system := system
  type := type
  components := [{ id := 1, name := "component", attrs := [] }]

/-- A regular incident hides a later maintenance, and a first system incident of
too little impact hides a later sufficient one. -/
theorem existingEvents_followsRanking_fails :
    handleComponentWithExistingEvents { id := 1, name := "component", attrs := [] }
        (incidentReport true [1] 2)
        [openEvent 1 .incident false 1, openEvent 2 .maintenance false 0] =
      pure { componentId := 1, incidentId := 1, error := none } ∧
    (∀ response, handleComponentWithExistingEvents { id := 1, name := "component", attrs := [] }
        (incidentReport true [1] 2)
        [openEvent 1 .incident true 1, openEvent 2 .incident true 3] ≠ pure response) ∧
    ¬ FollowsRanking { id := 1, name := "component", attrs := [] } (incidentReport true [1] 2)
        [openEvent 1 .incident false 1, openEvent 2 .maintenance false 0]
        (handleComponentWithExistingEvents { id := 1, name := "component", attrs := [] }
          (incidentReport true [1] 2)
          [openEvent 1 .incident false 1, openEvent 2 .maintenance false 0]) ∧
    ¬ FollowsRanking { id := 1, name := "component", attrs := [] } (incidentReport true [1] 2)
        [openEvent 1 .incident true 1, openEvent 2 .incident true 3]
        (handleComponentWithExistingEvents { id := 1, name := "component", attrs := [] }
          (incidentReport true [1] 2)
          [openEvent 1 .incident true 1, openEvent 2 .incident true 3]) := by
  have moves : ∀ response,
      handleComponentWithExistingEvents { id := 1, name := "component", attrs := [] }
        (incidentReport true [1] 2)
        [openEvent 1 .incident true 1, openEvent 2 .incident true 3] ≠ pure response :=
    fun response same => move_ne_pure (openEvent 1 .incident true 1) response same
  refine ⟨rfl, moves, ?_, ?_⟩
  · intro follows
    obtain ⟨ranked, -, -, answer⟩ :=
      follows.maintenance ⟨openEvent 2 .maintenance false 0, by simp, rfl⟩
    injection answer with response
    cases congrArg ProcessComponentResp.error response
  · intro follows
    obtain ⟨ranked, -, -, answer⟩ := follows.sufficient (by decide)
      ⟨openEvent 2 .incident true 3, by simp, by unfold Suffices; decide⟩
    exact moves _ answer

theorem existingEvents_followsRanking_inOrder :
    FollowsRanking { id := 1, name := "component", attrs := [] } (incidentReport true [1] 2)
      [openEvent 1 .maintenance false 0, openEvent 2 .incident false 1]
      (handleComponentWithExistingEvents { id := 1, name := "component", attrs := [] }
        (incidentReport true [1] 2)
        [openEvent 1 .maintenance false 0, openEvent 2 .incident false 1]) := by
  apply (existingEvents_followsRanking_iff _ _ _).mpr
  constructor
  · rintro - event found
    cases found
    rfl
  · intro none
    exact absurd (none (openEvent 1 .maintenance false 0) (by simp)) (by decide)

end StatusDashboard.Properties
