import StatusDashboard.Handlers.Route
import StatusDashboard.Provenance.Completion
import StatusDashboard.Provenance.Create
import StatusDashboard.Provenance.Shared
import StatusDashboard.Storage.Solo

namespace StatusDashboard.Sequence

open Event Storage Tables Notification Handlers Process Provenance

/-!
# Creations that run alone

What a creation that nobody disturbs does when it succeeds: its transactions in
their order, each with the store it acts on, the copies it writes and the lists
these copies were taken from.  `reading` is what each reading of the clock
meets in the store of its moment.
-/

variable (reading : Clock)

/-! ## Lists -/

/-- The active events, all of them. -/
def ListsActive (store : Store) (events : List Incident) : Prop :=
  ∃ time, (reading time store ∧ reading.lists time) ∧ Solo.Lists store (fun id row =>
    (applyEventsFilters activeParams authorizedAccess time store id row).all Truth.selects = true)
    events

/-- The active events of a component that matter to a system creation. -/
def ListsOf (component : Nat) (store : Store) (events : List Incident) : Prop :=
  ∃ time, reading time store ∧ Solo.Lists store (fun id row =>
    (componentEventConditions component componentParams time store id row).all
      Truth.selects = true) events

/-- The system incident a search for an impact ends with. -/
def OnLevel (impact : Int) (store : Store) (found : Option Incident) : Prop :=
  ∃ time incidents, reading time store ∧ Solo.Lists store (fun id row =>
    (applyEventsFilters systemParams authorizedAccess time store id row).all
      Truth.selects = true) incidents ∧ findSystemIncident impact incidents = found

/-- The system incident a component is to be taken out of. -/
def Outranked (data : IncidentData) (component : Component) (source : Incident) (store : Store) :
    Prop :=
  ∃ events, ListsOf reading component.id store events ∧ scanEvents none events = .system source ∧
    source.impact.getD 0 < data.impact

variable {reading}

variable {time : Time} {row : IncidentRow} {store : Store}

theorem open_active {finished : List Status} (ongoing : row.endDate = none) :
    Truth.selects (activeCondition time finished row) = true := by
  simp [activeCondition, ongoing]

/-- What a list of active events shows is active. -/
theorem active_of_filters {params : IncidentsParams} {isAuth : Bool} {id : Nat}
    (active : params.isActive = some true)
    (selected : (applyEventsFilters params isAuth time store id row).all Truth.selects = true) :
    Truth.selects (activeCondition time [.resolved, .completed, .cancelled, .pendingReview,
      .reviewed, .completed, .cancelled] row) = true := by
  rw [List.all_eq_true] at selected
  exact selected _ (by simp [applyEventsFilters, active])

theorem active_of_component {component : Nat} {params : IncidentsParams} {id : Nat}
    (active : params.isActive = some true)
    (selected : (componentEventConditions component params time store id row).all
      Truth.selects = true) :
    Truth.selects (activeCondition time [.resolved, .completed, .cancelled, .completed, .cancelled]
      row) = true := by
  rw [List.all_eq_true] at selected
  exact selected _ (by simp [componentEventConditions, active])

/-- The incident found on a level is stored as the copy says. -/
theorem OnLevel.target {impact : Int} {target : Incident}
    (level : OnLevel reading impact store (some target)) :
    ∃ time row, reading time store ∧ store.incidents.get? target.id = some row ∧
      (applyEventsFilters systemParams authorizedAccess time store target.id row).all
        Truth.selects = true ∧
      target = storedCopy store (target.id, row) ∧ target.impact = some impact := by
  rcases level with ⟨time, incidents, clock, lists, found⟩
  rcases lists.sound target (List.mem_of_find?_eq_some found) with ⟨row, present, selected, shape⟩
  exact ⟨time, row, clock, present, selected, shape, by simpa using List.find?_some found⟩

/-- So is the incident a component is taken out of. -/
theorem Outranked.source {data : IncidentData} {component : Component} {source : Incident}
    (outranked : Outranked reading data component source store) :
    ∃ time row, reading time store ∧ store.incidents.get? source.id = some row ∧
      (componentEventConditions component.id componentParams time store source.id row).all
        Truth.selects = true ∧
      source = storedCopy store (source.id, row) ∧ source.type = .incident ∧
      source.system = true := by
  rcases outranked with ⟨events, ⟨time, clock, lists⟩, scanned, _⟩
  rcases Setting.scanEvents_system scanned with impossible | ⟨member, notMaintenance, system⟩
  · cases impossible
  · rcases lists.sound source member with ⟨row, found, selected, shape⟩
    refine ⟨time, row, clock, found, selected, shape, ?_, system⟩
    have meets : componentCondition component.id componentParams store source.id row :=
      ⟨time, selected⟩
    rw [shape] at notMaintenance ⊢
    exact ((componentParams_selects meets).2).resolve_right notMaintenance

/-- A component is not moved within one incident. -/
theorem Outranked.apart {data : IncidentData} {component : Component} {source target : Incident}
    (outranked : Outranked reading data component source store)
    (level : OnLevel reading data.impact store (some target)) : source.id ≠ target.id := by
  intro same
  rcases level.target with ⟨_, targetRow, _, targetFound, _, targetShape, impact⟩
  rcases outranked.source with ⟨_, sourceRow, _, sourceFound, _, sourceShape, _⟩
  rcases outranked with ⟨_, _, _, lower⟩
  have rows : sourceRow = targetRow := by
    rw [same] at sourceFound
    exact Option.some.inj (sourceFound.symm.trans targetFound)
  have sourceImpact : source.impact = some sourceRow.impact := by
    rw [sourceShape]
    rfl
  have targetImpact : target.impact = some targetRow.impact := by
    rw [targetShape]
    rfl
  rw [targetImpact, ← rows, ← sourceImpact] at impact
  rw [impact] at lower
  exact lt_irrefl _ lower

variable (reading)

/-! ## Transactions -/

/-- Components are taken out of an incident into a new one, in two transactions. -/
inductive Extraction (components : List Component) (old : Incident) (impact : Int)
    (text : String) (description : Option String) (store : Store) : Incident → Store → Prop
  | intro {timeNow : Time} {saving moving : Choice} {saved : Incident}
      {copies : Incident × Incident} {middle final : Store} (nonempty : components ≠ [])
      (clock : reading timeNow store)
      (saves : (EventWrite.saveIncident (extractedIncident timeNow components impact text
        description)).exec saving store = .ok (saved, middle))
      (moves : (EventWrite.extractComponents components
        (extractionTarget timeNow components old saved)
        (extractionSource timeNow components (extractionTarget timeNow components old saved)
          old)).exec moving middle = .ok (copies, final)) :
      Extraction components old impact text description store copies.2 final

/-- What a system creation does about one component, and what it answers for it. -/
inductive SystemStep (data : IncidentData) (component : Component) (store : Store) :
    ProcessComponentResp → Store → Prop
  | kept {events : List Incident} {event : Incident} {error : Option String}
      (listed : ListsOf reading component.id store events)
      (settled : error = none → scanEvents none events = .regular event ∨
        scanEvents none events = .system event ∧ data.impact ≤ event.impact.getD 0) :
      SystemStep data component store ⟨component.id, event.id, error⟩ store
  | added {target updated : Incident} {status : IncidentStatus} {choice : Choice} {final : Store}
      (unused : ListsOf reading component.id store [])
      (level : OnLevel reading data.impact store (some target))
      (commits : (EventWrite.addComponent target component status).exec choice store =
        .ok (updated, final)) :
      SystemStep data component store ⟨component.id, updated.id, none⟩ final
  | created {created : Incident} {choice : Choice} {final : Store}
      (unused : ListsOf reading component.id store [])
      (level : OnLevel reading data.impact store none)
      (commits : (EventWrite.createEvent none (systemIncident data component) none).exec choice
        store = .ok (created, final)) :
      SystemStep data component store ⟨component.id, created.id, none⟩ final
  | moved {source target : Incident} {named : Component} {timeNow : Time}
      {copies : Incident × Incident} {choice : Choice} {final : Store}
      (outranked : Outranked reading data component source store)
      (level : OnLevel reading data.impact store (some target)) (clock : reading timeNow store)
      (same : named.id = component.id)
      (commits : (EventWrite.moveComponent named
        (releaseComponent timeNow named source target (target.components.length == 1))
        (receiveComponent timeNow named source target)
        (target.components.length == 1)).exec choice store = .ok (copies, final)) :
      SystemStep data component store ⟨component.id, copies.2.id, none⟩ final
  | raised {source : Incident} {timeNow : Time} {choice : Choice} {final : Store}
      (outranked : Outranked reading data component source store)
      (level : OnLevel reading data.impact store none) (clock : reading timeNow store)
      (commits : (EventWrite.increaseImpact timeNow (raisedIncident timeNow source data.impact)
        (impactChangedStatus timeNow source data.impact)).exec choice store = .ok ((), final)) :
      SystemStep data component store ⟨component.id, source.id, none⟩ final
  | split {source result marked : Incident} {choice : Choice} {middle final : Store}
      (outranked : Outranked reading data component source store)
      (level : OnLevel reading data.impact store none)
      (extraction : Extraction reading [component] source data.impact data.title
        (some data.description) store result middle)
      (commits : (EventWrite.modifyIncident { result with system := true }).exec choice middle =
        .ok (marked, final)) :
      SystemStep data component store ⟨component.id, marked.id, none⟩ final

inductive SystemSteps (data : IncidentData) :
    List Component → Store → List ProcessComponentResp → Store → Prop
  | done {store : Store} : SystemSteps data [] store [] store
  | step {component : Component} {components : List Component} {entry : ProcessComponentResp}
      {entries : List ProcessComponentResp} {store middle final : Store}
      (first : SystemStep reading data component store entry middle)
      (rest : SystemSteps data components middle entries final) :
      SystemSteps data (component :: components) store (entry :: entries) final

/-- A listed event that a component is not moved out of. -/
def PassedOver (component : Component) (opened : Incident) : Prop :=
  shouldSkipIncident opened = true ∨ component.id ∉ opened.componentIds

/-- A regular creation moves components into the incident it has created, each
out of the first listed incident that holds it. -/
inductive Relocates : List Component → Incident → List Incident → Store → Store → Prop
  | done {incIn : Incident} {opened : List Incident} {store : Store} :
      Relocates [] incIn opened store store
  | passed {component : Component} {components : List Component} {incIn : Incident}
      {opened : List Incident} {store final : Store}
      (passes : ∀ copy ∈ opened, PassedOver component copy)
      (rest : Relocates components incIn opened store final) :
      Relocates (component :: components) incIn opened store final
  | moved {component named : Component} {components : List Component}
      {incIn old : Incident} {before after : List Incident} {timeNow : Time} {choice : Choice}
      {copies : Incident × Incident} {store middle final : Store}
      (passes : ∀ copy ∈ before, PassedOver component copy) (type : old.type = .incident)
      (holds : component.id ∈ old.componentIds) (clock : reading timeNow store)
      (same : named.id = component.id)
      (commits : (EventWrite.moveComponent named
        (releaseComponent timeNow named old incIn (old.components.length == 1))
        (receiveComponent timeNow named old incIn) (old.components.length == 1)).exec choice
        store = .ok (copies, middle))
      (rest : Relocates components copies.2 (before ++ copies.1 :: after) middle final) :
      Relocates (component :: components) incIn (before ++ old :: after) store final

/-- The entries that name one event for each component. -/
def entriesFor (id : Nat) (components : List Nat) : List ProcessComponentResp :=
  components.map (fun component => { componentId := component, incidentId := id, error := none })

/-- No entry of such an answer reports a maintenance. -/
theorem entriesFor_noConflict (id : Nat) (components : List Nat) :
    (entriesFor id components).any
      (fun entry => entry.error == some creationMaintenanceExists) = false := by
  rw [List.any_eq_false]
  intro entry member
  rcases List.mem_map.mp member with ⟨component, _, rfl⟩
  simp

/-- What a creation does when it succeeds, and its answer.  A regular one names the
new event for each requested component, in their order. -/
inductive Created (deployment : Deployment) (caller : Caller) (data : IncidentData)
    (store : Store) : Response → Store → Prop
  | system {components : List Component} {entries : List ProcessComponentResp} {conflict : Bool}
      {final : Store} (flag : data.system = some true) (type : data.type = .incident)
      (valid : ValidCreation data)
      (steps : SystemSteps reading (withDefaultDescription data) components store entries final)
      (fetched : components.map Component.id = data.components) :
      Created deployment caller data store (.created entries conflict) final
  | regular {prepared : IncidentData} {opened : List Incident} {created : Incident}
      {choice : Choice} {middle final : Store} (regular : data.system ≠ some true)
      (valid : ValidCreation data) (prepares : Prepared caller data prepared)
      (listed : ListsActive reading store opened)
      (commits : (EventWrite.createEvent deployment.publisher
        (regularIncident prepared caller.userID) caller.userID).exec choice store =
        .ok (created, middle))
      (moves : shouldSkipComponentMovement opened prepared = true ∧ middle = final ∨
        shouldSkipComponentMovement opened prepared = false ∧
          Relocates reading created.components created opened middle final) :
      Created deployment caller data store
        (.created (entriesFor store.incidents.nextId data.components) false) final

theorem regularIncident_componentIds (data : IncidentData) (userID : Option String) :
    (regularIncident data userID).componentIds = data.components :=
  (List.map_map ..).trans (List.map_id _)

/-- An incident has an impact, so components stay only when no event is active,
and then every component is passed over. -/
theorem relocates_of_moves {data : IncidentData} {created : Incident} {opened : List Incident}
    {middle final : Store} (valid : ValidCreation data) (type : data.type = .incident)
    (moves : shouldSkipComponentMovement opened data = true ∧ middle = final ∨
      shouldSkipComponentMovement opened data = false ∧
        Relocates reading created.components created opened middle final) :
    Relocates reading created.components created opened middle final := by
  rcases moves with ⟨skipped, rfl⟩ | ⟨_, moves⟩
  · have impaired := (valid.impaired type).1
    have empty : opened = [] := by
      unfold shouldSkipComponentMovement at skipped
      have impaired : (data.impact == 0) = false := by
        rw [beq_eq_false_iff_ne]
        omega
      rw [impaired, type, Bool.or_false] at skipped
      simpa using skipped
    rw [empty]
    induction created.components with
    | nil => exact .done
    | cons component components ih =>
      exact .passed (List.forall_mem_nil _) ih
  · exact moves

/-! ## The programs -/

/-- The setting of the discipline, for the facts that hold in every setting. -/
def soloSetting : Setting where
  toDiscipline := solo reading
  across _ _ := True
  tracked _ _ := True
  current _ _ _ := True

variable {reading}

theorem yields_namedComponent (component : Component) (store : Store) :
    (solo reading).Yields (fun named later => store = later ∧ named.id = component.id)
      (namedComponent component) store := by
  unfold namedComponent
  split_ifs
  · apply (Solo.yields_read _ store).mono
    rintro named later _ ⟨rfl, rank, answer⟩
    exact ⟨rfl, component_eval answer⟩
  · exact Regime.yields_pure (fun _ same _ => ⟨same, rfl⟩)

theorem yields_moveComponent (component : Component) (old new : Incident) (close : Bool)
    (store : Store) :
    (solo reading).Yields (fun copies later => ∃ timeNow named choice, reading timeNow store ∧
        named.id = component.id ∧
        (moveStatement timeNow named old new close).exec choice store = .ok (copies, later))
      (moveComponentFromOldToAnotherIncident component old new close) store := by
  apply (Solo.yields_currentTime store).bind
  rintro timeNow later _ ⟨rfl, clock⟩
  apply (yields_namedComponent component store).bind
  rintro named later _ ⟨rfl, same⟩
  apply (Solo.yields_write _ store).mono
  rintro copies later _ ⟨choice, commits⟩
  exact ⟨timeNow, named, choice, clock, same, commits⟩

theorem yields_extraction (components : List Component) (old : Incident) (impact : Int)
    (text : String) (description : Option String) (store : Store) :
    (solo reading).Yields (fun result later =>
        Extraction reading components old impact text description store result later)
      (extractComponentsToNewIncident components old impact text description) store := by
  unfold extractComponentsToNewIncident
  split_ifs with empty
  · exact Regime.yields_fail _
  · apply (Solo.yields_currentTime store).bind
    rintro timeNow later _ ⟨rfl, clock⟩
    apply (Solo.yields_write _ store).bind
    rintro saved middle _ ⟨saving, saves⟩
    apply (Solo.yields_write _ middle).bind
    rintro copies final _ ⟨moving, moves⟩
    exact Solo.yields_pure (.intro empty clock saves moves)

section System

variable {data : IncidentData} {component : Component} {store : Store}

theorem yields_onLevel (impact : Int) (store : Store) :
    (solo reading).Yields (fun incidents later => store = later ∧
        OnLevel reading impact store (findSystemIncident impact incidents))
      (getEventsInternal systemParams) store := by
  apply (Solo.yields_getEvents rfl ⟨rfl, rfl⟩ store).mono
  rintro incidents later _ ⟨rfl, time, ⟨clock, _⟩, lists⟩
  exact ⟨rfl, time, incidents, clock, lists, rfl⟩

theorem yields_addComponent (unused : ListsOf reading component.id store []) :
    (solo reading).Yields (fun incident later =>
        SystemStep reading data component store ⟨component.id, incident.id, none⟩ later)
      (addComponentToSystemIncident component data) store := by
  apply (yields_onLevel data.impact store).bind
  rintro incidents later _ ⟨rfl, level⟩
  split
  · rename_i target found
    rw [found] at level
    apply (Solo.yields_currentTime store).bind
    rintro now later _ ⟨rfl, _⟩
    apply (Solo.yields_write _ store).mono
    rintro updated later _ ⟨choice, commits⟩
    exact .added unused level commits
  · rename_i none
    rw [none] at level
    apply (Solo.yields_write _ store).mono
    rintro created later _ ⟨choice, commits⟩
    exact .created unused level commits

theorem yields_escalate {source : Incident}
    (outranked : Outranked reading data component source store) :
    (solo reading).Yields (fun incident later =>
        SystemStep reading data component store ⟨component.id, incident.id, none⟩ later)
      (moveComponentFromToSystemIncidents component data source) store := by
  apply (yields_onLevel data.impact store).bind
  rintro incidents later _ ⟨rfl, level⟩
  split
  · rename_i target found
    rw [found] at level
    apply (yields_moveComponent component source target _ store).bind
    rintro copies later _ ⟨timeNow, named, choice, clock, same, commits⟩
    exact Solo.yields_pure (.moved outranked level clock same commits)
  · rename_i none
    rw [none] at level
    split_ifs
    · apply (Solo.yields_currentTime store).bind
      rintro timeNow later _ ⟨rfl, clock⟩
      apply (Solo.yields_write _ store).bind
      rintro _ later _ ⟨choice, commits⟩
      have step := SystemStep.raised outranked level clock commits
      exact Solo.yields_pure step
    · apply (yields_extraction _ _ _ _ _ store).bind
      intro result middle _ extraction
      apply (Solo.yields_write _ middle).mono
      rintro marked later _ ⟨choice, commits⟩
      exact .split outranked level extraction commits

theorem yields_systemStep (data : IncidentData) (component : Component) (store : Store) :
    (solo reading).Yields
      (fun entry later => SystemStep reading data component store entry later)
      (processSystemIncidentComponent data component) store := by
  apply (Solo.yields_getEventsByComponentID rfl rfl store).bind
  rintro events later _ ⟨rfl, time, clock, lists⟩
  have listed : ListsOf reading component.id store events := ⟨time, clock, lists⟩
  split_ifs with none
  · apply (yields_addComponent (List.isEmpty_iff.mp none ▸ listed)).bind
    intro incident later _ step
    exact Solo.yields_pure step
  · unfold handleComponentWithExistingEvents
    split
    · exact Solo.yields_pure (.kept listed (fun unflawed => absurd unflawed (Option.some_ne_none _)))
    · rename_i event scanned
      exact Solo.yields_pure (.kept listed (fun _ => Or.inl scanned))
    · rename_i source scanned
      unfold handleSystemIncidentWithImpactComparison
      split_ifs with enough
      · exact Solo.yields_pure (.kept listed (fun _ => Or.inr ⟨scanned, enough⟩))
      · apply (yields_escalate ⟨events, listed, scanned, not_le.mp enough⟩).bind
        intro incident later _ step
        exact Solo.yields_pure step
    · exact Regime.yields_fail _

theorem yields_systemSteps (data : IncidentData) (components : List Component) (store : Store) :
    (solo reading).Yields
      (fun entries later => SystemSteps reading data components store entries later)
      (processSystemIncidentComponents data components) store := by
  induction components generalizing store with
  | nil => exact Solo.yields_pure .done
  | cons component components ih =>
    apply (yields_systemStep data component store).bind
    intro entry middle _ first
    apply (ih middle).bind
    intro others last _ rest
    exact Solo.yields_pure (.step first rest)

theorem yields_fetched (ids : List Nat) (store : Store) :
    (solo reading).Yields
      (fun components later => store = later ∧ components.map Component.id = ids)
      (fetchComponents ids) store := by
  induction ids with
  | nil =>
    exact Solo.yields_pure ⟨rfl, rfl⟩
  | cons id ids ih =>
    apply (Solo.yields_read (.component id) store).bind
    rintro component later _ ⟨rfl, rank, answer⟩
    apply ih.bind
    rintro others later _ ⟨rfl, rest⟩
    exact Solo.yields_pure ⟨rfl, by rw [List.map_cons, component_eval answer, rest]⟩

end System

section Regular

variable {store : Store}

/-- One component of a regular creation: it stays where it is, or is moved out of
the first listed incident that holds it. -/
theorem yields_relocate (component : Component) (incIn : Incident) (opened : List Incident)
    (store : Store) :
    (solo reading).Yields (fun result later =>
        (store = later ∧ result = (incIn, opened) ∧ ∀ copy ∈ opened, PassedOver component copy) ∨
        ∃ before old after timeNow named choice copies, opened = before ++ old :: after ∧
          (∀ copy ∈ before, PassedOver component copy) ∧ old.type = .incident ∧
          component.id ∈ old.componentIds ∧ reading timeNow store ∧ named.id = component.id ∧
          (moveStatement timeNow named old incIn (old.components.length == 1)).exec choice
            store = .ok (copies, later) ∧ result = (copies.2, before ++ copies.1 :: after))
      (processComponentInOpenedIncidents component incIn opened) store := by
  induction opened with
  | nil =>
    exact Solo.yields_pure (Or.inl ⟨rfl, rfl, List.forall_mem_nil _⟩)
  | cons first others ih =>
    unfold processComponentInOpenedIncidents
    split_ifs with skipped
    · have passed : PassedOver component first := by
        rcases (Bool.or_eq_true _ _).mp skipped with other | absent
        · exact Or.inl other
        · exact Or.inr (by simpa using absent)
      apply ih.bind
      intro result later _ outcome
      apply Solo.yields_pure
      rcases outcome with ⟨rfl, rfl, none⟩ |
        ⟨before, old, after, timeNow, named, choice, copies, shape, passes, type, holds, clock,
          same, commits, rfl⟩
      · exact Or.inl ⟨rfl, rfl, List.forall_mem_cons.mpr ⟨passed, none⟩⟩
      · refine Or.inr ⟨first :: before, old, after, timeNow, named, choice, copies, ?_,
          List.forall_mem_cons.mpr ⟨passed, passes⟩, type, holds, clock, same, commits, rfl⟩
        rw [shape]
        rfl
    · rw [Bool.or_eq_true, not_or] at skipped
      have type : first.type = .incident := by
        have kind := skipped.1
        unfold shouldSkipIncident at kind
        cases known : first.type with
        | incident => rfl
        | maintenance | information => simp [known] at kind
      have holds : component.id ∈ first.componentIds := by simpa using skipped.2
      apply (yields_moveComponent component first incIn _ store).bind
      rintro copies middle _ ⟨timeNow, named, choice, clock, same, commits⟩
      exact Solo.yields_pure (Or.inr ⟨[], first, others, timeNow, named, choice, copies, rfl,
        List.forall_mem_nil _, type, holds, clock, same, commits, rfl⟩)

theorem yields_relocates (components : List Component) (incIn : Incident)
    (opened : List Incident) (store : Store) :
    (solo reading).Yields (fun result later =>
        Relocates reading components incIn opened store later ∧
          result = entriesFor incIn.id (components.map Component.id))
      (processComponentMovement components incIn opened) store := by
  induction components generalizing incIn opened store with
  | nil => exact Solo.yields_pure ⟨.done, rfl⟩
  | cons component components ih =>
    apply (yields_relocate component incIn opened store).bind
    intro result middle _ outcome
    apply (ih result.1 result.2 middle).bind
    rintro others later _ ⟨rest, rfl⟩
    apply Solo.yields_pure
    rcases outcome with ⟨rfl, rfl, none⟩ |
      ⟨before, old, after, timeNow, named, choice, copies, rfl, passes, type, holds, clock, same,
        commits, rfl⟩
    · exact ⟨.passed none rest, rfl⟩
    · refine ⟨.moved passes type holds clock same commits rest, ?_⟩
      rcases moveComponentTx_ok commits with ⟨_, _, statuses, _, shape⟩
      rw [shape]
      rfl

end Regular

/-- A creation yields what its route yields on the prepared request. -/
theorem yields_postEvent {deployment : Deployment} {caller : Caller} {data : IncidentData}
    {post : Response → Store → Prop} (route : CreationRoute)
    (routed : ∀ prepared, ValidCreation data → Prepared caller data prepared →
      (solo reading).Yields (fun result later => post (.created result
          (result.any (fun entry => entry.error == some creationMaintenanceExists))) later)
        (routeIncidentCreation deployment caller prepared) store) :
    (solo reading).Yields post (postEvent deployment route caller data) store := by
  have passes : Reads (route.middleware caller) := by
    cases route with
    | events => trivial
    | incidents => exact reads_denyReporterScope caller
  apply (Solo.yields_reads (reads_rbacAuthorization caller) store).bind
  rintro _ later _ rfl
  apply (Solo.yields_reads passes store).bind
  rintro _ later _ rfl
  have named : (soloSetting reading).Yields (fun _ later => store = later ∧
      data.components ≠ [] ∧ ∀ id ∈ data.components, id ≠ 0)
      (validateComponents data.components) store := Setting.yields_validateComponents _ store
  apply named.bind
  rintro _ later _ ⟨rfl, nonempty, nonzero⟩
  unfold postIncidentHandler
  split_ifs with unbound
  · exact Regime.yields_fail _
  · have bound : data.bound = true := by simpa using unbound
    have prepared : (soloSetting reading).Yields (fun prepared _ => ValidCreation data ∧
        Prepared caller data prepared) (prepareIncidentCreate deployment caller data) store :=
      Setting.yields_prepareIncidentCreate bound ⟨nonempty, nonzero⟩ store
    apply ((Solo.yields_reads (reads_prepareIncidentCreate deployment caller data) store).and
      prepared).bind
    rintro prepared later _ ⟨rfl, valid, prepares⟩
    apply (routed prepared valid prepares).bind
    intro result last _ held
    exact Solo.yields_pure held

theorem yields_created (deployment : Deployment) (route : CreationRoute) (caller : Caller)
    (data : IncidentData) (store : Store) :
    (solo reading).Yields
      (fun response later => Created reading deployment caller data store response later)
      (postEvent deployment route caller data) store := by
  apply yields_postEvent route
  intro prepared valid prepares
  have sameSystem : prepared.system = data.system := by rw [prepares.same]
  have sameType : prepared.type = data.type := by rw [prepares.same]
  unfold routeIncidentCreation
  split_ifs with system other
  · exact Regime.yields_fail _
  · have incident : data.type = .incident := sameType ▸ not_not.mp other
    have same : prepared = data := prepares.other (by rw [incident]; decide)
    subst same
    refine Regime.Yields.mapError ?_
    apply (yields_fetched prepared.components store).bind
    rintro components later _ ⟨rfl, fetched⟩
    apply (yields_systemSteps _ components store).mono
    intro entries later _ steps
    exact .system system incident valid steps fetched
  · refine Regime.Yields.mapError ?_
    apply (Solo.yields_getEvents rfl ⟨rfl, rfl⟩ store).bind
    rintro opened later _ ⟨rfl, listed⟩
    apply (Solo.yields_write _ store).bind
    rintro created middle _ ⟨choice, commits⟩
    have regular : data.system ≠ some true := sameSystem ▸ system
    rcases created_row commits with ⟨newId, _, _, _, components, _⟩
    have ids : created.components.map Component.id = data.components := by
      have sameComponents : prepared.components = data.components := by rw [prepares.same]
      rw [components, ← sameComponents]
      exact regularIncident_componentIds prepared caller.userID
    split_ifs with skip
    · have answer := entriesFor_noConflict created.id (created.components.map Component.id)
      have effect := Created.regular regular valid prepares listed commits (Or.inl ⟨skip, rfl⟩)
      rw [← ids, ← newId, ← answer, entriesFor, List.map_map] at effect
      exact Solo.yields_pure effect
    · apply (yields_relocates created.components created opened middle).mono
      rintro result later _ ⟨moves, rfl⟩
      rw [entriesFor_noConflict, ids, newId]
      exact .regular regular valid prepares listed commits (Or.inr ⟨by simpa using skip, moves⟩)

end StatusDashboard.Sequence
