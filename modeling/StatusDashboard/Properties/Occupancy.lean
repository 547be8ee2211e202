import StatusDashboard.Properties.Relocation

namespace StatusDashboard.Properties

open Event Storage Tables Handlers Process Provenance

/-!
# Incidents keep a component

An incident that gives its last component away has to be closed by the same
move, which leaves the component with it.  Creations and extractions respect
this, and regular moves do.  A system move decides by the number of components
of its target: it leaves a source open and empty when it takes the only
component away and the target does not hold exactly one.
-/

variable {store final : Store}

/-- Every incident, open or closed, has a component. -/
def Occupied (store : Store) : Prop :=
  ∀ id row, store.incidents.get? id = some row → row.type = .incident →
    ∃ component, component ∈ store.componentIds id

/-- No open incident is without components. -/
def NoEmptyIncident (store : Store) : Prop :=
  ∀ id, Ongoing store id → store.componentIds id ≠ []

/-- A move leaves the source a component or closes it. -/
def MoveLeaves (store : Store) (component source target : Nat) : Prop :=
  (store.componentIds target).length = 1 ∨ ∃ other ∈ store.componentIds source, other ≠ component

instance (store : Store) (component source target : Nat) :
    Decidable (MoveLeaves store component source target) :=
  inferInstanceAs (Decidable (_ ∨ _))

/-- The condition on a step of an activity: it concerns system creations only. -/
def StepLeaves (activity : Activity) (event : DbEvent) : Prop :=
  match activity with
  | .post _ _ data => SystemMoves MoveLeaves data event
  | _ => True

instance (activity : Activity) (event : DbEvent) : Decidable (StepLeaves activity event) :=
  match activity with
  | .post _ _ data => inferInstanceAs (Decidable (SystemMoves MoveLeaves data event))
  | .patch _ _ _ | .extract _ _ _ | .patchText _ _ _ _ | .checkMaintenance | .checkInfo
  | .drain _ _ | .redrive _ | .retention _ => .isTrue trivial

theorem stepLeaves_of_no_movement {activity : Activity} {event : DbEvent}
    (still : movement event = none) : StepLeaves activity event := by
  cases activity with
  | post => exact systemMoves_of_no_movement still
  | _ => trivial

theorem Occupied.noEmptyIncident (occupied : Occupied store) :
    NoEmptyIncident store := by
  rintro id ⟨row, found, type, _⟩ empty
  rcases occupied id row found type with ⟨component, held⟩
  rw [empty] at held
  cases held

theorem Occupied.sameEvents (occupied : Occupied store) (same : SameEvents store final) :
    Occupied final := by
  intro id row found type
  rw [same.incidents] at found
  rw [componentIds_of_relation same.relation]
  exact occupied id row found type

/-! ## Writes that leave a component -/

/-- A write that unlinks nothing and inserts no empty incident. -/
theorem Occupied.grown {β : Type} {choice : Choice} {statement : EventWrite β}
    (occupied : Occupied store) (footprint : Footprint choice statement store final)
    (evolves : Evolves store final) (grows : ∀ id other, other ∈ store.componentIds id →
      statement.links store.incidents.nextId id other (other ∈ store.componentIds id))
    (fresh : statement.inserted choice ≠ none → ∃ component,
      statement.links store.incidents.nextId store.incidents.nextId component
        (component ∈ store.componentIds store.incidents.nextId)) : Occupied final := by
  intro id later present type
  cases found : store.incidents.get? id with
  | some row =>
    have sameType := evolves.type_eq found present
    rcases occupied id row found (sameType.symm.trans type) with ⟨component, held⟩
    exact ⟨component, (footprint.linked id component).mpr (grows id component held)⟩
  | none =>
    rw [footprint.fresh id found] at present
    split_ifs at present with new
    subst new
    have inserts : statement.inserted choice ≠ none := by
      rw [present]
      exact Option.some_ne_none later
    rcases fresh inserts with ⟨component, linked⟩
    exact ⟨component, (footprint.linked _ component).mpr linked⟩

/-- A relocation keeps incidents occupied exactly when the source keeps a component. -/
theorem Occupied.relocated_iff {source target : Nat} {moved gained : Nat → Prop}
    {keeps opens : Prop} {row : IncidentRow} (occupied : Occupied store)
    (relocated : Relocated source target moved gained keeps opens store final)
    (evolves : Evolves store final) (old : ∀ id later, final.incidents.get? id = some later →
      ∃ earlier, store.incidents.get? id = some earlier)
    (found : store.incidents.get? source = some row) (type : row.type = .incident)
    (gains : ∃ component, gained component) :
    Occupied final ↔ ∃ component ∈ store.componentIds source, ¬ moved component := by
  constructor
  · intro still
    rcases evolves.rows source row found with ⟨later, present, sameType, _⟩
    rcases still source later present (sameType.trans type) with ⟨component, held⟩
    exact ⟨component, (relocated.released component).mp held⟩
  · rintro ⟨kept, held, stays⟩ id later present laterType
    by_cases isSource : id = source
    · subst isSource
      exact ⟨kept, (relocated.released kept).mpr ⟨held, stays⟩⟩
    · by_cases isTarget : id = target
      · subst isTarget
        rcases gains with ⟨component, gained⟩
        exact ⟨component, (relocated.received component).mpr gained⟩
      · rcases old id later present with ⟨earlier, stored⟩
        have sameType := evolves.type_eq stored present
        rcases occupied id earlier stored (sameType.symm.trans laterType) with ⟨component, linked⟩
        exact ⟨component, (relocated.elsewhere id isSource isTarget component).mpr linked⟩

/-- A write that inserts nothing leaves the stored events. -/
theorem stored_of_footprint {β : Type} {choice : Choice} {statement : EventWrite β}
    (footprint : Footprint choice statement store final)
    (inserts : statement.inserted choice = none) (id : Nat) (later : IncidentRow)
    (present : final.incidents.get? id = some later) :
    ∃ earlier, store.incidents.get? id = some earlier := by
  cases found : store.incidents.get? id with
  | some row => exact ⟨row, rfl⟩
  | none =>
    rw [footprint.fresh id found, inserts] at present
    split_ifs at present

/-- A list without repetition that holds all of another one of a different
length holds something else as well. -/
theorem exists_not_mem_of_length {part whole : List Nat} (distinct : part.Nodup)
    (included : part ⊆ whole) (different : part.length ≠ whole.length) (unique : whole.Nodup) :
    ∃ other ∈ whole, other ∉ part := by
  by_contra nothing
  have all : whole ⊆ part := fun other member =>
    by_contra (fun missing => nothing ⟨other, member, missing⟩)
  have atMost := (List.subperm_of_subset distinct included).length_le
  have atLeast := (List.subperm_of_subset unique all).length_le
  exact different (le_antisymm atMost atLeast)

/-! ## The writes of all activities -/

section Activities

variable {property : DbEvent → Prop} {unaffected : Unaffected property}
variable {deployment : Deployment} {activity : Activity}

/-- An extraction takes some component and leaves another one. -/
theorem extracts_some {components : List Component} {old : Incident} {impact : Int} {text : String}
    {description : Option String}
    (extracts : (alone (fun _ => True) property unaffected).Extracts activity store components old
      impact text description) :
    (∃ component ∈ components.map Component.id, component ≠ 0) ∧
      ∃ component ∈ old.wantedIds, component ∉ components.map Component.id := by
  cases extracts with
  | @system route caller data component source store names found several =>
    rcases alone_source found with ⟨_, _, ids, holds⟩
    rcases found with ⟨_, _, _, _, reading, _⟩
    have different : [component.id].length ≠ old.componentIds.length := by
      unfold Incident.componentIds
      rw [List.length_map]
      exact Ne.symm several
    refine ⟨⟨component.id, List.mem_singleton.mpr rfl, Store.pos_of_mem_componentIds holds⟩, ?_⟩
    rcases exists_not_mem_of_length (List.nodup_singleton component.id)
      (List.cons_subset.mpr ⟨ids ▸ holds, List.nil_subset _⟩) different reading.listsOnce.1 with
      ⟨other, held, apart⟩
    exact ⟨other, mem_wantedIds.mpr ⟨held, reading.listsOnce.2 other held⟩, apart⟩
  | request fetched type distinct chosen nonempty =>
    rcases fetched with ⟨_, _, _, _, reading⟩
    rcases Setting.getComponentsToExtract_ok chosen with ⟨ids, members, different⟩
    have included : components.map Component.id ⊆ old.componentIds := by
      intro id listed
      rcases List.mem_map.mp listed with ⟨component, member, rfl⟩
      exact List.mem_map_of_mem (members component member)
    constructor
    · rcases List.exists_mem_of_ne_nil components nonempty with ⟨component, member⟩
      have listed : component.id ∈ components.map Component.id := List.mem_map_of_mem member
      exact ⟨component.id, listed, reading.listsOnce.2 _ (included listed)⟩
    · have lengths : (components.map Component.id).length ≠ old.componentIds.length := by
        unfold Incident.componentIds
        rw [List.length_map, List.length_map]
        exact different
      rcases exists_not_mem_of_length (ids.symm ▸ distinct) included lengths reading.listsOnce.1 with
        ⟨other, held, apart⟩
      exact ⟨other, mem_wantedIds.mpr ⟨held, reading.listsOnce.2 other held⟩, apart⟩

/-- A regular move closes a source it would empty. -/
theorem regularMove_leaves {named : Component} {old : Incident} (oldSync : InSync old store)
    (holds : named.id ∈ old.componentIds) (distinct : ListsOnce old) :
    ∃ component ∈ store.componentIds old.id,
      ¬ ((old.components.length == 1) = false ∧ component = named.id) := by
  by_cases single : old.components.length = 1
  · refine ⟨named.id, (oldSync.linked named.id).mpr (mem_wantedIds.mpr ⟨holds, distinct.2 _ holds⟩), ?_⟩
    simp [single]
  · have different : [named.id].length ≠ old.componentIds.length := by
      unfold Incident.componentIds
      rw [List.length_map]
      exact Ne.symm single
    rcases exists_not_mem_of_length (List.nodup_singleton named.id)
      (List.cons_subset.mpr ⟨holds, List.nil_subset _⟩) different distinct.1 with
      ⟨other, held, apart⟩
    refine ⟨other, (oldSync.linked other).mpr (mem_wantedIds.mpr ⟨held, distinct.2 _ held⟩), ?_⟩
    exact fun same => apart (List.mem_singleton.mpr same.2)

/-- Every committed write keeps incidents occupied exactly when it is no system
move that breaks `MoveLeaves`. -/
theorem issued_occupied {β : Type} {statement : EventWrite β} {choice : Choice} {value : β}
    (occupied : Occupied store)
    (issued : (alone (fun _ => True) property unaffected).Issued deployment activity store statement)
    (commits : statement.exec choice store = .ok (value, final)) :
    Occupied final ↔ StepLeaves activity (committed statement value store final) := by
  have footprint := exec_footprint commits
  have evolves := alone_evolving.issued_evolves issued commits
  cases issued with
  | regularMove regular valid names oldTracked newTracked oldSettled newSettled oldType newType
      newOngoing holds distinct apart =>
      refine iff_of_true ?_ (fun system => absurd system regular)
      have relocated := moved_relocated oldTracked newTracked oldType newType apart
        (valid.nonzero _ names) commits
      rcases oldTracked.stored with ⟨row, found, type, _⟩
      apply (occupied.relocated_iff relocated evolves (stored_of_footprint footprint rfl) found
        (type.trans oldType) ⟨_, Or.inr rfl⟩).mpr
      exact regularMove_leaves oldTracked holds distinct
  | systemMove names same sourceFound targetFound =>
    rename_i data component named source target timeNow
    rcases alone_source sourceFound with ⟨sourceSync, sourceType, _, holds⟩
    rcases alone_target targetFound with ⟨targetSync, targetType, ids, _⟩
    rcases sourceSync.stored with ⟨row, found, type, _⟩
    rw [← same] at holds
    have relocated := moved_relocated sourceSync targetSync sourceType targetType
      (alone_apart sourceFound targetFound) (Store.pos_of_mem_componentIds holds) commits
    rw [occupied.relocated_iff relocated evolves (stored_of_footprint footprint rfl) found
      (type.trans sourceType) ⟨_, Or.inr rfl⟩]
    have counted : target.components.length = (store.componentIds target.id).length := by
      rw [← ids]
      unfold Incident.componentIds
      rw [List.length_map]
    have condition : (∃ other ∈ store.componentIds source.id,
        ¬ ((target.components.length == 1) = false ∧ other = named.id)) ↔
        MoveLeaves store named.id source.id target.id := by
      unfold MoveLeaves
      rw [← counted]
      by_cases single : target.components.length = 1
      · exact iff_of_true ⟨named.id, holds, by simp [single]⟩ (Or.inl single)
      · simp [single]
    rw [condition]
    constructor
    · intro leaves _ move member
      cases member
      rw [releaseComponent_id]
      exact leaves
    · intro moves
      have leaves := moves names.system _ rfl
      rw [releaseComponent_id] at leaves
      exact leaves
  | extract extracts later inserted oldTracked savedTracked apart =>
    refine iff_of_true ?_ (stepLeaves_of_no_movement rfl)
    have oldType := alone_evolving.extracts_typed extracts
    have relocated := extracted_relocated oldTracked savedTracked oldType inserted apart commits
    rcases oldTracked.stored with ⟨row, found, type, _⟩
    rcases extracts_some extracts with ⟨⟨taken, listed, nonzero⟩, ⟨kept, held, stays⟩⟩
    exact (occupied.relocated_iff relocated evolves (stored_of_footprint footprint rfl) found
      (type.trans oldType) ⟨taken, listed, nonzero⟩).mpr
      ⟨kept, (oldTracked.linked kept).mpr held, stays⟩
  | regularCreate regular valid prepares =>
    refine iff_of_true (occupied.grown footprint evolves (fun _ _ held => Or.inl held) ?_)
      (stepLeaves_of_no_movement rfl)
    intro _
    rcases List.exists_mem_of_ne_nil _ valid.nonempty with ⟨component, named⟩
    refine ⟨component, Or.inr ⟨rfl, mem_wantedIds.mpr ⟨?_, valid.nonzero _ named⟩⟩⟩
    rw [prepares.same]
    simpa [regularIncident, Incident.componentIds] using named
  | systemCreate names =>
    refine iff_of_true (occupied.grown footprint evolves (fun _ _ held => Or.inl held) ?_)
      (stepLeaves_of_no_movement rfl)
    intro _
    exact ⟨_, Or.inr ⟨rfl, mem_wantedIds.mpr ⟨List.mem_singleton.mpr rfl,
      names.valid.nonzero _ names.named⟩⟩⟩
  | extractSave extracts =>
    refine iff_of_true (occupied.grown footprint evolves (fun _ _ held => Or.inl held) ?_)
      (stepLeaves_of_no_movement rfl)
    intro _
    rcases (extracts_some extracts).1 with ⟨component, listed, nonzero⟩
    exact ⟨component, Or.inr ⟨rfl, mem_wantedIds.mpr ⟨listed, nonzero⟩⟩⟩
  | systemAdd =>
    exact iff_of_true (occupied.grown footprint evolves (fun _ _ held => Or.inl held)
      (fun inserts => absurd rfl inserts)) (stepLeaves_of_no_movement rfl)
  | systemRaise | systemMark | patch | reopen | editText | checkMaintenance | checkInfo =>
    exact iff_of_true (occupied.grown footprint evolves (fun _ _ held => held)
      (fun inserts => absurd rfl inserts)) (stepLeaves_of_no_movement rfl)

end Activities

/-- In every session that starts without incidents, a step from a store whose
incidents all have a component leaves such a store exactly when it is no system
move that breaks `MoveLeaves`.  So as long as all steps meet the condition, no
store that is reached has an open incident without components. -/
theorem session_occupied {deployment : Deployment} {store final : Store}
    {entries : List Performed} (session : Session deployment store entries final)
    (bare : ∀ id row, store.incidents.get? id = some row → row.type ≠ .incident) :
    (∀ entry ∈ entries, ∀ event ∈ entry.events, Occupied event.before →
      (Occupied event.after ↔ StepLeaves entry.activity event)) ∧
    ((∀ entry ∈ entries, ∀ event ∈ entry.events, StepLeaves entry.activity event) →
      (∀ entry ∈ entries, ∀ event ∈ entry.events,
        NoEmptyIncident event.before ∧ NoEmptyIncident event.after) ∧ NoEmptyIncident final) := by
  have start : Occupied store := fun id row found type => absurd type (bare id row found)
  have steps := session_exact (fun same occupied => Occupied.sameEvents occupied same)
    (fun _ _ quiet => stepLeaves_of_no_movement (movement_of_quiet quiet))
    (fun _ _ _ _ _ _ _ _ _ issued commits occupied => issued_occupied occupied issued commits)
    session start
  refine ⟨steps.1, ?_⟩
  intro leaves
  rcases steps.2 leaves with ⟨held, ending⟩
  refine ⟨?_, ending.noEmptyIncident⟩
  intro entry listed event performed
  rcases held entry listed event performed with ⟨before, after⟩
  exact ⟨before.noEmptyIncident, after.noEmptyIncident⟩

/-! ## An empty incident -/

/-- Component 1 has a minor system incident, 2 and 3 share a major one.  Then
component 1 is reported as major. -/
def loneMinorReports : List (Activity × Choice) :=
  [(.post .events anAdmin (incidentReport true [1] 1), atTime 20),
    (.post .events anAdmin (incidentReport true [2, 3] 3), atTime 30),
    (.post .events anAdmin (incidentReport true [1] 3), atTime 40)]

/-- The only component is moved to the major incident, which holds two.  So the
minor incident stays open without components. -/
theorem session_occupied_fails :
    ¬ ∀ (deployment : Deployment) (store final : Store)
      (entries : List Performed), (∀ id, store.incidents.get? id = none) →
      Session deployment store entries final → (∀ entry ∈ entries, entry.outcome.isOk = true) →
      NoEmptyIncident final := by
  intro claimed
  have session := replay_session quietDeployment loneMinorReports (bareStore 3)
  have bare : ∀ id, (bareStore 3).incidents.get? id = none := fun _ => SerialTable.get?_empty _
  have occupied := claimed quietDeployment (bareStore 3) _ _ bare session (by decide +kernel) 1
    (by decide +kernel)
  exact absurd (show _ = [] by decide +kernel) occupied

/-- A minor incident with two components gives one to a major one, and a regular
report takes the other. -/
def sharedMinorReports : List (Activity × Choice) :=
  [(.post .events anAdmin (incidentReport true [1, 2] 1), atTime 20),
    (.post .events anAdmin (incidentReport true [3, 4] 3), atTime 30),
    (.post .events anAdmin (incidentReport true [1] 3), atTime 40),
    (.post .events anAdmin (incidentReport false [2] 2), atTime 50)]

theorem session_occupied_shared :
    (∀ entry ∈ (replay quietDeployment sharedMinorReports (bareStore 4)).1, ∀ event ∈ entry.events,
      StepLeaves entry.activity event) ∧
    (∃ entry ∈ (replay quietDeployment sharedMinorReports (bareStore 4)).1, ∃ event ∈ entry.events,
      movement event = some (1, 1, 2)) ∧
    NoEmptyIncident (replay quietDeployment sharedMinorReports (bareStore 4)).2 := by
  have leaves : ∀ entry ∈ (replay quietDeployment sharedMinorReports (bareStore 4)).1,
      ∀ event ∈ entry.events, StepLeaves entry.activity event := by decide +kernel
  have session := replay_session quietDeployment sharedMinorReports (bareStore 4)
  have bare : ∀ id row, (bareStore 4).incidents.get? id = some row → row.type ≠ .incident := by
    intro id row found
    exact absurd (found.symm.trans (SerialTable.get?_empty id)) (Option.some_ne_none row)
  exact ⟨leaves, by decide +kernel, ((session_occupied session bare).2 leaves).2⟩

end StatusDashboard.Properties
