import StatusDashboard.Properties.Relocation

namespace StatusDashboard.Properties

open Event Storage Tables Handlers Process Provenance

/-!
# Components keep an open incident

A component is covered while some ongoing incident holds it.  Of all writes a
creation makes, only the move of a system creation can lose a component: it
closes the source when the target holds exactly one component, whatever the
source still holds.  `MoveKeeps` is the exact condition on the store before the
move, and a creation whose moves all meet it keeps every component covered.
-/

variable {store final : Store}

def Covered (store : Store) (component : Nat) : Prop :=
  HeldBy store (Ongoing store) component

instance (store : Store) (component : Nat) : Decidable (Covered store component) :=
  inferInstanceAs (Decidable (HeldBy store (Ongoing store) component))

/-- Covered by an incident other than the source of a move. -/
def CoveredBesides (store : Store) (source component : Nat) : Prop :=
  HeldBy store (fun id => id ≠ source ∧ Ongoing store id) component

instance (store : Store) (source component : Nat) :
    Decidable (CoveredBesides store source component) :=
  inferInstanceAs (Decidable (HeldBy store _ component))

/-- An incident that is loaded without an end date. -/
def ReadsOpen (store : Store) (id : Nat) : Prop :=
  ∃ row ∈ store.incidents.get? id, optTimePtr row.endDate = none

instance (store : Store) (id : Nat) : Decidable (ReadsOpen store id) :=
  inferInstanceAs (Decidable (∃ row ∈ store.incidents.get? id, _))

/-- No component depends on what a move takes away: a component of the source
that leaves it, because it is the moved one or because the target holds exactly
one component, is held by the open target afterwards or by a third incident. -/
def MoveKeeps (store : Store) (component source target : Nat) : Prop :=
  Ongoing store source → ∀ other ∈ store.componentIds source,
    (store.componentIds target).length = 1 ∨ other = component →
      CoveredBesides store source other ∨
        ReadsOpen store target ∧ (other ∈ store.componentIds target ∨ other = component)

instance (store : Store) (component source target : Nat) :
    Decidable (MoveKeeps store component source target) :=
  inferInstanceAs (Decidable (Ongoing store source → ∀ other ∈ store.componentIds source, _))

/-- All components stay covered. -/
def KeepsCoverage (store final : Store) : Prop :=
  ∀ component, Covered store component → Covered final component

/-! ## Writes that cover at least as much -/

theorem keepsCoverage_of_relocation (ongoing : ∀ id, Ongoing store id → Ongoing final id)
    (linked : ∀ id component, Ongoing store id → component ∈ store.componentIds id →
      component ∈ final.componentIds id ∨ Covered final component) :
    KeepsCoverage store final := by
  rintro component ⟨id, opened, held⟩
  rcases linked id component opened held with still | covered
  · exact ⟨id, ongoing id opened, still⟩
  · exact covered

/-- A write that ends no incident and unlinks nothing. -/
theorem keepsCoverage_of_footprint {β : Type} {choice : Choice} {statement : EventWrite β}
    (footprint : Footprint choice statement store final)
    (rows : ∀ id ∈ statement.targets, ∀ row, store.incidents.get? id = some row →
      row.type = .incident → row.endDate = none →
        (statement.rewritten choice id row).type = .incident ∧
          (statement.rewritten choice id row).endDate = none)
    (links : ∀ id other, other ∈ store.componentIds id →
      statement.links store.incidents.nextId id other (other ∈ store.componentIds id)) :
    KeepsCoverage store final := by
  apply keepsCoverage_of_relocation
  · rintro id ⟨row, found, type, ending⟩
    rw [ongoing_of_row (footprint.rows id row found)]
    by_cases target : id ∈ statement.targets
    · exact rows id target row found type ending
    · rw [EventWrite.rewritten_of_not_target target]
      exact ⟨type, ending⟩
  · intro id component _ held
    rw [footprint.linked]
    exact Or.inl (links id component held)

/-- Giving components to an open incident covers them. -/
theorem keepsCoverage_of_extraction {source target : Nat} {moved gained : Nat → Prop} {keeps : Prop}
    (relocated : Relocated source target moved gained keeps True store final)
    (kept : Ongoing store source → keeps)
    (gains : ∀ other, other ∈ store.componentIds source ∧ moved other ∨
      other ∈ store.componentIds target → gained other) : KeepsCoverage store final := by
  have targetOpen := relocated.targetOpen.mpr trivial
  apply keepsCoverage_of_relocation
  · intro id opened
    by_cases isSource : id = source
    · subst isSource
      exact relocated.sourceOpen.mpr (kept opened)
    · by_cases isTarget : id = target
      · exact isTarget ▸ targetOpen
      · exact (relocated.othersOpen id isSource isTarget).mpr opened
  · intro id component _ held
    by_cases isSource : id = source
    · subst isSource
      by_cases leaves : moved component
      · refine Or.inr ⟨target, targetOpen, ?_⟩
        exact (relocated.received component).mpr (gains component (Or.inl ⟨held, leaves⟩))
      · exact Or.inl ((relocated.released component).mpr ⟨held, leaves⟩)
    · by_cases isTarget : id = target
      · subst isTarget
        exact Or.inl ((relocated.received component).mpr (gains component (Or.inr held)))
      · exact Or.inl ((relocated.elsewhere id isSource isTarget component).mpr held)

/-! ## Moves -/

/-- Exactly when a move keeps all components covered. -/
theorem keepsCoverage_move_iff {source target component : Nat} {close : Bool}
    {sourceReads targetReads : Prop}
    (relocated : Relocated source target (fun other => close = false ∧ other = component)
      (fun other => other ∈ store.componentIds target ∨ other = component)
      (close = false ∧ sourceReads) targetReads store final)
    (sourceOpen : Ongoing store source → sourceReads)
    (targetOpen : Ongoing store target → targetReads) :
    KeepsCoverage store final ↔
      (Ongoing store source → ∀ other ∈ store.componentIds source,
        close = true ∨ other = component →
          CoveredBesides store source other ∨
            targetReads ∧ (other ∈ store.componentIds target ∨ other = component)) := by
  have besides : ∀ other, CoveredBesides store source other → Covered final other := by
    rintro other ⟨id, ⟨notSource, opened⟩, held⟩
    by_cases isTarget : id = target
    · subst isTarget
      exact ⟨id, relocated.targetOpen.mpr (targetOpen opened),
        (relocated.received other).mpr (Or.inl held)⟩
    · exact ⟨id, (relocated.othersOpen id notSource isTarget).mpr opened,
        (relocated.elsewhere id notSource isTarget other).mpr held⟩
  constructor
  · intro keeps opened other held leaves
    rcases keeps other ⟨source, opened, held⟩ with ⟨id, later, linked⟩
    by_cases isSource : id = source
    · subst isSource
      have stays := (relocated.sourceOpen.mp later).1
      have remains := ((relocated.released other).mp linked).2
      rcases leaves with closed | same
      · rw [stays] at closed
        cases closed
      · exact absurd ⟨stays, same⟩ remains
    · by_cases isTarget : id = target
      · subst isTarget
        exact Or.inr ⟨relocated.targetOpen.mp later, (relocated.received other).mp linked⟩
      · exact Or.inl ⟨id, ⟨isSource, (relocated.othersOpen id isSource isTarget).mp later⟩,
          (relocated.elsewhere id isSource isTarget other).mp linked⟩
  · rintro condition other ⟨id, opened, held⟩
    by_cases isSource : id = source
    · subst isSource
      by_cases leaves : close = true ∨ other = component
      · rcases condition opened other held leaves with third | ⟨reads, gained⟩
        · exact besides other third
        · exact ⟨target, relocated.targetOpen.mpr reads, (relocated.received other).mpr gained⟩
      · rw [not_or, Bool.not_eq_true] at leaves
        refine ⟨id, relocated.sourceOpen.mpr ⟨leaves.1, sourceOpen opened⟩, ?_⟩
        exact (relocated.released other).mpr ⟨held, fun moved => leaves.2 moved.2⟩
    · exact besides other ⟨id, ⟨isSource, opened⟩, held⟩

/-! ## Creations -/

theorem reads_open {copy : Incident} (sync : InSync copy store) (opened : Ongoing store copy.id) :
    copy.endDate = none := by
  rcases sync.stored with ⟨row, found, _, _, ending⟩
  exact ending ((ongoing_of_row found).mp opened).2

section Creation

variable {property : DbEvent → Prop} {unaffected : Unaffected property}
variable {deployment : Deployment} {route : CreationRoute} {caller : Caller} {data : IncidentData}

variable {choice : Choice}

/-- A regular creation closes a source only when it takes its last component. -/
theorem regularMove_keepsCoverage {named : Component} {timeNow : Time} {old new : Incident}
    {moved : Incident × Incident} (oldSync : InSync old store) (newSync : InSync new store)
    (oldType : old.type = .incident) (newType : new.type = .incident)
    (newOngoing : new.endDate = none) (nonzero : named.id ≠ 0) (holds : named.id ∈ old.componentIds)
    (apart : old.id ≠ new.id)
    (commits : (moveStatement timeNow named old new (old.components.length == 1)).exec choice
      store = .ok (moved, final)) : KeepsCoverage store final := by
  have relocated := moved_relocated oldSync newSync oldType newType apart nonzero commits
  rw [keepsCoverage_move_iff relocated (reads_open oldSync) (reads_open newSync)]
  intro _ other held leaves
  refine Or.inr ⟨newOngoing, Or.inr ?_⟩
  rcases leaves with closed | same
  · rw [oldSync.linked, mem_wantedIds] at held
    rw [beq_iff_eq] at closed
    unfold Incident.componentIds at held holds
    rcases List.length_eq_one_iff.mp ((List.length_map Component.id).trans closed) with ⟨only, shape⟩
    rw [shape, List.mem_singleton] at held holds
    exact held.1.trans holds.symm
  · exact same

/-- A system creation closes the source when the target has one component. -/
theorem systemMove_keepsCoverage {component named : Component} {source target : Incident}
    {timeNow : Time} {moved : Incident × Incident} (same : named.id = component.id)
    (sourceFound : (alone (fun _ => True) property unaffected).Source data component source store)
    (targetFound : (alone (fun _ => True) property unaffected).Target data target store)
    (commits : (moveStatement timeNow named source target (target.components.length == 1)).exec
      choice store = .ok (moved, final)) :
    KeepsCoverage store final ↔ MoveKeeps store named.id source.id target.id := by
  rcases alone_source sourceFound with ⟨sourceSync, sourceType, _, holds⟩
  rcases alone_target targetFound with ⟨targetSync, targetType, ids, row, found, ending⟩
  have apart := alone_apart sourceFound targetFound
  have nonzero : named.id ≠ 0 := same ▸ Store.pos_of_mem_componentIds holds
  have relocated := moved_relocated sourceSync targetSync sourceType targetType apart nonzero commits
  have closes : (target.components.length == 1) = true ↔
      (store.componentIds target.id).length = 1 := by
    rw [beq_iff_eq, ← ids]
    unfold Incident.componentIds
    rw [List.length_map]
  have reads : target.endDate = none ↔ ReadsOpen store target.id := by
    unfold ReadsOpen
    rw [ending, found]
    simp
  rw [keepsCoverage_move_iff relocated (reads_open sourceSync) (reads_open targetSync), closes, reads]
  rfl

/-- A creation never ends an incident by adding to it, raising it or extracting
from it. -/
theorem creation_keepsCoverage {β : Type} {statement : EventWrite β} {value : β}
    (issued : (alone (fun _ => True) property unaffected).Issued deployment
      (.post route caller data) store statement)
    (commits : statement.exec choice store = .ok (value, final)) :
    KeepsCoverage store final ↔
      SystemMoves MoveKeeps data (committed statement value store final) := by
  have footprint := exec_footprint commits
  cases issued with
  | regularMove regular valid names oldTracked newTracked oldSettled newSettled oldType newType
      newOngoing holds distinct apart =>
      refine iff_of_true ?_ (fun system => absurd system regular)
      exact regularMove_keepsCoverage oldTracked newTracked oldType newType newOngoing
        (valid.nonzero _ names) holds apart commits
  | systemMove names same sourceFound targetFound =>
    rw [systemMove_keepsCoverage same sourceFound targetFound commits]
    constructor
    · intro keeps _ move member
      cases member
      rw [releaseComponent_id]
      exact keeps
    · intro moves
      have keeps := moves names.system _ rfl
      rw [releaseComponent_id] at keeps
      exact keeps
  | extract extracts later inserted oldTracked savedTracked apart =>
    refine iff_of_true ?_ (systemMoves_of_no_movement rfl)
    have relocated := extracted_relocated oldTracked savedTracked
      (alone_evolving.extracts_typed extracts) inserted apart commits
    apply keepsCoverage_of_extraction relocated (reads_open oldTracked)
    rintro other (⟨held, moved⟩ | held)
    · exact ⟨moved, Store.pos_of_mem_componentIds held⟩
    · rw [savedTracked.linked, mem_wantedIds, inserted.same] at held
      exact held
  | regularCreate | systemCreate | extractSave =>
    refine iff_of_true ?_ (systemMoves_of_no_movement rfl)
    exact keepsCoverage_of_footprint footprint (fun _ new => by cases new)
      (fun _ _ held => Or.inl held)
  | systemAdd =>
    refine iff_of_true (keepsCoverage_of_footprint footprint ?_ (fun _ _ held => Or.inl held))
      (systemMoves_of_no_movement rfl)
    intro id target row _ type ending
    rw [EventWrite.rewritten, if_pos (List.mem_singleton.mp target)]
    exact ⟨type, ending⟩
  | systemRaise names sourceFound single =>
    rename_i source timeNow
    rcases alone_source sourceFound with ⟨sync, type, _, _⟩
    refine iff_of_true (keepsCoverage_of_footprint footprint ?_ (fun _ _ held => held))
      (systemMoves_of_no_movement rfl)
    intro id target row found rowType ending
    have here := List.mem_singleton.mp target
    have reads := reads_open sync ((ongoing_of_row (here ▸ found)).mpr ⟨rowType, ending⟩)
    rw [EventWrite.rewritten, if_pos here]
    refine ⟨type, ?_⟩
    change source.endDate.or row.endDate = none
    rw [reads, ending]
    rfl
  | systemMark type valid inserted tracked fresh =>
    rename_i components incident timeNow description
    refine iff_of_true (keepsCoverage_of_footprint footprint ?_ (fun _ _ held => held))
      (systemMoves_of_no_movement rfl)
    intro id target row _ _ ending
    rw [EventWrite.rewritten, if_pos (List.mem_singleton.mp target)]
    refine ⟨by change incident.type = .incident; rw [inserted.same]; rfl, ?_⟩
    change incident.endDate.or row.endDate = none
    rw [inserted.same, ending]
    rfl

theorem keepsCoverage_of_sameEvents (same : SameEvents store final) :
    KeepsCoverage store final := by
  apply keepsCoverage_of_relocation
  · rintro id ⟨row, found, rest⟩
    exact ⟨row, by rw [same.incidents]; exact found, rest⟩
  · intro id component _ held
    rw [componentIds_of_relation same.relation]
    exact Or.inl held

/-- Every step of a creation keeps all components covered exactly when it is no
system move that breaks `MoveKeeps`.  So a creation whose system moves meet it
keeps every component covered. -/
theorem creation_coverage {store final : Store} {events : List DbEvent}
    {outcome : Except ApiError Response}
    (run : Run database (postEvent deployment route caller data) store events outcome final) :
    (∀ event ∈ events,
      KeepsCoverage event.before event.after ↔ SystemMoves MoveKeeps data event) ∧
    ((∀ event ∈ events, SystemMoves MoveKeeps data event) → KeepsCoverage store final) := by
  have activity : Run database ((Activity.post route caller data).program deployment) store events
      outcome final := run
  have unaffected : Unaffected (fun event => KeepsCoverage event.before event.after ↔
      SystemMoves MoveKeeps data event) :=
    unaffected_of_quiet (fun event quiet same => iff_of_true (keepsCoverage_of_sameEvents same)
      (systemMoves_of_no_movement (movement_of_quiet quiet)))
  have steps := (run_guarantees unaffected (fun _ _ => trivial)
    (fun statement choice value current next issued commits _ =>
      ⟨trivial, creation_keepsCoverage issued commits⟩) activity trivial).1
  refine ⟨steps, ?_⟩
  intro moves
  apply run.2.relates (fun _ _ covered => covered)
  · intro first second third before after component covered
    exact after component (before component covered)
  · intro event member
    exact (steps event member).mpr (moves event member)

end Creation

/-- Two system incidents with one component each. -/
def loneComponents : Store :=
  (replay quietDeployment
    [(.post .events anAdmin (incidentReport true [1] 1), atTime 20),
      (.post .events anAdmin (incidentReport true [2] 3), atTime 30)] (bareStore 2)).2

/-- A creation with a move that closes a source it has emptied. -/
theorem creation_coverage_lone :
    let program := postEvent quietDeployment .events anAdmin (incidentReport true [1] 3)
    (∃ event ∈ program.trail database (atTime 40) loneComponents,
        movement event = some (1, 1, 2)) ∧
      (∀ event ∈ program.trail database (atTime 40) loneComponents,
        SystemMoves MoveKeeps (incidentReport true [1] 3) event) ∧
      KeepsCoverage loneComponents (program.evaluate database (atTime 40) loneComponents).2 := by
  intro program
  have safe : ∀ event ∈ program.trail database (atTime 40) loneComponents,
      SystemMoves MoveKeeps (incidentReport true [1] 3) event := by decide +kernel
  have run := Program.evaluate_run database (atTime 40) program loneComponents
  exact ⟨by decide +kernel, safe, (creation_coverage run).2 safe⟩

/-! ## A lost component -/

/-- Components 1 and 2 share a minor system incident, component 3 has a major one. -/
def sharedMinorIncident : Store :=
  (replay quietDeployment
    [(.post .events anAdmin (incidentReport true [1, 2] 1), atTime 20),
      (.post .events anAdmin (incidentReport true [3] 3), atTime 30)] (bareStore 3)).2

/-- Reporting component 1 as major moves it to the major incident, which holds
one component.  So the minor incident is closed, although it holds component 2. -/
theorem creation_coverage_fails :
    ¬ ∀ (deployment : Deployment) (route : CreationRoute) (caller : Caller) (data : IncidentData)
      (store : Store) (events : List DbEvent) (response : Response) (final : Store),
      data.type = .incident →
      Run database (postEvent deployment route caller data) store events (.ok response) final →
      KeepsCoverage store final := by
  intro claimed
  have answer : ((postEvent quietDeployment .events anAdmin (incidentReport true [1] 3)).evaluate
      database (atTime 40) sharedMinorIncident).1 = .ok (.created [⟨1, 2, none⟩] false) := by
    decide +kernel
  have run := Program.evaluate_run database (atTime 40)
    (postEvent quietDeployment .events anAdmin (incidentReport true [1] 3)) sharedMinorIncident
  rw [answer] at run
  have kept := claimed _ _ _ _ _ _ _ _ rfl run 2 (by decide +kernel)
  exact absurd kept (by decide +kernel)

end StatusDashboard.Properties
