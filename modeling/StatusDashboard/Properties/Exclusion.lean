import StatusDashboard.Properties.Ranges
import StatusDashboard.Properties.Relocation
import StatusDashboard.Sequence.Change

namespace StatusDashboard.Properties

open Event Storage Tables Notification Handlers Process Provenance Sequence

/-!
# A component is in one open incident

Creations and extractions open an incident for a component; a PATCH opens one
again.  Creations look for the incident the component is in and take it out
there, but they take the first active one, and an incident that was closed with
an end date in the future is active too.  The other two do not look at all.
Under the conditions that rule these cases out, every operation leaves each
component in at most one open incident.
-/

variable {store : Store}

/-- A component is in an open incident. -/
def HeldOpen (store : Store) (id component : Nat) : Prop :=
  Ongoing store id ∧ component ∈ store.componentIds id

instance (store : Store) (id component : Nat) : Decidable (HeldOpen store id component) :=
  inferInstanceAs (Decidable (_ ∧ _))

/-- No component is in two open incidents. -/
def Exclusive (store : Store) : Prop :=
  ∀ component first second, HeldOpen store first component → HeldOpen store second component →
    first = second

theorem exclusive_of_subset {final : Store} (exclusive : Exclusive store)
    (origin : ∀ id component, HeldOpen final id component → HeldOpen store id component) :
    Exclusive final :=
  fun component first second one two =>
    exclusive component first second (origin first component one) (origin second component two)

/-- Some components are given to one open incident each, all others stay. -/
theorem exclusive_of_taken {final : Store} (taken : Nat → Option Nat) (exclusive : Exclusive store)
    (origin : ∀ id component, HeldOpen final id component →
      taken component = some id ∨ taken component = none ∧ HeldOpen store id component) :
    Exclusive final := by
  intro component first second one two
  rcases origin first component one with here | ⟨free, before⟩
  · rcases origin second component two with there | ⟨free, _⟩
    · exact Option.some.inj (here.symm.trans there)
    · rw [free] at here
      cases here
  · rcases origin second component two with there | ⟨_, after⟩
    · rw [free] at there
      cases there
    · exact exclusive component first second before after

/-! ## What the lists show -/

/-- An incident that is closed with an end date to come is resolved. -/
def Settles (time : Time) (row : IncidentRow) : Prop :=
  row.type = .incident → ∀ date ∈ row.endDate, row.startDate ≤ time → time ≤ date →
    row.status = some .resolved

instance (time : Time) : DecidablePred (Settles time) := fun row =>
  inferInstanceAs (Decidable (row.type = .incident → ∀ date ∈ row.endDate, _))

/-- No closed incident is active when the clock is read. -/
def closedAreOver : Clock where
  shows time store := Everywhere (Settles time) store

instance (time : Time) (store : Store) : Decidable (closedAreOver time store) :=
  inferInstanceAs (Decidable (Everywhere _ store))

instance : DecidablePred closedAreOver.lists := fun _ => isTrue trivial

theorem active_ongoing {time : Time} {finished : List Status} {row : IncidentRow}
    (listed : .resolved ∈ finished) (settles : Settles time row) (type : row.type = .incident)
    (active : Truth.selects (activeCondition time finished row) = true) : row.endDate = none := by
  cases ended : row.endDate with
  | none => rfl
  | some date =>
    exfalso
    by_cases begun : row.startDate ≤ time
    · by_cases due : time ≤ date
      · have resolved := settles type date ended begun due
        simp [activeCondition, ended, statusIn, resolved, Truth.compare, listed, begun, due]
          at active
      · simp [activeCondition, ended, Truth.compare, due] at active
    · simp [activeCondition, ended, Truth.compare, begun] at active

/-- A copy of an ongoing incident. -/
structure OngoingCopy (copy : Incident) (store : Store) : Prop where
  sync : InSync copy store
  type : copy.type = .incident
  ending : copy.endDate = none
  ongoing : Ongoing store copy.id

theorem ongoingCopy_stored {copy : Incident} {row : IncidentRow}
    (found : store.incidents.get? copy.id = some row)
    (shape : copy = storedCopy store (copy.id, row)) (type : row.type = .incident)
    (ongoing : row.endDate = none) : OngoingCopy copy store := by
  refine ⟨inSync_stored found shape, by rw [shape]; exact type, ?_,
    (ongoing_of_row found).mpr ⟨type, ongoing⟩⟩
  rw [shape]
  change optTimePtr row.endDate = none
  rw [ongoing]
  rfl

theorem target_ongoing {impact : Int} {target : Incident}
    (level : OnLevel closedAreOver impact store (some target)) : OngoingCopy target store := by
  rcases level.target with ⟨time, row, settled, found, selected, shape, _⟩
  have meets : eventsCondition systemParams authorizedAccess store target.id row :=
    ⟨time, selected⟩
  have type := (systemParams_selects meets).1
  have active := active_of_filters rfl selected
  exact ongoingCopy_stored found shape type
    (active_ongoing (by simp) (settled _ _ found) type active)

theorem source_ongoing {data : IncidentData} {component : Component} {source : Incident}
    (outranked : Outranked closedAreOver data component source store) :
    OngoingCopy source store ∧ component.id ∈ store.componentIds source.id := by
  rcases outranked.source with ⟨time, row, settled, found, selected, shape, incident, _⟩
  have meets : componentCondition component.id componentParams store source.id row :=
    ⟨time, selected⟩
  have type : row.type = .incident := by
    rw [shape] at incident
    exact incident
  have active := active_of_component rfl selected
  exact ⟨ongoingCopy_stored found shape type
    (active_ongoing (by simp) (settled _ _ found) type active), (componentParams_selects meets).1⟩

/-- A component without active events is in no open incident. -/
theorem unused_free {component : Nat} (unused : ListsOf closedAreOver component store []) (id : Nat) :
    ¬ HeldOpen store id component := by
  rintro ⟨⟨row, found, type, ongoing⟩, linked⟩
  rcases unused with ⟨time, _, lists⟩
  have kind : (EventType.incident == .maintenance) = false := rfl
  have listed : storedCopy store (id, row) ∈ [] := by
    apply lists.complete id row found
    simp [componentEventConditions, componentParams, publicEventPredicates, linked, type, kind,
      open_active ongoing]
  cases listed

/-! ## Transactions -/

section Transactions

variable {choice : Choice} {store final : Store}

/-- A transaction that opens nothing and links nothing. -/
theorem heldOpen_of_commit {β : Type} {statement : EventWrite β} {value : β}
    (commits : statement.exec choice store = .ok (value, final))
    (opens : ∀ id row, store.incidents.get? id = some row →
      (statement.rewritten choice id row).type = .incident →
      (statement.rewritten choice id row).endDate = none → row.type = .incident ∧ row.endDate = none)
    (inserts : statement.inserted choice = none)
    (links : ∀ id other, statement.links store.incidents.nextId id other
      (other ∈ store.componentIds id) → other ∈ store.componentIds id)
    (id component : Nat) (held : HeldOpen final id component) : HeldOpen store id component := by
  rcases held with ⟨⟨row, found, type, ongoing⟩, linked⟩
  refine ⟨?_, links id component (((exec_footprint commits).linked id component).mp linked)⟩
  rcases row_origin commits found with ⟨before, stored, rfl⟩ | ⟨_, inserted⟩
  · exact (ongoing_of_row stored).mpr (opens id before stored type ongoing)
  · rw [inserts] at inserted
    cases inserted

/-- What an inserted incident holds is what it was created with. -/
theorem heldOpen_of_insert {β : Type} {statement : EventWrite β} {value : β} {wanted : List Nat}
    (commits : statement.exec choice store = .ok (value, final))
    (keeps : ∀ id row, statement.rewritten choice id row = row)
    (links : ∀ id other held, statement.links store.incidents.nextId id other held ↔
      held ∨ (id = store.incidents.nextId ∧ other ∈ wanted))
    (id component : Nat) (held : HeldOpen final id component) :
    HeldOpen store id component ∨ (id = store.incidents.nextId ∧ component ∈ wanted) := by
  rcases held with ⟨⟨row, found, type, ongoing⟩, linked⟩
  rw [(exec_footprint commits).linked, links] at linked
  rcases linked with stored | new
  · rcases Store.incident_of_mem_componentIds stored with ⟨before, present⟩
    have same := (exec_footprint commits).rows id before present
    rw [keeps] at same
    have equal : row = before := Option.some.inj (found.symm.trans same)
    rw [equal] at type ongoing
    exact Or.inl ⟨(ongoing_of_row present).mpr ⟨type, ongoing⟩, stored⟩
  · exact Or.inr new

/-- Taking a component from an ongoing incident to another. -/
theorem exclusive_of_move {named : Component} {timeNow : Time} {old new : Incident} {close : Bool}
    {copies : Incident × Incident} (exclusive : Exclusive store) (oldCopy : OngoingCopy old store)
    (newCopy : OngoingCopy new store) (apart : old.id ≠ new.id)
    (holds : named.id ∈ store.componentIds old.id)
    (commits : (moveStatement timeNow named old new close).exec choice store =
      .ok (copies, final)) :
    Exclusive final := by
  have relocated := moved_relocated oldCopy.sync newCopy.sync oldCopy.type newCopy.type apart
    (Store.pos_of_mem_componentIds holds) commits
  refine exclusive_of_taken (fun other => if other = named.id then some new.id else none)
    exclusive ?_
  rintro id component ⟨ongoing, linked⟩
  by_cases target : id = new.id
  · subst target
    split_ifs with same
    · exact Or.inl rfl
    · exact Or.inr ⟨rfl, newCopy.ongoing,
        ((relocated.received component).mp linked).resolve_right same⟩
  · by_cases source : id = old.id
    · subst source
      have still := relocated.sourceOpen.mp ongoing
      have kept := (relocated.released component).mp linked
      rw [if_neg (fun same => kept.2 ⟨still.1, same⟩)]
      exact Or.inr ⟨rfl, oldCopy.ongoing, kept.1⟩
    · have before : HeldOpen store id component :=
        ⟨(relocated.othersOpen id source target).mp ongoing,
          (relocated.elsewhere id source target component).mp linked⟩
      rw [if_neg ?_]
      · exact Or.inr ⟨rfl, before⟩
      · rintro rfl
        exact source (exclusive _ id old.id before ⟨oldCopy.ongoing, holds⟩)

/-- Taking components out of an incident into a new one.  A closed source must not
share them with an open incident. -/
theorem exclusive_of_extraction {components : List Component} {old result : Incident}
    {impact : Int} {text : String} {description : Option String}
    (exclusive : Exclusive store) (oldSync : InSync old store) (oldType : old.type = .incident)
    (members : ∀ other ∈ components.map Component.id, other ∈ store.componentIds old.id)
    (alone : ∀ other ∈ store.componentIds old.id,
      other ∈ components.map Component.id ∨ old.endDate = none →
      ∀ id, HeldOpen store id other → id = old.id)
    (extraction : Extraction closedAreOver components old impact text description store result
      final) : Exclusive final ∧ Ongoing final result.id ∧ result.type = .incident ∧
        result.endDate = none := by
  cases extraction with
  | @intro timeNow saving moving saved copies middle final nonempty clock saves moves =>
    have relocated := extraction_relocated oldSync oldType saves moves
    rcases extractComponentsTx_ok moves with ⟨_, newStatuses, _, copied⟩
    have sameId : copies.2.id = saved.id := by rw [copied]; rfl
    refine ⟨?_, sameId ▸ relocated.targetOpen.mpr trivial, ?_, ?_⟩
    · refine exclusive_of_taken (fun other =>
        if other ∈ components.map Component.id then some saved.id
        else if old.endDate = none ∧ other ∈ store.componentIds old.id then some old.id
        else none) exclusive ?_
      rintro id component ⟨ongoing, linked⟩
      by_cases target : id = saved.id
      · subst target
        rw [if_pos ((relocated.received component).mp linked).1]
        exact Or.inl rfl
      · by_cases source : id = old.id
        · subst source
          have kept := (relocated.released component).mp linked
          rw [if_neg kept.2, if_pos ⟨relocated.sourceOpen.mp ongoing, kept.1⟩]
          exact Or.inl rfl
        · have stored : HeldOpen store id component :=
            ⟨(relocated.othersOpen id source target).mp ongoing,
              (relocated.elsewhere id source target component).mp linked⟩
          have unshared : ∀ (held : component ∈ store.componentIds old.id),
              ¬ (component ∈ components.map Component.id ∨ old.endDate = none) :=
            fun held given => source (alone component held given id stored)
          rw [if_neg (fun moved => unshared (members component moved) (Or.inl moved)),
            if_neg (fun kept => unshared kept.2 (Or.inr kept.1))]
          exact Or.inr ⟨rfl, stored⟩
    · rw [copied]
      exact (saved_row saves).type
    · rw [copied]
      exact (saved_row saves).endDate

end Transactions

/-! ## System creations -/

section System

variable {data : IncidentData} {component : Component} {store final : Store}

theorem systemStep_exclusive {entry : ProcessComponentResp}
    (step : SystemStep closedAreOver data component store entry final)
    (exclusive : Exclusive store) : Exclusive final := by
  cases step with
  | kept => exact exclusive
  | @added target updated status choice final unused level commits =>
    refine exclusive_of_taken (fun other => if other = component.id then some target.id
      else none) exclusive ?_
    rintro id other ⟨ongoing, linked⟩
    have before : Ongoing store id := by
      rcases ongoing with ⟨row, found, type, ending⟩
      rcases row_origin commits found with ⟨earlier, stored, rfl⟩ | ⟨_, inserted⟩
      · rw [EventWrite.rewritten] at type ending
        split_ifs at type ending <;> exact (ongoing_of_row stored).mpr ⟨type, ending⟩
      · cases inserted
    rcases ((exec_footprint commits).linked id other).mp linked with stored | ⟨here, same, _⟩
    · have different : other ≠ component.id := by
        rintro rfl
        exact unused_free unused id ⟨before, stored⟩
      rw [if_neg different]
      exact Or.inr ⟨rfl, before, stored⟩
    · rw [if_pos same, here]
      exact Or.inl rfl
  | @created created choice final unused level commits =>
    refine exclusive_of_taken (fun other => if other = component.id
      then some store.incidents.nextId else none) exclusive ?_
    intro id other held
    rcases heldOpen_of_insert commits (fun _ _ => rfl) (fun _ _ _ => Iff.rfl) id other held with
      stored | ⟨new, wanted⟩
    · have different : other ≠ component.id := by
        rintro rfl
        exact unused_free unused id stored
      rw [if_neg different]
      exact Or.inr ⟨rfl, stored⟩
    · have same : other = component.id := List.mem_singleton.mp (mem_wantedIds.mp wanted).1
      rw [if_pos same, new]
      exact Or.inl rfl
  | moved outranked level clock same commits =>
    rcases source_ongoing outranked with ⟨sourceCopy, holds⟩
    exact exclusive_of_move exclusive sourceCopy (target_ongoing level)
      (outranked.apart level) (same ▸ holds) commits
  | @raised source timeNow choice final outranked level clock commits =>
    rcases source_ongoing outranked with ⟨sourceCopy, _⟩
    refine exclusive_of_subset exclusive (heldOpen_of_commit commits ?_ rfl (fun _ _ held => held))
    intro id row found type ending
    rw [EventWrite.rewritten] at type ending
    split_ifs at type ending with here
    · exact (ongoing_of_row found).mp (here ▸ sourceCopy.ongoing)
    · exact ⟨type, ending⟩
  | @split source result marked choice middle final outranked level extraction commits =>
    rcases source_ongoing outranked with ⟨sourceCopy, holds⟩
    have members : ∀ other ∈ [component].map Component.id,
        other ∈ store.componentIds source.id := by
      intro other member
      rw [List.mem_singleton.mp member]
      exact holds
    rcases exclusive_of_extraction exclusive sourceCopy.sync sourceCopy.type members
      (fun other linked _ id held => exclusive other id source.id held
        ⟨sourceCopy.ongoing, linked⟩) extraction with ⟨apart, ongoing, _⟩
    refine exclusive_of_subset apart (heldOpen_of_commit commits ?_ rfl (fun _ _ held => held))
    intro id row found type ending
    rw [EventWrite.rewritten] at type ending
    split_ifs at type ending with here
    · have same : id = result.id := here
      exact (ongoing_of_row found).mp (same ▸ ongoing)
    · exact ⟨type, ending⟩

theorem systemSteps_exclusive {components : List Component} {entries : List ProcessComponentResp}
    (steps : SystemSteps closedAreOver data components store entries final)
    (exclusive : Exclusive store) : Exclusive final := by
  induction steps with
  | done => exact exclusive
  | step first rest ih => exact ih (systemStep_exclusive first exclusive)

end System

/-! ## Regular creations -/

section Regular

variable {store final : Store}

/-- The state of the loop of a regular creation.  `rest` are the components that
were not looked at yet: only these may be both in the new incident and in
another open one. -/
structure Relocating (rest : List Nat) (incIn : Incident) (opened : List Incident)
    (store : Store) : Prop where
  new : InSync incIn store
  newType : incIn.type = .incident
  listed : ∀ copy ∈ opened, copy.type = .incident → InSync copy store ∧ copy.id ≠ incIn.id ∧
    (copy.endDate = none → Ongoing store copy.id)
  distinct : (opened.map Incident.id).Nodup
  covers : ∀ id, Ongoing store id → id ≠ incIn.id →
    ∃ copy ∈ opened, copy.id = id ∧ copy.type = .incident
  apart : ∀ component first second, first ≠ incIn.id → second ≠ incIn.id →
    HeldOpen store first component → HeldOpen store second component → first = second
  pending : ∀ component id, id ≠ incIn.id → HeldOpen store id component →
    component ∈ store.componentIds incIn.id → component ∈ rest
  closed : ∀ copy ∈ opened, copy.type = .incident → ¬ Ongoing store copy.id →
    ∀ component ∈ store.componentIds copy.id, ∀ id, id ≠ incIn.id →
      ¬ HeldOpen store id component
  nonzero : ∀ component ∈ rest, component ≠ 0

/-- Once every component was looked at, nothing is shared. -/
theorem Relocating.exclusive {incIn : Incident} {opened : List Incident}
    (state : Relocating [] incIn opened store) : Exclusive store := by
  have unshared : ∀ component id, id ≠ incIn.id → HeldOpen store id component →
      ¬ HeldOpen store incIn.id component := by
    intro component id other held shared
    cases state.pending component id other held shared.2
  intro component first second one two
  by_cases firstNew : first = incIn.id
  · by_cases secondNew : second = incIn.id
    · rw [firstNew, secondNew]
    · exact absurd (firstNew ▸ one) (unshared component second secondNew two)
  · by_cases secondNew : second = incIn.id
    · exact absurd (secondNew ▸ two) (unshared component first firstNew one)
    · exact state.apart component first second firstNew secondNew one two

/-- A component that no listed incident holds is in no other open incident. -/
theorem Relocating.passed {component : Component} {rest : List Nat} {incIn : Incident}
    {opened : List Incident} (state : Relocating (component.id :: rest) incIn opened store)
    (passes : ∀ copy ∈ opened, PassedOver component copy) :
    Relocating rest incIn opened store := by
  have unheld : ∀ id, id ≠ incIn.id → ¬ HeldOpen store id component.id := by
    rintro id other ⟨ongoing, linked⟩
    rcases state.covers id ongoing other with ⟨copy, member, rfl, type⟩
    rcases passes copy member with skipped | absent
    · simp [shouldSkipIncident, type] at skipped
    · have wanted := ((state.listed copy member type).1.linked component.id).mp linked
      exact absent (mem_wantedIds.mp wanted).1
  refine { state with pending := ?_, nonzero := ?_ }
  · intro other id different held shared
    rcases List.mem_cons.mp (state.pending other id different held shared) with rfl | later
    · exact absurd held (unheld id different)
    · exact later
  · exact fun other member => state.nonzero other (List.mem_cons_of_mem _ member)

variable {incIn : Incident} {opened : List Incident}

/-- A move out of a listed incident: what is open besides the new incident was
open before, and does not hold the moved component. -/
theorem Relocating.shrinks {rest : List Nat} {old : Incident} {component : Nat} {close : Bool}
    {gained : Nat → Prop} {opens : Prop} (state : Relocating rest incIn opened store)
    (member : old ∈ opened) (type : old.type = .incident)
    (holds : component ∈ store.componentIds old.id)
    (relocated : Relocated old.id incIn.id (fun other => close = false ∧ other = component) gained
      (close = false ∧ old.endDate = none) opens store final) (id other : Nat)
    (different : id ≠ incIn.id) (held : HeldOpen final id other) :
    HeldOpen store id other ∧ other ≠ component := by
  rcases state.listed old member type with ⟨_, notNew, ongoing⟩
  rcases held with ⟨openLater, linked⟩
  by_cases source : id = old.id
  · subst source
    have kept := (relocated.released other).mp linked
    have stays := relocated.sourceOpen.mp openLater
    exact ⟨⟨ongoing stays.2, kept.1⟩, fun same => kept.2 ⟨stays.1, same⟩⟩
  · have before : HeldOpen store id other :=
      ⟨(relocated.othersOpen id source different).mp openLater,
        (relocated.elsewhere id source different other).mp linked⟩
    refine ⟨before, ?_⟩
    rintro rfl
    by_cases openOld : Ongoing store old.id
    · exact source (state.apart other id old.id different notNew before ⟨openOld, holds⟩)
    · exact state.closed old member type openOld other holds id different before

/-- One move keeps the state of the loop. -/
theorem Relocating.moved {component named : Component} {rest : List Nat} {old : Incident}
    {before after : List Incident} {timeNow : Time} {choice : Choice} {copies : Incident × Incident}
    (state : Relocating (component.id :: rest) incIn (before ++ old :: after) store)
    (type : old.type = .incident) (holds : component.id ∈ old.componentIds)
    (same : named.id = component.id)
    (commits : (moveStatement timeNow named old incIn (old.components.length == 1)).exec choice
      store = .ok (copies, final)) :
    Relocating rest copies.2 (before ++ copies.1 :: after) final := by
  have member : old ∈ before ++ old :: after := List.mem_append_right _ List.mem_cons_self
  rcases state.listed old member type with ⟨oldSync, apart, oldOngoing⟩
  have nonzero : component.id ≠ 0 := state.nonzero _ List.mem_cons_self
  have linked : named.id ∈ store.componentIds old.id := by
    rw [same]
    exact (oldSync.linked _).mpr (mem_wantedIds.mpr ⟨holds, nonzero⟩)
  have relocated := moved_relocated oldSync state.new type state.newType apart
    (same ▸ nonzero) commits
  have shrinks := state.shrinks member type linked relocated
  have synced := moved_inSync oldSync state.new apart commits
  rcases moved_source apart commits with ⟨oldId, oldType, _⟩
  rcases moved_target commits with ⟨newId, newType, _⟩
  rcases moveComponentTx_ok commits with ⟨_, ⟨_, _, oldShape⟩, _⟩
  have oldEnding : copies.1.endDate = none ↔
      (old.components.length == 1) = false ∧ old.endDate = none := by
    rw [oldShape]
    exact releasedSource_ongoing
  have members : ∀ copy ∈ before ++ copies.1 :: after, copy = copies.1 ∨
      (copy ∈ before ++ old :: after ∧ copy.id ≠ old.id) :=
    fun copy listed => mem_replaced state.distinct listed
  refine ⟨synced _ (by simp), newType.trans state.newType, ?_, ?_, ?_, ?_, ?_, ?_, ?_⟩
  · intro copy listed incident
    rcases members copy listed with rfl | ⟨stays, notOld⟩
    · refine ⟨synced _ (by simp), by rw [oldId, newId]; exact apart, ?_⟩
      intro ending
      rw [oldId]
      exact relocated.sourceOpen.mpr (oldEnding.mp ending)
    · rcases state.listed copy stays incident with ⟨sync, notNew, ongoing⟩
      refine ⟨sync.kept (exec_footprint commits) (not_target_of_move notOld notNew),
        newId ▸ notNew, ?_⟩
      exact fun ending => (relocated.othersOpen copy.id notOld notNew).mpr (ongoing ending)
  · have distinct := state.distinct
    rw [List.map_append, List.map_cons] at distinct ⊢
    rw [oldId]
    exact distinct
  · intro id ongoing different
    rw [newId] at different
    by_cases source : id = old.id
    · exact ⟨copies.1, List.mem_append_right _ List.mem_cons_self, oldId.trans source.symm,
        oldType.trans type⟩
    · rcases state.covers id ((relocated.othersOpen id source different).mp ongoing) different with
        ⟨copy, listed, rfl, incident⟩
      exact ⟨copy, mem_kept listed source, rfl, incident⟩
  · intro other first second firstOther secondOther one two
    rw [newId] at firstOther secondOther
    exact state.apart other first second firstOther secondOther
      (shrinks first other firstOther one).1 (shrinks second other secondOther two).1
  · intro other id different held shared
    rw [newId] at different shared
    rcases shrinks id other different held with ⟨earlier, notMoved⟩
    have old := ((relocated.received other).mp shared).resolve_right notMoved
    rcases List.mem_cons.mp (state.pending other id different earlier old) with isMoved | later
    · exact absurd (isMoved.trans same.symm) notMoved
    · exact later
  · intro copy listed incident notOngoing other held id different still
    rw [newId] at different
    rcases shrinks id other different still with ⟨earlier, notMoved⟩
    rcases members copy listed with rfl | ⟨stays, notOld⟩
    · rw [oldId] at notOngoing held
      have kept := ((relocated.released other).mp held).1
      by_cases openOld : Ongoing store old.id
      · -- It was closed by this move, so the moved component was its only one.
        rcases oldSync.stored with ⟨row, found, _, _, reads⟩
        have ending := reads ((ongoing_of_row found).mp openOld).2
        have single : old.components.length = 1 := by
          by_contra several
          exact notOngoing (relocated.sourceOpen.mpr ⟨by simpa using several, ending⟩)
        have only := (mem_wantedIds.mp ((oldSync.linked other).mp kept)).1
        rcases List.length_eq_one_iff.mp single with ⟨held, shape⟩
        unfold Incident.componentIds at only holds
        rw [shape] at only holds
        have equal := (List.mem_singleton.mp only).trans (List.mem_singleton.mp holds).symm
        exact notMoved (equal.trans same.symm)
      · exact state.closed old member type openOld other kept id different earlier
    · have notNew := (state.listed copy stays incident).2.1
      refine state.closed copy stays incident ?_ other
        ((relocated.elsewhere copy.id notOld notNew other).mp held) id different earlier
      exact fun ongoing => notOngoing ((relocated.othersOpen copy.id notOld notNew).mpr ongoing)
  · exact fun other listed => state.nonzero other (List.mem_cons_of_mem _ listed)

theorem relocates_exclusive {components : List Component}
    (moves : Relocates closedAreOver components incIn opened store final)
    (state : Relocating (components.map Component.id) incIn opened store) : Exclusive final := by
  induction moves with
  | done => exact state.exclusive
  | passed passes rest ih => exact ih (state.passed passes)
  | moved passes type holds clock same commits rest ih =>
    exact ih (state.moved type holds same commits)

/-- The list of active events shows every open incident, and no closed one. -/
theorem listsActive_ongoing (listed : ListsActive closedAreOver store opened) :
    (∀ copy ∈ opened, copy.type = .incident → OngoingCopy copy store) ∧
      (opened.map Incident.id).Nodup ∧
      ∀ id, Ongoing store id → ∃ copy ∈ opened, copy.id = id ∧ copy.type = .incident := by
  rcases listed with ⟨time, ⟨settled, _⟩, lists⟩
  refine ⟨?_, lists.distinct, ?_⟩
  · intro copy member incident
    rcases lists.sound copy member with ⟨row, found, selected, shape⟩
    have type : row.type = .incident := by
      rw [shape] at incident
      exact incident
    exact ongoingCopy_stored found shape type
      (active_ongoing (by simp) (settled _ _ found) type (active_of_filters rfl selected))
  · rintro id ⟨row, found, type, ongoing⟩
    refine ⟨storedCopy store (id, row), ?_, rfl, type⟩
    apply lists.complete id row found
    simp [applyEventsFilters, activeParams, dateConditions, open_active ongoing,
      authorizedAccess]

/-- The loop starts with all components of the new incident to be looked at. -/
theorem relocating_start {publisher : Option Publisher} {incident created : Incident}
    {userID : Option String} {choice : Choice} {middle : Store} (exclusive : Exclusive store)
    (listed : ListsActive closedAreOver store opened) (type : incident.type = .incident)
    (known : incident.impact.isSome ∧ incident.startDate.isSome)
    (named : ∀ id ∈ incident.componentIds, id ≠ 0)
    (commits : (EventWrite.createEvent publisher incident userID).exec choice store =
      .ok (created, middle)) :
    Relocating (created.components.map Component.id) created opened middle := by
  rcases listsActive_ongoing listed with ⟨ongoing, distinct, covers⟩
  rcases created_row commits with ⟨newId, newType, _, _, components, _⟩
  have footprint := exec_footprint commits
  have before : ∀ id component, id ≠ created.id → HeldOpen middle id component →
      HeldOpen store id component := by
    intro id component different held
    rcases heldOpen_of_insert commits (fun _ _ => rfl) (fun _ _ _ => Iff.rfl) id component held
      with stored | ⟨new, _⟩
    · exact stored
    · exact absurd (new.trans newId.symm) different
  have stays : ∀ id, Ongoing store id → Ongoing middle id := by
    rintro id ⟨row, found, still⟩
    exact ⟨row, footprint.rows id row found, still⟩
  have earlier : ∀ id, id ≠ created.id → Ongoing middle id → Ongoing store id := by
    rintro id different ⟨row, found, still⟩
    rcases row_origin commits found with ⟨stored, present, same⟩ | ⟨missing, inserted⟩
    · have unchanged : row = stored := same
      exact ⟨stored, present, unchanged ▸ still⟩
    · have fresh := footprint.fresh id missing
      rw [found, if_neg (fun same => different (same.trans newId.symm))] at fresh
      cases fresh
  have old : ∀ copy ∈ opened, copy.type = .incident → copy.id ≠ created.id := by
    intro copy member incident
    rcases (ongoing copy member incident).ongoing with ⟨row, found, _⟩
    rw [newId]
    exact Nat.ne_of_lt (SerialTable.lt_nextId_of_get? found)
  refine ⟨created_inSync known.1 known.2 commits, newType.trans type, ?_, distinct, ?_, ?_, ?_, ?_,
    ?_⟩
  · intro copy member incident
    have copied := ongoing copy member incident
    exact ⟨copied.sync.kept footprint List.not_mem_nil, old copy member incident,
      fun _ => stays _ copied.ongoing⟩
  · exact fun id still different => covers id (earlier id different still)
  · exact fun component first second firstOther secondOther one two =>
      exclusive component first second (before first component firstOther one)
        (before second component secondOther two)
  · intro component id _ _ shared
    have wanted := ((created_inSync known.1 known.2 commits).linked component).mp shared
    exact (mem_wantedIds.mp wanted).1
  · intro copy member incident closed
    exact absurd (stays _ (ongoing copy member incident).ongoing) closed
  · intro component member
    rw [components] at member
    exact named component member

theorem created_exclusive {deployment : Deployment} {caller : Caller} {data : IncidentData}
    {response : Response}
    (creation : Created closedAreOver deployment caller data store response final)
    (exclusive : Exclusive store) : Exclusive final := by
  cases creation with
  | system flag type valid steps => exact systemSteps_exclusive steps exclusive
  | @regular prepared opened created choice middle final regular valid prepares listed commits
      moves =>
      by_cases type : data.type = .incident
      · have same : prepared = data := prepares.other (by rw [type]; decide)
        subst same
        have nonzero : ∀ id ∈ (regularIncident prepared caller.userID).componentIds, id ≠ 0 :=
          regularIncident_componentIds prepared caller.userID ▸ valid.nonzero
        have state := relocating_start exclusive listed type ⟨rfl, rfl⟩ nonzero commits
        exact relocates_exclusive (relocates_of_moves _ valid type moves) state
      · have other : prepared.type ≠ .incident := by rw [prepares.same]; exact type
        have unimpaired : prepared.impact = 0 := by
          have impact : prepared.impact = data.impact := by rw [prepares.same]
          rw [impact, valid.unimpaired type]
        have skipped : shouldSkipComponentMovement opened prepared = true := by
          simp [shouldSkipComponentMovement, unimpaired]
        rcases moves with ⟨_, rfl⟩ | ⟨notSkipped, _⟩
        · refine exclusive_of_subset exclusive ?_
          intro id component held
          rcases heldOpen_of_insert commits (fun _ _ => rfl) (fun _ _ _ => Iff.rfl) id component
            held with stored | ⟨new, _⟩
          · exact stored
          · rcases held.1 with ⟨row, found, incident, _⟩
            rcases created_row commits with ⟨newId, _, _, _, _, stored⟩
            rw [newId, ← new] at stored
            have same := Option.some.inj (found.symm.trans stored)
            rw [same] at incident
            exact absurd incident other
        · rw [skipped] at notSkipped
          cases notSkipped

end Regular

/-! ## Changes -/

section Change

variable {caller : Caller} {id : Nat} {store final : Store}

/-- A component is in no open incident but the one with an id. -/
def HeldAlone (store : Store) (id component : Nat) : Prop :=
  ¬ HeldBy store (fun other => other ≠ id ∧ Ongoing store other) component

instance (store : Store) (id component : Nat) : Decidable (HeldAlone store id component) :=
  inferInstanceAs (Decidable (¬ _))

theorem HeldAlone.eq {component other : Nat} (heldAlone : HeldAlone store id component)
    (held : HeldOpen store other component) : other = id := by
  by_contra different
  exact heldAlone ⟨other, ⟨different, held.1⟩, held.2⟩

/-- A closed incident that is opened again, or that components are extracted from,
shares none of the components concerned with an open incident.  An end at the
zero time is read as none, so extracting opens the source as well. -/
def KeepsApart (store : Store) : Activity → Prop
  | .patch _ id data => data.status = .reopened → ∀ row ∈ store.incidents.get? id,
      row.endDate ≠ none → ∀ component ∈ store.componentIds id, HeldAlone store id component
  | .extract _ id components => ∀ row ∈ store.incidents.get? id, row.endDate ≠ none →
      ∀ component ∈ store.componentIds id, component ∈ components ∨ row.endDate = some zeroTime →
        HeldAlone store id component
  | _ => True

instance (store : Store) : DecidablePred (KeepsApart store)
  | .patch _ id data => inferInstanceAs (Decidable (data.status = .reopened →
      ∀ row ∈ store.incidents.get? id, row.endDate ≠ none →
        ∀ component ∈ store.componentIds id, HeldAlone store id component))
  | .extract _ id components => inferInstanceAs (Decidable (∀ row ∈ store.incidents.get? id,
      row.endDate ≠ none → ∀ component ∈ store.componentIds id,
        component ∈ components ∨ row.endDate = some zeroTime → HeldAlone store id component))
  | .post _ _ _ | .patchText _ _ _ _ | .checkMaintenance | .checkInfo
  | .drain _ _ | .redrive _ | .retention _ => isTrue trivial

/-- What a PATCH writes first opens nothing: a missing end date leaves the column. -/
theorem persist_heldOpen {deployment : Deployment} {data : PatchIncidentData} {row : IncidentRow}
    {stored result : Incident} {choice : Choice} (found : store.incidents.get? id = some row)
    (copied : stored = storedCopy store (id, row))
    (commits : (EventWrite.persistPatch deployment.publisher
      (patchedIncident data caller.userID stored) stored.status caller.userID).exec choice store =
      .ok (result, final)) (other component : Nat) (held : HeldOpen final other component) :
    HeldOpen store other component := by
  have here : (patchedIncident data caller.userID stored).id = id := by
    rw [copied]
    rfl
  refine heldOpen_of_commit commits ?_ rfl (fun _ _ linked => linked) other component held
  intro target before present type ending
  rw [EventWrite.rewritten, here] at type ending
  split_ifs at type ending with same
  · rw [same, found] at present
    cases present
    refine ⟨?_, (Option.or_eq_none_iff.mp ending).2⟩
    rw [copied] at type
    exact type
  · exact ⟨type, ending⟩

theorem patch_exclusive {deployment : Deployment} {data : PatchIncidentData}
    (patch : Patched deployment caller id data store final)
    (apart : KeepsApart store (.patch caller id data)) (exclusive : Exclusive store) :
    Exclusive final := by
  cases patch with
  | plain found copied bound allowed other commits =>
    exact exclusive_of_subset exclusive (persist_heldOpen found copied commits)
  | @reopened row stored result choice second middle final found copied bound allowed status
      commits reopens =>
      have type : row.type = .incident := by
        have incident := incident_of_reopened allowed status
        rw [copied] at incident
        exact incident
      have links : ∀ {other component : Nat}, component ∈ final.componentIds other →
          component ∈ store.componentIds other := by
        intro other component linked
        exact ((exec_footprint commits).linked other component).mp
          (((exec_footprint reopens).linked other component).mp linked)
      refine exclusive_of_taken (fun component => if component ∈ store.componentIds id then some id
        else none) exclusive ?_
      rintro other component ⟨ongoing, linked⟩
      by_cases same : other = id
      · rw [if_pos (same ▸ links linked), same]
        exact Or.inl rfl
      · have middleOpen : Ongoing middle other := by
          rcases ongoing with ⟨later, present, laterType, ending⟩
          rcases row_origin reopens present with ⟨before, stored, rfl⟩ | ⟨_, inserted⟩
          · rw [EventWrite.rewritten, if_neg same] at laterType ending
            exact ⟨before, stored, laterType, ending⟩
          · cases inserted
        have before := persist_heldOpen found copied commits other component
          ⟨middleOpen, ((exec_footprint reopens).linked other component).mp linked⟩
        rw [if_neg ?_]
        · exact Or.inr ⟨rfl, before⟩
        · intro held
          apply same
          by_cases ended : row.endDate = none
          · exact exclusive component other id before
              ⟨(ongoing_of_row found).mpr ⟨type, ended⟩, held⟩
          · exact (apart status row found ended component held).eq before

theorem extract_exclusive {components : List Nat}
    (extraction : ExtractedFrom closedAreOver id components store final)
    (apart : KeepsApart store (.extract caller id components)) (exclusive : Exclusive store) :
    Exclusive final := by
  cases extraction with
  | @intro row stored result moved final found copied type chosen extraction =>
    have sameId : stored.id = id := by
      rw [copied]
      rfl
    have shape : stored = storedCopy store (stored.id, row) := by rw [sameId, ← copied]
    have present : store.incidents.get? stored.id = some row := sameId ▸ found
    rcases Setting.getComponentsToExtract_ok chosen with ⟨requested, members, _⟩
    have incident : stored.type = .incident := by
      rw [copied]
      exact type
    refine (exclusive_of_extraction exclusive (inSync_stored present shape) incident ?_ ?_
      extraction).1
    · intro other member
      rcases List.mem_map.mp member with ⟨component, listed, rfl⟩
      rw [← componentIds_stored shape]
      exact List.mem_map_of_mem (members component listed)
    · intro other linked concerned holder held
      rw [sameId] at linked ⊢
      by_cases ended : row.endDate = none
      · exact exclusive other holder id held
          ⟨(ongoing_of_row found).mpr ⟨type, ended⟩, linked⟩
      · refine (apart row found ended other linked ?_).eq held
        rw [requested] at concerned
        refine concerned.imp_right ?_
        intro readNone
        rw [copied] at readNone
        change optTimePtr row.endDate = none at readNone
        by_contra nonzero
        rw [optTimePtr_of_ne nonzero] at readNone
        exact ended readNone

end Change

/-! ## Sessions -/

/-- An incident is resolved, its component reported again, and the first incident
gets another status. -/
def reportedAgain (status : Status) : List (Activity × Choice) :=
  [(.post .events anAdmin (incidentReport false [1, 2] 1), atTime 20),
    (.extract anAdmin 1 [2], atTime 25),
    (.patch anAdmin 1 (statusPatch .resolved 30 none), atTime 30),
    (.post .events anAdmin (incidentReport false [1] 1), atTime 40),
    (.patch anAdmin 1 (statusPatch status 50 none), atTime 50)]

end StatusDashboard.Properties
