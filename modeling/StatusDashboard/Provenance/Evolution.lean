import StatusDashboard.Provenance.Completion
import StatusDashboard.Provenance.Sound

namespace StatusDashboard.Provenance

open Event Storage Tables Handlers Process

/-!
# How the store evolves

No activity deletes an event, changes its type or removes one of its updates,
and a maintenance is only rewritten together with its version.  So a
maintenance row that still has the version it was read with is still the row
that was read.  `Evolves` is this relation, and every write an activity can
attempt respects it.
-/

structure Evolves (store later : Store) : Prop where
  rows : ∀ id row, store.incidents.get? id = some row →
    ∃ next, later.incidents.get? id = some next ∧ next.type = row.type ∧
      (row.type = .maintenance → next = row ∨ row.version < next.version)
  updates : ∀ id row, store.statuses.get? id = some row →
    ∃ next, later.statuses.get? id = some next ∧ SameUpdate next row

namespace Evolves

theorem refl (store : Store) : Evolves store store where
  rows _ row found := ⟨row, found, rfl, fun _ => Or.inl rfl⟩
  updates _ row found := ⟨row, found, .refl row⟩

theorem trans {first second third : Store} (before : Evolves first second)
    (after : Evolves second third) : Evolves first third where
  rows id row found := by
    rcases before.rows id row found with ⟨middle, middleFound, middleType, middleVersion⟩
    rcases after.rows id middle middleFound with ⟨last, lastFound, lastType, lastVersion⟩
    refine ⟨last, lastFound, lastType.trans middleType, ?_⟩
    intro maintenance
    rcases middleVersion maintenance with rfl | less
    · exact lastVersion maintenance
    · rcases lastVersion (middleType.trans maintenance) with rfl | further
      · exact Or.inr less
      · exact Or.inr (less.trans further)
  updates id row found := by
    rcases before.updates id row found with ⟨middle, middleFound, middleSame⟩
    rcases after.updates id middle middleFound with ⟨last, lastFound, lastSame⟩
    exact ⟨last, lastFound, lastSame.1.trans middleSame.1, lastSame.2.trans middleSame.2⟩

instance : IsPreorder Store Evolves where
  refl := refl
  trans _ _ _ := trans

/-- A maintenance row that kept its version was not rewritten. -/
theorem row_eq {store later : Store} {id : Nat} {row current : IncidentRow}
    (evolves : Evolves store later) (found : store.incidents.get? id = some row)
    (maintenance : row.type = .maintenance) (present : later.incidents.get? id = some current)
    (same : current.version ≤ row.version) : current = row := by
  rcases evolves.rows id row found with ⟨other, otherFound, _, version⟩
  rw [present] at otherFound
  cases otherFound
  rcases version maintenance with equal | less
  · exact equal
  · exact absurd less (not_lt.mpr same)

theorem type_eq {store later : Store} {id : Nat} {row current : IncidentRow}
    (evolves : Evolves store later) (found : store.incidents.get? id = some row)
    (present : later.incidents.get? id = some current) : current.type = row.type := by
  rcases evolves.rows id row found with ⟨other, otherFound, type, _⟩
  rw [present] at otherFound
  cases otherFound
  exact type

end Evolves

variable {copy : Incident} {store : Store}

/-- A copy of the type its event has. -/
def Typed (copy : Incident) (store : Store) : Prop :=
  ∃ row, store.incidents.get? copy.id = some row ∧ row.type = copy.type

theorem Typed.evolves {later : Store} (typed : Typed copy store) (evolves : Evolves store later) :
    Typed copy later := by
  rcases typed with ⟨row, found, type⟩
  rcases evolves.rows copy.id row found with ⟨current, present, same, _⟩
  exact ⟨current, present, same.trans type⟩

theorem Typed.row_type {row : IncidentRow} (typed : Typed copy store)
    (found : store.incidents.get? copy.id = some row) :
    row.type = copy.type := by
  rcases typed with ⟨stored, present, type⟩
  rw [found] at present
  cases present
  exact type

theorem Typed.congr {other : Incident} (typed : Typed copy store) (id : other.id = copy.id)
    (type : other.type = copy.type) : Typed other store := by
  rcases typed with ⟨row, found, same⟩
  exact ⟨row, id ▸ found, same.trans type.symm⟩

/-- A transaction evolves the store when it rewrites no maintenance without
raising its version, and keeps all types. -/
theorem evolves_of_footprint {β : Type} {choice : Choice} {statement : EventWrite β} {final : Store}
    (footprint : Footprint choice statement store final)
    (keeps : ∀ id row, store.incidents.get? id = some row → id ∈ statement.targets →
      (statement.rewritten choice id row).type = row.type ∧
        (row.type = .maintenance → row.version < (statement.rewritten choice id row).version)) :
    Evolves store final where
  rows id row found := by
    refine ⟨_, footprint.rows id row found, ?_⟩
    by_cases target : id ∈ statement.targets
    · rcases keeps id row found target with ⟨type, version⟩
      exact ⟨type, fun maintenance => Or.inr (version maintenance)⟩
    · rw [EventWrite.rewritten_of_not_target target]
      exact ⟨rfl, fun _ => Or.inl rfl⟩
  updates := footprint.history.kept

/-- A setting in which stores evolve and tracked copies have the right type. -/
structure Setting.Evolving (setting : Setting) : Prop where
  rely : ∀ {store later : Store}, setting.rely store later → Evolves store later
  across : ∀ {store later : Store}, setting.across store later → Evolves store later
  tracked : ∀ {copy : Incident} {store : Store}, setting.tracked copy store → Typed copy store

namespace Setting.Evolving

variable {setting : Setting} (evolving : setting.Evolving)
include evolving

theorem typed_of_reading {load : Store → Nat → List Component} {row : IncidentRow}
    {first later : Store} (reading : Reading setting.rely load copy row first later) :
    Typed copy later := by
  have stored : Typed copy first := ⟨row, reading.found, reading.type_eq.symm⟩
  exact stored.evolves (evolving.rely reading.reaches)

theorem source_typed {data : IncidentData} {component : Component} {source : Incident}
    (found : setting.Source data component source store) :
    source.type = .incident ∧ Typed source store := by
  rcases found with ⟨row, first, selected, _, reading, notMaintenance, _⟩
  refine ⟨?_, evolving.typed_of_reading reading⟩
  rcases (componentParams_selects selected).2 with incident | maintenance
  · exact reading.type_eq.trans incident
  · exact absurd (reading.type_eq.trans maintenance) notMaintenance

theorem target_typed {data : IncidentData} {target : Incident}
    (found : setting.Target data target store) :
    target.type = .incident ∧ Typed target store := by
  rcases found with ⟨row, first, selected, _, reading, _⟩
  exact ⟨reading.type_eq.trans (systemParams_selects selected).1,
    evolving.typed_of_reading reading⟩

theorem extracts_typed {activity : Activity} {components : List Component} {old : Incident}
    {impact : Int} {text : String} {description : Option String}
    (extracts : setting.Extracts activity store components old impact text description) :
    old.type = .incident := by
  cases extracts with
  | system names found => exact (evolving.source_typed found).1
  | request fetched type => exact type

omit evolving in
/-- A modification keeps the type of its event and raises a checked version. -/
theorem modified_keeps {β : Type} {choice : Choice} {statement : EventWrite β} {incident : Incident}
    {final : Store} (footprint : Footprint choice statement store final)
    (modifies : statement.modifies = some incident) (typed : Typed incident store) {id : Nat}
    {row : IncidentRow} (found : store.incidents.get? id = some row) (target : id = incident.id) :
    (modifiedRow choice.now incident (nextVersion incident) row).type = row.type ∧
      (row.type = .maintenance →
        row.version < (modifiedRow choice.now incident (nextVersion incident) row).version) := by
  subst target
  have type := typed.row_type found
  refine ⟨type.symm, ?_⟩
  intro maintenance
  rcases footprint.guarded incident modifies with ⟨version, expected, guarded⟩
  rcases guarded (type.symm.trans maintenance) with ⟨stored, present, same⟩
  rw [found] at present
  cases present
  change row.version < nextVersion incident
  unfold nextVersion
  rw [expected, ← same]
  exact lt_add_one row.version

omit evolving in
/-- Writing back copies of incidents keeps all types. -/
theorem written_keeps {now : Time} {first second : Incident} (firstType : first.type = .incident)
    (secondType : second.type = .incident) (firstTyped : Typed first store)
    (secondTyped : Typed second store) {id : Nat} {row : IncidentRow}
    (found : store.incidents.get? id = some row) (target : id = second.id ∨ id = first.id) :
    (writtenRow now first second id row).type = row.type ∧
      (row.type = .maintenance → row.version < (writtenRow now first second id row).version) := by
  have incident : row.type = .incident := by
    rcases target with rfl | rfl
    · exact (secondTyped.row_type found).trans secondType
    · exact (firstTyped.row_type found).trans firstType
  constructor
  · rw [(writtenRow_fields now first second id row).1]
    split_ifs
    · exact secondType.trans incident.symm
    · exact firstType.trans incident.symm
    · rfl
  · intro maintenance
    rw [incident] at maintenance
    cases maintenance

omit evolving in
/-- A row of an incident owes nothing to its version. -/
theorem not_maintenance {row : IncidentRow} {property : Prop} (incident : copy.type = .incident)
    (typed : Typed copy store) (found : store.incidents.get? copy.id = some row) :
    row.type = .maintenance → property := by
  intro maintenance
  rw [typed.row_type found, incident] at maintenance
  cases maintenance

omit evolving in
theorem moved_keeps {choice : Choice} {named : Component} {timeNow : Time} {old new : Incident}
    {close : Bool} (oldType : old.type = .incident) (newType : new.type = .incident)
    (oldTyped : Typed old store) (newTyped : Typed new store) {id : Nat} {row : IncidentRow}
    (found : store.incidents.get? id = some row)
    (target : id ∈ (moveStatement timeNow named old new close).targets) :
    ((moveStatement timeNow named old new close).rewritten choice id row).type = row.type ∧
      (row.type = .maintenance → row.version <
        ((moveStatement timeNow named old new close).rewritten choice id row).version) := by
  have sameId := movedSource_id timeNow named old new close
  have sameType := movedSource_type timeNow named old new close
  apply written_keeps newType (sameType.trans oldType) newTyped (oldTyped.congr sameId sameType)
    found
  rw [sameId]
  simpa [EventWrite.targets, receiveComponent] using target

/-- Every write an activity can attempt evolves the store. -/
theorem issued_evolves {deployment : Deployment} {activity : Activity} {β : Type}
    {statement : EventWrite β} {choice : Choice} {value : β} {final : Store}
    (issued : setting.Issued deployment activity store statement)
    (committed : statement.exec choice store = .ok (value, final)) : Evolves store final := by
  have footprint := exec_footprint committed
  apply evolves_of_footprint footprint
  intro id row found target
  cases issued with
  | regularCreate | systemCreate | extractSave | editText => cases target
  | regularMove regular valid names oldTracked newTracked oldSettled newSettled oldType newType =>
      exact moved_keeps oldType newType (evolving.tracked oldTracked) (evolving.tracked newTracked)
        found target
  | systemAdd names targetFound =>
    rcases evolving.target_typed targetFound with ⟨incident, typed⟩
    rw [EventWrite.targets, List.mem_singleton] at target
    subst target
    refine ⟨?_, not_maintenance incident typed found⟩
    simp [EventWrite.rewritten]
  | systemMove names same sourceFound targetFound =>
    rcases evolving.source_typed sourceFound with ⟨sourceType, sourceTyped⟩
    rcases evolving.target_typed targetFound with ⟨targetType, targetTyped⟩
    exact moved_keeps sourceType targetType sourceTyped targetTyped found target
  | systemRaise names sourceFound =>
    rcases evolving.source_typed sourceFound with ⟨incident, typed⟩
    rw [EventWrite.targets, List.mem_singleton] at target
    subst target
    refine ⟨?_, not_maintenance incident typed found⟩
    simp only [EventWrite.rewritten, if_true]
    exact (typed.row_type found).symm
  | extract extracts later inserted oldTracked savedTracked apart =>
    rename_i components old saved impact text description timeNow before
    have oldType := evolving.extracts_typed extracts
    have savedType : saved.type = .incident := by rw [inserted.same]; rfl
    have sameId : (extractedSource timeNow components old saved).id = old.id :=
      dropIncidentComponents_id _ _
    have sameType : (extractedSource timeNow components old saved).type = old.type :=
      dropIncidentComponents_type _ _
    apply written_keeps savedType (sameType.trans oldType) (evolving.tracked savedTracked)
      ((evolving.tracked oldTracked).congr sameId sameType) found
    rw [sameId]
    simpa [EventWrite.targets, extractionSource, extractionTarget] using target
  | systemMark type valid inserted tracked =>
    rw [EventWrite.targets, List.mem_singleton] at target
    rw [EventWrite.rewritten, if_pos target]
    exact modified_keeps footprint rfl ((evolving.tracked tracked).congr rfl rfl) found target
  | patch bound fetched =>
    rcases fetched with ⟨_, _, _, _, reading⟩
    rw [EventWrite.targets, List.mem_singleton] at target
    rw [EventWrite.rewritten, if_pos target]
    exact modified_keeps footprint rfl ((evolving.typed_of_reading reading).congr rfl rfl) found
      target
  | reopen status fetched allowed later =>
    rcases fetched with ⟨sameId, _, _, _, reading⟩
    have typed := (evolving.typed_of_reading reading).evolves (evolving.across later)
    rw [EventWrite.targets, List.mem_singleton] at target
    subst target
    subst sameId
    refine ⟨?_, not_maintenance (incident_of_reopened allowed status) typed found⟩
    simp [EventWrite.rewritten]
  | checkMaintenance kept listed type submitted later fetched fixes =>
    rcases fetched with ⟨_, _, _, _, reading⟩
    rcases completes_fixMntMissedStatuses fixes with ⟨added, rfl, _⟩
    rw [EventWrite.targets, List.mem_singleton] at target
    rw [EventWrite.rewritten, if_pos target]
    exact modified_keeps footprint rfl ((evolving.typed_of_reading reading).congr rfl rfl) found
      target
  | checkInfo type assumed kept reading later fixes =>
    rcases completes_fixInfoMissedStatuses fixes with ⟨added, rfl, _⟩
    have typed := (evolving.typed_of_reading reading).evolves (evolving.across later)
    rw [EventWrite.targets, List.mem_singleton] at target
    rw [EventWrite.rewritten, if_pos target]
    exact modified_keeps footprint rfl (typed.congr rfl rfl) found target

end Setting.Evolving

end StatusDashboard.Provenance
