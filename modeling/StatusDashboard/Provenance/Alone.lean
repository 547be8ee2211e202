import StatusDashboard.Provenance.Shared

namespace StatusDashboard.Provenance

open Event Storage Tables Notification Handlers Process

/-!
# Activities that run one after another

When nobody interferes, every copy an activity holds agrees with the stored
event: same type, same impact, same dates, the same components.  Only a zero
end date is read as none.  `InSync` is this agreement.  It survives the writes the
activity makes to other events, and its own writes return copies that agree
again.  `session_invariant` reduces an invariant of all sessions to the writes
that `Issued` lists, with every copy in sync.
-/

variable {copy : Incident} {store final : Store} {row : IncidentRow} {choice : Choice}

structure InSync (copy : Incident) (store : Store) : Prop where
  stored : ∃ row, store.incidents.get? copy.id = some row ∧ row.type = copy.type ∧
    copy.impact = some row.impact ∧ (row.endDate = none → copy.endDate = none)
  linked : ∀ other, other ∈ store.componentIds copy.id ↔ other ∈ copy.wantedIds
  dated : ∀ row, store.incidents.get? copy.id = some row →
    copy.startDate = some row.startDate ∧ (copy.endDate = none ∨ copy.endDate = row.endDate)

theorem InSync.typed (sync : InSync copy store) :
    Typed copy store := by
  rcases sync.stored with ⟨row, found, type, _⟩
  exact ⟨row, found, type⟩

/-- A copy in sync has an impact and a start date. -/
theorem InSync.known (sync : InSync copy store) :
    copy.impact.isSome ∧ copy.startDate.isSome := by
  rcases sync.stored with ⟨row, found, _, impact, _⟩
  rw [impact, (sync.dated row found).1]
  exact ⟨rfl, rfl⟩

theorem componentIds_of_reading {first later : Store}
    (reading : Reading Eq linkedComponents copy row first later) :
    copy.componentIds = later.componentIds copy.id := by
  rcases reading.alone with ⟨_, _, equal⟩
  have components : copy.components = linkedComponents later copy.id :=
    congrArg Incident.components equal
  unfold Incident.componentIds
  rw [components, linkedComponents_ids]

theorem inSync_of_reading {first later : Store}
    (reading : Reading Eq linkedComponents copy row first later) : InSync copy later := by
  refine ⟨⟨row, reading.alone.2.1, reading.type_eq.symm, reading.impact_eq, ?_⟩, ?_, ?_⟩
  · intro ongoing
    rw [reading.endDate_eq, ongoing]
    rfl
  · intro other
    rw [mem_wantedIds, componentIds_of_reading reading]
    constructor
    · intro linked
      exact ⟨linked, Store.pos_of_mem_componentIds linked⟩
    · exact And.left
  · intro stored found
    rw [reading.alone.2.1] at found
    cases found
    refine ⟨reading.startDate_eq, ?_⟩
    rw [reading.endDate_eq]
    exact optTimePtr_cases row.endDate

/-- A copy that shows what is stored. -/
theorem inSync_stored (found : store.incidents.get? copy.id = some row)
    (shape : copy = storedCopy store (copy.id, row)) : InSync copy store := by
  have reading : Reading Eq linkedComponents copy row store store :=
    ⟨found, store, store, rfl, rfl, rfl, shape⟩
  exact inSync_of_reading reading

theorem componentIds_stored (shape : copy = storedCopy store (copy.id, row)) :
    copy.componentIds = store.componentIds copy.id := by
  rw [← linkedComponents_ids]
  exact congrArg Incident.componentIds shape

/-- A write to other events leaves a copy in sync. -/
theorem InSync.kept {β : Type} {statement : EventWrite β} (sync : InSync copy store)
    (footprint : Footprint choice statement store final) (untouched : copy.id ∉ statement.targets) :
    InSync copy final := by
  rcases sync.stored with ⟨row, found, type, impact, ending⟩
  have old : copy.id ≠ store.incidents.nextId := Nat.ne_of_lt (SerialTable.lt_nextId_of_get? found)
  have stored := footprint.rows copy.id row found
  rw [EventWrite.rewritten_of_not_target untouched] at stored
  refine ⟨⟨row, stored, type, impact, ending⟩, ?_, ?_⟩
  · intro other
    rw [footprint.linked, EventWrite.links_of_not_target untouched old]
    exact sync.linked other
  · intro later present
    rw [stored] at present
    cases present
    exact sync.dated row found

/-- Nothing is linked to an id that was not given out. -/
theorem not_linked_nextId (store : Store) (other : Nat) :
    other ∉ store.componentIds store.incidents.nextId := by
  intro linked
  rcases Store.incident_of_mem_componentIds linked with ⟨row, found⟩
  rw [SerialTable.get?_nextId] at found
  cases found

theorem wantedIds_congr {first second : Incident} (same : first.components = second.components) :
    first.wantedIds = second.wantedIds := by
  unfold Incident.wantedIds Incident.componentIds
  rw [same]

/-- A new copy with an impact and a start date agrees with its row. -/
theorem NewCopy.inSync {incident created : Incident} {now : Time}
    (new : NewCopy incident created row store final) (impact : incident.impact.isSome)
    (start : incident.startDate.isSome)
    (columns : row = { newIncidentRow now incident with
      status := row.status, version := row.version, modifiedAt := row.modifiedAt })
    (linked : ∀ other, other ∈ final.componentIds created.id ↔ other ∈ created.wantedIds) :
    InSync created final := by
  rcases Option.isSome_iff_exists.mp impact with ⟨value, known⟩
  rcases Option.isSome_iff_exists.mp start with ⟨date, started⟩
  refine ⟨⟨row, new.stored, ?_, ?_, ?_⟩, linked, ?_⟩
  · rw [columns, new.type]
    rfl
  · rw [columns, new.impact]
    simp [newIncidentRow, known]
  · intro ongoing
    rw [columns] at ongoing
    exact new.endDate.trans ongoing
  · intro other found
    cases new.stored.symm.trans found
    rw [new.startDate, new.endDate, columns]
    exact ⟨by simp [newIncidentRow, started], Or.inr rfl⟩

theorem created_inSync {publisher : Option Publisher} {incident created : Incident}
    {userID : Option String} (impact : incident.impact.isSome) (start : incident.startDate.isSome)
    (commits : (EventWrite.createEvent publisher incident userID).exec choice store =
      .ok (created, final)) : InSync created final := by
  have new := created_row commits
  refine new.inSync impact start rfl ?_
  intro other
  rw [(exec_footprint commits).linked, new.id, wantedIds_congr new.components]
  simp [EventWrite.links, not_linked_nextId]

theorem saved_inSync {incident saved : Incident} (impact : incident.impact.isSome)
    (start : incident.startDate.isSome)
    (commits : (EventWrite.saveIncident incident).exec choice store = .ok (saved, final)) :
    InSync saved final := by
  have new := saved_row commits
  refine new.inSync impact start rfl ?_
  intro other
  rw [(exec_footprint commits).linked, new.id, wantedIds_congr new.components]
  simp [EventWrite.links, not_linked_nextId]

/-- A copy written back over its row agrees with it. -/
theorem inSync_fullRow {now : Time}
    (stored : store.incidents.get? copy.id = some (fullRow now copy row))
    (impact : copy.impact.isSome) (start : copy.startDate.isSome)
    (linked : ∀ other, other ∈ store.componentIds copy.id ↔ other ∈ copy.wantedIds) :
    InSync copy store := by
  rcases Option.isSome_iff_exists.mp impact with ⟨value, known⟩
  rcases Option.isSome_iff_exists.mp start with ⟨date, started⟩
  refine ⟨⟨_, stored, rfl, ?_, fun ongoing => ongoing⟩, linked, ?_⟩
  · simp [fullRow, known]
  · intro later found
    rw [stored] at found
    cases found
    exact ⟨by simp [fullRow, started], Or.inr rfl⟩

/-- Two copies written back to different events agree with them afterwards. -/
theorem PairSaved.inSync {now : Time} {first second : Incident}
    (saved : PairSaved now first second store final) (apart : second.id ≠ first.id)
    (firstKnown : first.impact.isSome ∧ first.startDate.isSome)
    (secondKnown : second.impact.isSome ∧ second.startDate.isSome) :
    InSync first final ∧ InSync second final := by
  rcases saved.firstPresent with ⟨firstRow, firstFound⟩
  rcases saved.secondPresent with ⟨secondRow, secondFound⟩
  constructor
  · have stored : final.incidents.get? first.id = some (fullRow now first firstRow) := by
      rw [saved.get?, firstFound, Option.map_some, writtenRow_first apart]
    apply inSync_fullRow stored firstKnown.1 firstKnown.2
    intro other
    rw [saved.linked, if_neg (Ne.symm apart), if_pos rfl]
  · have stored : final.incidents.get? second.id = some (fullRow now second secondRow) := by
      rw [saved.get?, secondFound, Option.map_some, writtenRow_second apart]
    apply inSync_fullRow stored secondKnown.1 secondKnown.2
    intro other
    rw [saved.linked, if_pos rfl]

theorem InSync.congr {other : Incident} (sync : InSync copy store) (id : other.id = copy.id)
    (type : other.type = copy.type) (impact : other.impact = copy.impact)
    (dates : other.startDate = copy.startDate ∧ other.endDate = copy.endDate)
    (components : other.components = copy.components) : InSync other store := by
  rcases sync.stored with ⟨row, found, sameType, sameImpact, ongoing⟩
  refine ⟨⟨row, id ▸ found, sameType.trans type.symm, impact.trans sameImpact, ?_⟩, ?_, ?_⟩
  · rw [dates.2]
    exact ongoing
  · rw [id, wantedIds_congr components]
    exact sync.linked
  · rw [id, dates.1, dates.2]
    exact sync.dated

/-! ## The setting -/

/-- The setting of an activity that runs alone and keeps an invariant. -/
def alone (invariant : Store → Prop) (property : DbEvent → Prop)
    (unaffected : Unaffected property) : Setting where
  rely := Eq
  assume _ := True
  guarantee event := Evolves event.before event.after ∧
    (invariant event.before → invariant event.after) ∧ property event
  always := invariant
  preorder := eq_preorder
  keeps same held := same ▸ held
  steps _ _ _ held _ guaranteed := guaranteed.2.1 held
  silent choice operation store silent := by
    have same : (database.perform choice operation store).2 = store :=
      perform_silent choice silent store
    refine ⟨?_, ?_, unaffected.silent choice operation store silent⟩
    · change Evolves store (database.perform choice operation store).2
      rw [same]
      exact Evolves.refl store
    · intro held
      change invariant (database.perform choice operation store).2
      rw [same]
      exact held
  across := Evolves
  tracked := InSync
  current id row store := store.incidents.get? id = some row

section Alone

variable {invariant : Store → Prop} {property : DbEvent → Prop}
variable {unaffected : Unaffected property}
variable {deployment : Deployment} {activity : Activity}

variable {data : IncidentData}

theorem alone_evolving : (alone invariant property unaffected).Evolving where
  rely same := same ▸ Evolves.refl _
  across evolves := evolves
  tracked sync := sync.typed

theorem alone_source {component : Component} {source : Incident}
    (found : (alone invariant property unaffected).Source data component source
      store) :
    InSync source store ∧ source.type = .incident ∧
      source.componentIds = store.componentIds source.id ∧
      component.id ∈ store.componentIds source.id := by
  have typed := alone_evolving.source_typed found
  rcases found with ⟨row, first, selected, _, reading, _, _⟩
  rcases reading.alone with ⟨rfl, _, _⟩
  exact ⟨inSync_of_reading reading, typed.1, componentIds_of_reading reading,
    (componentParams_selects selected).1⟩

theorem alone_target {target : Incident}
    (found : (alone invariant property unaffected).Target data target store) :
    InSync target store ∧ target.type = .incident ∧
      target.componentIds = store.componentIds target.id ∧
      ∃ row, store.incidents.get? target.id = some row ∧ target.endDate = optTimePtr row.endDate := by
  have typed := alone_evolving.target_typed found
  rcases found with ⟨row, first, _, _, reading, _⟩
  exact ⟨inSync_of_reading reading, typed.1, componentIds_of_reading reading, row,
    reading.alone.2.1, reading.endDate_eq⟩

/-- The target of a system move has a higher impact than its source. -/
theorem alone_apart {component : Component} {source target : Incident}
    (sourceFound : (alone invariant property unaffected).Source data component
      source store) (targetFound : (alone invariant property unaffected).Target data target
      store) : source.id ≠ target.id := by
  intro same
  rcases sourceFound with ⟨sourceRow, _, _, _, sourceReading, _, _, lower⟩
  rcases targetFound with ⟨targetRow, _, _, _, targetReading, impact⟩
  have sourceStored := sourceReading.alone.2.1
  have targetStored := targetReading.alone.2.1
  rw [same, targetStored] at sourceStored
  cases sourceStored
  rw [sourceReading.impact_eq] at lower
  rw [targetReading.impact_eq, Option.some.injEq] at impact
  exact absurd lower (by simp [impact])

theorem moved_inSync {named : Component} {timeNow : Time} {old new : Incident} {close : Bool}
    {moved : Incident × Incident} (oldSync : InSync old store) (newSync : InSync new store)
    (apart : old.id ≠ new.id)
    (commits : (moveStatement timeNow named old new close).exec choice store = .ok (moved, final)) :
    ∀ copy ∈ [moved.1, moved.2], InSync copy final := by
  rcases moveComponentTx_ok commits with ⟨saved, ⟨_, _, oldShape⟩, ⟨_, _, newShape⟩⟩
  have releasedId := movedSource_id timeNow named old new close
  have released : (movedSource timeNow named old new close).impact = old.impact ∧
      (movedSource timeNow named old new close).startDate = old.startDate := by
    unfold movedSource releasedSource releaseComponent
    split_ifs <;> exact ⟨rfl, rfl⟩
  have both := PairSaved.inSync saved (by rw [releasedId]; exact apart) newSync.known
    (by rw [released.1, released.2]; exact oldSync.known)
  intro copy member
  rcases List.mem_cons.mp member with rfl | rest
  · rw [oldShape]
    exact both.2.congr rfl rfl rfl ⟨rfl, rfl⟩ rfl
  · rw [List.mem_singleton.mp rest, newShape]
    exact both.1.congr rfl rfl rfl ⟨rfl, rfl⟩ rfl

theorem alone_returned {β : Type} {statement : EventWrite β} {value : β}
    (issued : (alone invariant property unaffected).Issued deployment activity
      store statement) (commits : statement.exec choice store = .ok (value, final)) :
    ∀ copy ∈ statement.returned value, InSync copy final := by
  intro copy member
  cases issued with
  | regularCreate | systemCreate =>
    rw [EventWrite.returned, List.mem_singleton] at member
    subst member
    exact created_inSync rfl rfl commits
  | extractSave =>
    rw [EventWrite.returned, List.mem_singleton] at member
    subst member
    exact saved_inSync rfl rfl commits
  | regularMove regular valid names oldTracked newTracked oldSettled newSettled oldType newType
      newOngoing holds distinct apart =>
      exact moved_inSync oldTracked newTracked apart commits copy member
  | systemMove names same sourceFound targetFound =>
    exact moved_inSync (alone_source sourceFound).1 (alone_target targetFound).1
      (alone_apart sourceFound targetFound) commits copy member
  | extract extracts later inserted oldTracked savedTracked apart =>
    rename_i components old saved impact text description timeNow before
    rw [EventWrite.returned, List.mem_singleton] at member
    subst member
    rcases extractComponentsTx_ok commits with ⟨pair, statuses, _, shape⟩
    have both := PairSaved.inSync pair
      (by rw [dropIncidentComponents_id]; exact apart) savedTracked.known
      (by rw [dropIncidentComponents_fields]; exact oldTracked.known)
    rw [shape]
    exact both.1.congr rfl rfl rfl ⟨rfl, rfl⟩ rfl
  | systemAdd | systemRaise | systemMark | patch | reopen | editText | checkInfo => cases member
  | checkMaintenance => cases member

/-- The setting of an activity that runs alone is sound once the writes it can
attempt keep the invariant and have the property. -/
theorem alone_sound
    (unconcerned : ∀ {store final : Store}, SameEvents store final → invariant store →
      invariant final)
    (writes : ∀ {β : Type} (statement : EventWrite β) (choice : Choice) (value : β)
      (store final : Store),
      (alone invariant property unaffected).Issued deployment activity store statement →
      statement.exec choice store = .ok (value, final) → invariant store →
      invariant final ∧ property (committed statement value store final)) :
    (alone invariant property unaffected).Sound deployment activity where
  acrossPreorder := inferInstanceAs (IsPreorder Store Evolves)
  within same := same ▸ Evolves.refl _
  drifts _ _ _ _ _ guaranteed := guaranteed.1
  promised statement choice store issued held _ := by
    refine ⟨alone_evolving.write_evolves issued choice, ?_⟩
    rcases write_event choice statement store with ⟨error, shape⟩ | ⟨value, final, commits, shape⟩
    · rw [shape]
      exact ⟨id, unaffected.refused statement error store⟩
    · rw [shape]
      have kept := writes statement choice value store final issued commits held
      exact ⟨fun _ => kept.1, kept.2⟩
  delivered statement choice store _ _ :=
    ⟨deliver_evolves statement choice store, unconcerned (deliver_sameEvents statement choice store),
      unaffected.delivered choice statement store⟩
  present sync := by
    rcases sync.stored with ⟨row, found, _⟩
    exact ⟨row, found⟩
  stable same sync := same ▸ sync
  loaded _ reading := inSync_of_reading reading
  kept _ commits untouched sync := sync.kept (exec_footprint commits) untouched
  written issued commits := alone_returned issued commits
  seen reading := reading.alone.2.1
  steady same stored := same ▸ stored
  spared commits untouched stored := by
    have kept := (exec_footprint commits).rows _ _ stored
    rw [EventWrite.rewritten_of_not_target untouched] at kept
    exact kept

/-- Every event of an activity that runs alone has a property that its writes
have. -/
theorem run_guarantees {events : List DbEvent} {outcome : Except ApiError Response}
    (unaffected : Unaffected property)
    (unconcerned : ∀ {store final : Store}, SameEvents store final → invariant store →
      invariant final)
    (writes : ∀ {β : Type} (statement : EventWrite β) (choice : Choice) (value : β)
      (current next : Store),
      (alone invariant property unaffected).Issued deployment activity current statement →
      statement.exec choice current = .ok (value, next) → invariant current →
      invariant next ∧ property (committed statement value current next))
    (run : Run database (activity.program deployment) store events outcome final)
    (start : invariant store) : (∀ event ∈ events, property event) ∧ invariant final := by
  have sound : (alone invariant property unaffected).Sound deployment activity :=
    alone_sound unconcerned writes
  have held := (sound.yields_activity store).run start run (fun _ _ => trivial)
  exact ⟨fun event member => (held.1 event member).2.2, held.2⟩

end Alone

/-- Every event of every session has a property that the writes of its
activities have. -/
theorem session_guarantees {invariant : Store → Prop} {property : Activity → DbEvent → Prop}
    {deployment : Deployment} {entries : List Performed}
    (unaffected : ∀ activity, Unaffected (property activity))
    (unconcerned : ∀ {store final : Store}, SameEvents store final → invariant store →
      invariant final)
    (writes : ∀ (activity : Activity) {β : Type} (statement : EventWrite β) (choice : Choice)
      (value : β) (current next : Store),
      (alone invariant (property activity) (unaffected activity)).Issued deployment activity current
        statement →
      statement.exec choice current = .ok (value, next) → invariant current →
      invariant next ∧ property activity (committed statement value current next))
    (session : Session deployment store entries final) (start : invariant store) :
    (∀ entry ∈ entries, ∀ event ∈ entry.events, property entry.activity event) ∧
      invariant final := by
  induction session with
  | rest => exact ⟨List.forall_mem_nil _, start⟩
  | @step store middle final first later run tail ih =>
    have held := run_guarantees (unaffected first.activity) unconcerned (writes first.activity) run
      start
    rcases ih held.2 with ⟨others, ending⟩
    exact ⟨List.forall_mem_cons.mpr ⟨held.1, others⟩, ending⟩

/-- A property of stores that every write keeps exactly when it meets a
condition holds in all stores a session reaches as long as the condition is met. -/
theorem session_exact {holds : Store → Prop} {condition : Activity → DbEvent → Prop}
    {deployment : Deployment} {entries : List Performed}
    (steady : ∀ {store final : Store}, SameEvents store final → holds store → holds final)
    (quiet : ∀ activity event, ¬ Commits event → condition activity event)
    (exact : ∀ (activity : Activity) (within : DbEvent → Prop) (unaffected : Unaffected within)
      {β : Type} (statement : EventWrite β) (choice : Choice) (value : β) (current next : Store),
      (alone (fun _ => True) within unaffected).Issued deployment activity current statement →
      statement.exec choice current = .ok (value, next) → holds current →
      (holds next ↔ condition activity (committed statement value current next)))
    (session : Session deployment store entries final) (start : holds store) :
    (∀ entry ∈ entries, ∀ event ∈ entry.events, holds event.before →
      (holds event.after ↔ condition entry.activity event)) ∧
    ((∀ entry ∈ entries, ∀ event ∈ entry.events, condition entry.activity event) →
      (∀ entry ∈ entries, ∀ event ∈ entry.events, holds event.before ∧ holds event.after) ∧
      holds final) := by
  have unaffected : ∀ activity, Unaffected (fun event => holds event.before →
      (holds event.after ↔ condition activity event)) := fun activity =>
    unaffected_of_quiet (fun event still same held => iff_of_true (steady same held)
      (quiet activity event still))
  have steps := (session_guarantees unaffected (fun _ _ => trivial)
    (fun activity _ statement choice value current next issued commits _ =>
      ⟨trivial, exact activity _ (unaffected activity) statement choice value current next issued
        commits⟩) session trivial).1
  refine ⟨steps, ?_⟩
  intro met
  have held := session.chained.invariant holds start (by
    intro event member before
    rcases List.mem_flatMap.mp member with ⟨entry, listed, performed⟩
    exact (steps entry listed event performed before).mpr (met entry listed event performed))
  refine ⟨?_, held.2⟩
  intro entry listed event performed
  exact held.1 event (List.mem_flatMap.mpr ⟨entry, listed, performed⟩)

end StatusDashboard.Provenance
