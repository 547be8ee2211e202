import StatusDashboard.Provenance.Change
import StatusDashboard.Provenance.Evolution
import StatusDashboard.Storage.Delivery
import StatusDashboard.Storage.Reads

namespace StatusDashboard.Provenance

open Event Storage Tables Notification Handlers Process

/-!
# Activities that run at the same time

The setting of a pool: between two operations of an activity the others may
commit anything that evolves the store.  `pool_guarantees` reduces a property
of all events of all pools to the writes that `Issued` lists.
-/

variable {β ι : Type} {choice : Choice} {store final : Store} {deployment : Deployment}
variable {activity : Activity} {property assume : DbEvent → Prop} {around : Surroundings}
variable {incident : Incident} {activities : ι → Activity} {trace : List (ι × DbEvent)}

theorem evolves_of_sameEvents (same : SameEvents store final) :
    Evolves store final where
  rows id row found := ⟨row, by rw [same.incidents]; exact found, rfl, fun _ => Or.inl rfl⟩
  updates id row found := ⟨row, by rw [same.statuses]; exact found, .refl row⟩

theorem deliver_evolves (statement : OutboxWrite β) (choice : Choice) (store : Store) :
    Evolves store (database.perform choice (.deliver statement) store).2 :=
  evolves_of_sameEvents (deliver_sameEvents statement choice store)

theorem Setting.Evolving.write_evolves {setting : Setting} (evolving : setting.Evolving)
    {statement : EventWrite β} (issued : setting.Issued deployment activity store statement)
    (choice : Choice) : Evolves store (database.perform choice (.write statement) store).2 := by
  rw [perform_write]
  rcases commit_cases choice (statement.exec choice) store with ⟨error, shape⟩ |
    ⟨value, final, commits, shape⟩
  · rw [shape]
    exact Evolves.refl store
  · rw [shape]
    exact evolving.issued_evolves issued commits

/-- The event of a transaction that committed. -/
def committed {β : Type} (statement : EventWrite β) (value : β) (store final : Store) : DbEvent where
  operation := .write statement
  result := .ok value
  before := store
  after := final

/-- The event of a transaction that had no effect. -/
def refused {β : Type} (statement : EventWrite β) (error : DbError) (store : Store) : DbEvent where
  operation := .write statement
  result := .error error
  before := store
  after := store

theorem write_event (choice : Choice) (statement : EventWrite β) (store : Store) :
    (∃ error, database.event choice (.write statement) store = refused statement error store) ∨
      (∃ value final, statement.exec choice store = .ok (value, final) ∧
        database.event choice (.write statement) store = committed statement value store final) := by
  unfold Machine.event
  rw [perform_write]
  rcases commit_cases choice (statement.exec choice) store with ⟨error, shape⟩ |
    ⟨value, final, commits, shape⟩
  · rw [shape]
    exact Or.inl ⟨error, rfl⟩
  · rw [shape]
    exact Or.inr ⟨value, final, commits, rfl⟩

/-- What a property has to say about operations that write no event. -/
structure Unaffected (property : DbEvent → Prop) : Prop where
  silent : ∀ {β : Type} (choice : Choice) (operation : Op β) (store : Store),
    operation.silent = true → property (database.event choice operation store)
  delivered : ∀ {β : Type} (choice : Choice) (statement : OutboxWrite β) (store : Store),
    property (database.event choice (.deliver statement) store)
  refused : ∀ {β : Type} (statement : EventWrite β) (error : DbError) (store : Store),
    property (refused statement error store)

/-- The event of some transaction on events that committed. -/
def Commits (event : DbEvent) : Prop :=
  match event with
  | { operation := .write _, result := .ok _, .. } => True
  | _ => False

instance : DecidablePred Commits := fun event =>
  match event with
  | { operation := .write _, result := .ok _, .. } => isTrue trivial
  | { operation := .write _, result := .error _, .. } => isFalse id
  | { operation := .now, .. } => isFalse id
  | { operation := .read _, .. } => isFalse id
  | { operation := .deliver _, .. } => isFalse id
  | { operation := .send _ _, .. } => isFalse id
  | { operation := .backoff _, .. } => isFalse id

/-- What is read off the transaction of an event that committed. -/
def fromCommit {α : Type} (extract : {β : Type} → EventWrite β → Option α) (event : DbEvent) :
    Option α :=
  match event with
  | { operation := .write statement, result := .ok _, .. } => extract statement
  | _ => none

theorem fromCommit_of_quiet {α : Type} {extract : {β : Type} → EventWrite β → Option α}
    {event : DbEvent} (quiet : ¬ Commits event) : fromCommit extract event = none := by
  rcases event with ⟨operation, result, before, after⟩
  cases operation with
  | write =>
    cases result with
    | ok => exact absurd trivial quiet
    | error => rfl
  | _ => rfl

/-- A property that holds whenever no transaction commits and the events stay
the same. -/
theorem unaffected_of_quiet
    (quiet : ∀ event : DbEvent, ¬ Commits event → SameEvents event.before event.after →
      property event) : Unaffected property where
  silent choice operation store silent := by
    apply quiet
    · cases operation with
      | write => cases silent
      | _ => exact id
    · change SameEvents store (database.perform choice operation store).2
      rw [perform_silent choice silent store]
      exact SameEvents.refl store
  delivered choice statement store := quiet _ id (deliver_sameEvents statement choice store)
  refused statement error store := quiet _ id (SameEvents.refl store)

/-- A property of operations has to be shown of committed transactions only. -/
theorem Unaffected.event (unaffected : Unaffected property)
    (writes : ∀ {β : Type} {choice : Choice} {statement : EventWrite β} {value : β}
      {store final : Store}, statement.exec choice store = .ok (value, final) →
      property (committed statement value store final)) (choice : Choice) (operation : Op β)
    (store : Store) :
    property (database.event choice operation store) := by
  cases operation with
  | write statement =>
    rcases write_event choice statement store with ⟨error, shape⟩ |
      ⟨value, final, commits, shape⟩
    · rw [shape]
      exact unaffected.refused statement error store
    · rw [shape]
      exact writes commits
  | deliver statement => exact unaffected.delivered choice statement store
  | _ => exact unaffected.silent choice _ store rfl

/-- How all activities of a pool move the store, and what they keep true of it. -/
structure Surroundings where
  drift : Store → Store → Prop
  invariant : Store → Prop
  preorder : IsPreorder Store drift
  evolves : ∀ {store later : Store}, drift store later → Evolves store later
  keeps : ∀ {store later : Store}, drift store later → invariant store → invariant later
  quiet : ∀ {store later : Store}, SameEvents store later → drift store later

/-- Surroundings of which nothing more is known than that the store evolves. -/
def evolution : Surroundings where
  drift := Evolves
  invariant _ := True
  preorder := inferInstance
  evolves := id
  keeps _ _ := trivial
  quiet := evolves_of_sameEvents

/-- The setting of an activity in a pool. -/
def shared (around : Surroundings) (assume property : DbEvent → Prop)
    (unaffected : Unaffected property) : Setting where
  rely := around.drift
  assume := assume
  guarantee event := around.drift event.before event.after ∧ property event
  always := around.invariant
  preorder := around.preorder
  keeps := around.keeps
  steps _ _ _ held _ guaranteed := around.keeps guaranteed.1 held
  silent choice operation store silent := by
    refine ⟨?_, unaffected.silent choice operation store silent⟩
    change around.drift store (database.perform choice operation store).2
    rw [perform_silent choice silent store]
    exact around.preorder.refl store
  across := around.drift
  tracked := Typed
  current _ _ _ := True

/-- The setting of an activity in a pool that knows more of the copies it keeps
than their type. -/
def tracking (around : Surroundings) (tracked : Incident → Store → Prop)
    (assume property : DbEvent → Prop) (unaffected : Unaffected property) : Setting :=
  { shared around assume property unaffected with tracked := tracked }

/-- What is known of a copy has to last while the store evolves and has to be
known of a copy that was just loaded. -/
structure Lasting (around : Surroundings) (tracked : Incident → Store → Prop) : Prop where
  typed : ∀ {copy : Incident} {store : Store}, tracked copy store → Typed copy store
  evolves : ∀ {copy : Incident} {store later : Store}, Evolves store later →
    tracked copy store → tracked copy later
  loaded : ∀ {copy : Incident} {row : IncidentRow} {first later : Store},
    around.invariant first → Reading around.drift linkedComponents copy row first later →
    tracked copy later

theorem Lasting.evolving {tracked : Incident → Store → Prop} (lasting : Lasting around tracked)
    (unaffected : Unaffected property) :
    (tracking around tracked assume property unaffected).Evolving where
  rely := around.evolves
  across := around.evolves
  tracked := lasting.typed

theorem lasting_typed (around : Surroundings) : Lasting around Typed where
  typed := id
  evolves evolves typed := typed.evolves evolves
  loaded _ reading := by
    have := around.preorder
    have stored : Typed _ _ := ⟨_, reading.found, reading.type_eq.symm⟩
    exact stored.evolves (around.evolves reading.reaches)

theorem shared_evolving {unaffected : Unaffected property} :
    (shared around assume property unaffected).Evolving :=
  (lasting_typed around).evolving unaffected

/-- The copy a creation returns, the one it was made from and the row it is stored in. -/
structure NewCopy (incident created : Incident) (row : IncidentRow) (store final : Store) :
    Prop where
  id : created.id = store.incidents.nextId
  type : created.type = incident.type
  endDate : created.endDate = incident.endDate
  impact : created.impact = incident.impact
  components : created.components = incident.components
  stored : final.incidents.get? created.id = some row
  startDate : created.startDate = incident.startDate

theorem created_row {publisher : Option Publisher} {created : Incident} {userID : Option String}
    (commits : (EventWrite.createEvent publisher incident userID).exec choice store =
      .ok (created, final)) :
    NewCopy incident created (createdRow choice.now incident) store final := by
  have footprint := exec_footprint commits
  rcases createEventTx_ok commits with
    ⟨saved, inserted, modified, version, savedCommitted, _, ⟨statuses, _, shape⟩, _⟩
  rcases saveIncidentTx_ok savedCommitted with ⟨_, savedStatuses, _, rfl⟩
  have stored := footprint.fresh _ (SerialTable.get?_nextId store.incidents)
  rw [if_pos rfl] at stored
  subst shape
  exact ⟨rfl, rfl, rfl, rfl, rfl, stored, rfl⟩

theorem saved_row {saved : Incident}
    (commits : (EventWrite.saveIncident incident).exec choice store = .ok (saved, final)) :
    NewCopy incident saved (newIncidentRow choice.now incident) store final := by
  have footprint := exec_footprint commits
  rcases saveIncidentTx_ok commits with ⟨_, statuses, _, rfl⟩
  have stored := footprint.fresh _ (SerialTable.get?_nextId store.incidents)
  rw [if_pos rfl] at stored
  exact ⟨rfl, rfl, rfl, rfl, rfl, stored, rfl⟩

theorem moved_typed {named : Component} {timeNow : Time} {old new : Incident} {close : Bool}
    {moved : Incident × Incident} (oldTyped : Typed old final) (newTyped : Typed new final)
    (commits : (moveStatement timeNow named old new close).exec choice store = .ok (moved, final)) :
    ∀ copy ∈ [moved.1, moved.2], Typed copy final := by
  rcases moveComponentTx_ok commits with ⟨_, ⟨_, _, oldShape⟩, ⟨_, _, newShape⟩⟩
  have sameType := movedSource_type timeNow named old new close
  intro copy member
  rcases List.mem_cons.mp member with rfl | rest
  · rw [oldShape]
    refine oldTyped.congr ?_ sameType
    exact (releasedSource_id _ _ _).trans (releaseComponent_id _ _ _ _ _)
  · rw [List.mem_singleton.mp rest, newShape]
    exact newTyped.congr rfl rfl

theorem Setting.Evolving.returned_typed {setting : Setting} (evolving : setting.Evolving)
    {statement : EventWrite β} {value : β}
    (issued : setting.Issued deployment activity store statement)
    (commits : statement.exec choice store = .ok (value, final)) :
    ∀ copy ∈ statement.returned value, Typed copy final := by
  have evolves := evolving.issued_evolves issued commits
  intro copy member
  cases issued with
  | regularCreate | systemCreate =>
    rw [EventWrite.returned, List.mem_singleton] at member
    subst member
    rcases created_row commits with ⟨_, type, _, _, _, stored⟩
    exact ⟨_, stored, type.symm⟩
  | extractSave =>
    rw [EventWrite.returned, List.mem_singleton] at member
    subst member
    rcases saved_row commits with ⟨_, type, _, _, _, stored⟩
    exact ⟨_, stored, type.symm⟩
  | regularMove regular valid names oldTracked newTracked =>
      exact moved_typed ((evolving.tracked oldTracked).evolves evolves)
        ((evolving.tracked newTracked).evolves evolves) commits copy member
  | systemMove names same sourceFound targetFound =>
    exact moved_typed ((evolving.source_typed sourceFound).2.evolves evolves)
      ((evolving.target_typed targetFound).2.evolves evolves) commits copy member
  | extract extracts later inserted oldTracked savedTracked =>
    rw [EventWrite.returned, List.mem_singleton] at member
    subst member
    rcases extractComponentsTx_ok commits with ⟨_, statuses, _, shape⟩
    rw [shape]
    exact ((evolving.tracked savedTracked).evolves evolves).congr rfl rfl
  | systemAdd | systemRaise | systemMark | patch | reopen | editText | checkInfo => cases member
  | checkMaintenance => cases member

/-- The setting of a pool is sound once the writes an activity can attempt move
the store as the surroundings do and have the property, and what they return is
known as well as what was loaded. -/
theorem tracking_sound {tracked : Incident → Store → Prop} (lasting : Lasting around tracked)
    (unaffected : Unaffected property)
    (returned : ∀ {β : Type} {statement : EventWrite β} {choice : Choice} {value : β}
      {store final : Store},
      (tracking around tracked assume property unaffected).Issued deployment activity store
        statement →
      statement.exec choice store = .ok (value, final) →
      ∀ copy ∈ statement.returned value, tracked copy final)
    (writes : ∀ {β : Type} (statement : EventWrite β) (choice : Choice) (value : β)
      (store final : Store),
      (tracking around tracked assume property unaffected).Issued deployment activity store
        statement →
      statement.exec choice store = .ok (value, final) → Evolves store final →
      around.invariant store → assume (committed statement value store final) →
      around.drift store final ∧ property (committed statement value store final)) :
    (tracking around tracked assume property unaffected).Sound deployment activity where
  acrossPreorder := around.preorder
  within drift := drift
  drifts _ _ _ _ _ guaranteed := guaranteed.1
  promised statement choice store issued held assumed := by
    rcases write_event choice statement store with ⟨error, shape⟩ | ⟨value, final, commits, shape⟩
    · rw [shape]
      exact ⟨around.preorder.refl store, unaffected.refused statement error store⟩
    · rw [shape] at assumed ⊢
      exact writes statement choice value store final issued commits
        ((lasting.evolving unaffected).issued_evolves issued commits) held assumed
  delivered statement choice store _ _ :=
    ⟨around.quiet (deliver_sameEvents statement choice store),
      unaffected.delivered choice statement store⟩
  present held := by
    rcases lasting.typed held with ⟨row, found, _⟩
    exact ⟨row, found⟩
  stable drift held := lasting.evolves (around.evolves drift) held
  loaded kept reading := lasting.loaded kept reading
  kept issued commits _ held :=
    lasting.evolves ((lasting.evolving unaffected).issued_evolves issued commits) held
  written := returned
  seen _ := trivial
  steady _ _ := trivial
  spared _ _ _ := trivial

theorem shared_sound {unaffected : Unaffected property}
    (writes : ∀ {β : Type} (statement : EventWrite β) (choice : Choice) (value : β)
      (store final : Store),
      (shared around assume property unaffected).Issued deployment activity store statement →
      statement.exec choice store = .ok (value, final) → Evolves store final →
      around.invariant store → assume (committed statement value store final) →
      around.drift store final ∧ property (committed statement value store final)) :
    (shared around assume property unaffected).Sound deployment activity :=
  have evolving : (shared around assume property unaffected).Evolving := shared_evolving
  tracking_sound (lasting_typed around) unaffected
    (fun issued commits => evolving.returned_typed issued commits) writes

/-- Every event of every interleaving of activities, and of programs that only read,
moves the store as the surroundings do and has a property that the writes of the
activities have. -/
theorem pool_guarantees [DecidableEq ι] {programs : ι → Handler Response}
    (pool : Interleaving database programs store trace final)
    (acts : ∀ party, Reads (programs party) ∨
      programs party = (activities party).program deployment)
    (around : Surroundings) (assume property : ι → DbEvent → Prop)
    (unaffected : ∀ party, Unaffected (property party))
    (writes : ∀ (party : ι) {β : Type} (statement : EventWrite β) (choice : Choice) (value : β)
      (current next : Store),
      (shared around (assume party) (property party) (unaffected party)).Issued deployment
        (activities party) current statement →
      statement.exec choice current = .ok (value, next) → Evolves current next →
      around.invariant current → assume party (committed statement value current next) →
      around.drift current next ∧ property party (committed statement value current next))
    (start : around.invariant store) (assumed : ∀ entry ∈ trace, assume entry.1 entry.2) :
    (∀ entry ∈ trace, property entry.1 entry.2 ∧
        around.drift entry.2.before entry.2.after ∧ around.drift store entry.2.before) ∧
      around.drift store final := by
  have := around.preorder
  have ensures : ∀ party, Ensures database around.drift (assume party)
      (fun event => around.drift event.before event.after ∧ property party event)
      (fun _ _ => True) (programs party) store := by
    intro party
    rcases acts party with reads | same
    · exact Program.Only.ensures reads
        (shared around (assume party) (property party) (unaffected party)).silent store
    · rw [same]
      exact ((shared_sound (writes party)).yields_activity store start).mono (fun _ _ _ => trivial)
  have held := pool.guarantees ensures
    (fun party _ choice operation current _ _ guaranteed => guaranteed.1) assumed
  refine ⟨?_, held.2⟩
  intro entry member
  rcases held.1 entry member with ⟨guaranteed, reached⟩
  exact ⟨guaranteed.2, guaranteed.1, reached⟩

/-- The same with what a party did before: in `writes` the activity has made its
reads among the entries `seen`. -/
theorem pool_along [DecidableEq ι] (pool : Pool deployment activities store trace final)
    (property : List (ι × DbEvent) → ι → DbEvent → Prop)
    (unaffected : ∀ seen party, Unaffected (property seen party))
    (writes : ∀ (seen : List (ι × DbEvent)) (party : ι) {β : Type} (statement : EventWrite β)
      (choice : Choice) (value : β) (current next : Store),
      (shared evolution (fun event => (party, event) ∈ seen) (property seen party)
        (unaffected seen party)).Issued deployment (activities party) current statement →
      statement.exec choice current = .ok (value, next) → Evolves current next →
      property seen party (committed statement value current next)) :
    Along (fun earlier entry => property (earlier ++ [entry]) entry.1 entry.2) trace := by
  rw [along_iff]
  intro earlier entry later split
  subst split
  have whole : Pool deployment activities store ((earlier ++ [entry]) ++ later) final := by
    rw [List.append_assoc]
    exact pool
  rcases whole.prefix_of_append with ⟨middle, started, _⟩
  have held := pool_guarantees started (fun _ => Or.inr rfl) evolution
    (fun party event => (party, event) ∈ earlier ++ [entry]) (property (earlier ++ [entry]))
    (unaffected (earlier ++ [entry]))
    (fun party _ statement choice value current next issued commits evolves _ _ =>
      ⟨evolves, writes _ party statement choice value current next issued commits evolves⟩)
    trivial (fun _ member => member)
  exact (held.1 entry (List.mem_append_right earlier List.mem_cons_self)).1

end StatusDashboard.Provenance
