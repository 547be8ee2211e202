import StatusDashboard.Handlers.Route
import StatusDashboard.Properties.Atomicity

namespace StatusDashboard.Properties

open Event Storage Tables Notification Handlers Process Provenance

/-!
# What a reporter can change

A machine reporter may only report system incidents.  Whatever it sends on
whatever route, events that are no system incidents stay as they are.  A new
incident that is split off an existing one is first stored as a regular one and
marked as a system incident in a later transaction of the same request, so it
stays a regular incident when the request fails in between.

A monitor follows each request: it remembers the incident that is split off and
not marked yet, and whether a transaction was refused meanwhile.
-/

variable {α ε β : Type} {program : Program Op ε α} {statement : EventWrite β}

/-- The incident an extraction stores before it moves components there. -/
def splitOff : {β : Type} → EventWrite β → Option Incident
  | _, .saveIncident incident => some incident
  | _, _ => none

/-- The incident an extraction moves components to. -/
def splitTarget : {β : Type} → EventWrite β → Option Incident
  | _, .extractComponents _ incident _ => some incident
  | _, _ => none

/-- The event of a transaction on events that was refused. -/
def Refuses (event : DbEvent) : Bool :=
  match event with
  | { operation := .write _, result := .error _, .. } => true
  | _ => false

structure Splitting where
  unmarked : Option Nat := none
  interrupted : Bool := false
deriving DecidableEq

/-- Components are moved only to the incident just split off, which is then
marked before the next one is split off. -/
def splitting : Monitor Op Store Splitting where
  allowed progress event :=
    (∀ incident ∈ fromCommit splitOff event, progress.unmarked = none) ∧
      (∀ incident ∈ fromCommit splitTarget event, progress.unmarked = some incident.id) ∧
      (∀ incident ∈ fromCommit EventWrite.modifies event,
        progress.unmarked = some incident.id ∧ incident.system = true)
  advance progress event :=
    if (fromCommit splitOff event).isSome then
      { progress with unmarked := some event.before.incidents.nextId }
    else if (fromCommit EventWrite.modifies event).isSome then
      { progress with unmarked := none }
    else if progress.unmarked.isSome && Refuses event then
      { progress with interrupted := true }
    else progress

/-- How the requests of a party stand after a trace. -/
def progressOf {ι : Type} [DecidableEq ι] (party : ι) (trace : List (ι × DbEvent)) : Splitting :=
  splitting.memory {} (ownEvents party trace)

/-! ## One request -/

/-- A request that has ended left an incident unmarked exactly if it was
interrupted, and went through only if it was not. -/
def Wound {α ε : Type} (progress : Splitting) (outcome : Except ε α) : Prop :=
  progress.interrupted = progress.unmarked.isSome ∧
    ∀ value, outcome = .ok value → progress = {}

theorem wound_start (outcome : Except ε α) : Wound {} outcome :=
  ⟨rfl, fun _ _ => rfl⟩

theorem obeys_reads (reads : Reads program) :
    splitting.Obeys database (fun progress _ => progress = {}) program {} := by
  refine Monitor.obeys_of_only reads ?_
  intro β choice operation state silent
  cases operation with
  | write | deliver => cases silent
  | _ => exact ⟨⟨by simp [fromCommit, Machine.event], by simp [fromCommit, Machine.event],
      by simp [fromCommit, Machine.event]⟩, rfl⟩

theorem wound_of_reads (reads : Reads program) :
    splitting.Obeys database Wound program {} :=
  (obeys_reads reads).mono (fun _ outcome start => start ▸ wound_start outcome)

/-- Continue after a part that leaves nothing unmarked. -/
theorem wound_bind {γ : Type} {rest : α → Program Op ε γ}
    (first : splitting.Obeys database Wound program {})
    (second : ∀ value, splitting.Obeys database Wound (rest value) {}) :
    splitting.Obeys database Wound (program >>= rest) {} := by
  refine first.bind ?_ ?_
  · intro progress value wound
    rw [wound.2 value rfl]
    exact second value
  · intro progress error wound
    exact ⟨wound.1, nofun⟩

/-- A monitored transaction is refused or commits. -/
theorem obeys_transaction {μ : Type} {monitor : Monitor Op Store μ} {start : μ}
    {post : μ → Except DbError β → Prop}
    (refusal : ∀ error store, monitor.allowed start (refused statement error store) ∧
      post (monitor.advance start (refused statement error store)) (.error error))
    (commitment : ∀ choice value store final, statement.exec choice store = .ok (value, final) →
      monitor.allowed start (committed statement value store final) ∧
        post (monitor.advance start (committed statement value store final)) (.ok value)) :
    monitor.Obeys database post (write statement) start := by
  intro choice state
  rcases commit_cases choice (statement.exec choice) state with ⟨error, shape⟩ |
    ⟨value, final, commits, shape⟩
  · have performed : database.perform choice (.write statement) state = (.error error, state) :=
      shape
    simp only [Machine.event, performed]
    exact refusal error state
  · have performed : database.perform choice (.write statement) state = (.ok value, final) :=
      shape
    simp only [Machine.event, performed]
    exact commitment choice value state final commits

/-- A transaction that belongs to no extraction. -/
theorem obeys_write (saves : splitOff statement = none) (splits : splitTarget statement = none)
    (modifies : statement.modifies = none) :
    splitting.Obeys database Wound (write statement) {} := by
  apply obeys_transaction
  · intro error store
    exact ⟨⟨by simp [fromCommit, refused], by simp [fromCommit, refused],
      by simp [fromCommit, refused]⟩, wound_start _⟩
  · intro choice value store final _
    have saved : fromCommit splitOff (committed statement value store final) = none := saves
    have moved : fromCommit splitTarget (committed statement value store final) = none := splits
    have modified : fromCommit EventWrite.modifies (committed statement value store final) = none :=
      modifies
    refine ⟨⟨by simp [saved], by simp [moved], by simp [modified]⟩, ?_⟩
    have kept : splitting.advance {} (committed statement value store final) = {} := by
      simp [splitting, saved, modified]
    rw [kept]
    exact wound_start _

/-- Once an incident is split off it is the one remembered. -/
theorem obeys_splitOff {incident : Incident} :
    splitting.Obeys database (fun progress outcome =>
      (∀ saved, outcome = .ok saved → progress = { unmarked := some saved.id }) ∧
        ∀ error, outcome = .error error → progress = {})
      (write (.saveIncident incident)) {} := by
  apply obeys_transaction
  · intro error store
    exact ⟨⟨by simp [fromCommit, refused], by simp [fromCommit, refused],
      by simp [fromCommit, refused]⟩, fun saved impossible => (nomatch impossible), fun _ _ => rfl⟩
  · intro choice saved store final commits
    refine ⟨⟨fun _ _ => rfl, by simp [fromCommit, committed, splitTarget],
      by simp [fromCommit, committed, EventWrite.modifies]⟩, ?_,
      nofun⟩
    intro value same
    cases same
    rw [(saved_row commits).id]
    rfl

/-- The rest of an extraction, with an incident split off: a refusal is remembered. -/
theorem obeys_whileUnmarked {id : Nat} {post : Splitting → Except DbError β → Prop}
    (saves : splitOff statement = none)
    (moves : ∀ incident ∈ splitTarget statement, incident.id = id)
    (marks : ∀ incident ∈ statement.modifies, incident.id = id ∧ incident.system = true)
    (refusal : ∀ error, post { unmarked := some id, interrupted := true } (.error error))
    (commitment : ∀ choice value store final, statement.exec choice store = .ok (value, final) →
      post { unmarked := if statement.modifies.isSome then none else some id } (.ok value)) :
    splitting.Obeys database post (write statement) { unmarked := some id } := by
  apply obeys_transaction
  · intro error store
    exact ⟨⟨by simp [fromCommit, refused], by simp [fromCommit, refused],
      by simp [fromCommit, refused]⟩, refusal error⟩
  · intro choice value store final commits
    have saved : fromCommit splitOff (committed statement value store final) = none := saves
    have modified : fromCommit EventWrite.modifies (committed statement value store final) =
        statement.modifies := rfl
    refine ⟨⟨by simp [saved], ?_, ?_⟩, ?_⟩
    · intro incident member
      rw [moves incident member]
    · intro incident member
      exact ⟨by rw [(marks incident member).1], (marks incident member).2⟩
    · have advanced : splitting.advance { unmarked := some id }
          (committed statement value store final) =
          { unmarked := if statement.modifies.isSome then none else some id } := by
        have accepted : Refuses (committed statement value store final) = false := rfl
        cases modifies : statement.modifies with
        | none => simp [splitting, saved, modified, modifies, accepted]
        | some => simp [splitting, saved, modified, modifies]
      rw [advanced]
      exact commitment choice value store final commits

/-- Splitting an incident off and moving components to it. -/
theorem obeys_extraction {components : List Component} {old : Incident} {impact : Int}
    {text : String} {description : Option String} :
    splitting.Obeys database (fun progress outcome =>
      (∀ incident, outcome = .ok incident → progress = { unmarked := some incident.id }) ∧
        ∀ error, outcome = .error error → progress.interrupted = progress.unmarked.isSome)
      (extractComponentsToNewIncident components old impact text description) {} := by
  unfold extractComponentsToNewIncident
  split_ifs
  · exact ⟨fun incident impossible => (nomatch impossible), fun _ _ => rfl⟩
  · refine (obeys_reads reads_currentTime).bind ?_ ?_
    · rintro progress timeNow rfl
      refine obeys_splitOff.bind ?_ ?_
      · intro progress saved remembered
        rw [remembered.1 saved rfl]
        have moved : splitting.Obeys database (fun progress outcome =>
            (∀ copies : Incident × Incident, outcome = .ok copies →
              progress = { unmarked := some saved.id } ∧ copies.2.id = saved.id) ∧
              ∀ error, outcome = .error error →
                progress.interrupted = progress.unmarked.isSome)
            (write (extractStatement timeNow components old saved))
            { unmarked := some saved.id } := by
          apply obeys_whileUnmarked rfl
          · rintro incident ⟨⟩
            rfl
          · rintro incident ⟨⟩
          · intro error
            exact ⟨fun copies impossible => (nomatch impossible), fun _ _ => rfl⟩
          · intro choice copies store final commits
            refine ⟨?_, nofun⟩
            rintro _ ⟨⟩
            rcases extractComponentsTx_ok commits with ⟨_, statuses, _, shape⟩
            exact ⟨rfl, by rw [shape]; rfl⟩
        refine moved.bind ?_ ?_
        · intro progress copies held
          rcases held.1 copies rfl with ⟨rfl, same⟩
          refine ⟨?_, nofun⟩
          rintro _ ⟨⟩
          rw [same]
        · intro progress error held
          exact ⟨fun incident impossible => (nomatch impossible), fun _ _ => held.2 error rfl⟩
      · intro progress error held
        rw [held.2 error rfl]
        exact ⟨fun incident impossible => (nomatch impossible), fun _ _ => rfl⟩
    · rintro progress error rfl
      exact ⟨fun incident impossible => (nomatch impossible), fun _ _ => rfl⟩

/-- The incident split off by a system creation is marked at last. -/
theorem obeys_split {components : List Component} {old : Incident} {impact : Int}
    {text : String} {description : Option String} :
    splitting.Obeys database Wound (do
      let incident ← extractComponentsToNewIncident components old impact text description
      write (.modifyIncident { incident with system := true })) {} := by
  refine obeys_extraction.bind ?_ ?_
  · intro progress incident held
    rw [held.1 incident rfl]
    apply obeys_whileUnmarked rfl
    · rintro other ⟨⟩
    · rintro other ⟨⟩
      exact ⟨rfl, rfl⟩
    · intro error
      exact ⟨rfl, fun value impossible => nomatch impossible⟩
    · intro choice value store final _
      exact wound_start _
  · intro progress error held
    exact ⟨held.2 error rfl, fun value impossible => nomatch impossible⟩

theorem reads_namedComponent (component : Component) : Reads (namedComponent component) := by
  unfold namedComponent
  split_ifs
  · exact reads_read _
  · exact reads_pure _

theorem obeys_processSystemComponent (data : IncidentData) (component : Component) :
    splitting.Obeys database Wound (processSystemIncidentComponent data component) {} := by
  have added : splitting.Obeys database Wound (addComponentToSystemIncident component data) {} := by
    refine wound_bind (wound_of_reads (reads_getEvents _ _)) ?_
    intro incidents
    split
    · exact wound_bind (wound_of_reads reads_currentTime) (fun _ => obeys_write rfl rfl rfl)
    · exact obeys_write rfl rfl rfl
  have moved : ∀ source, splitting.Obeys database Wound
      (moveComponentFromToSystemIncidents component data source) {} := by
    intro source
    refine wound_bind (wound_of_reads (reads_getEvents _ _)) ?_
    intro incidents
    split
    · refine wound_bind ?_ (fun _ => wound_start _)
      exact wound_bind (wound_of_reads reads_currentTime) (fun _ =>
        wound_bind (wound_of_reads (reads_namedComponent _)) (fun _ => obeys_write rfl rfl rfl))
    · split_ifs
      · exact wound_bind (wound_of_reads reads_currentTime) (fun _ =>
          wound_bind (obeys_write rfl rfl rfl) (fun _ => wound_start _))
      · exact obeys_split
  refine wound_bind (wound_of_reads (reads_getEventsByComponentID _ _)) ?_
  intro events
  split_ifs
  · exact wound_bind added (fun _ => wound_start _)
  · unfold handleComponentWithExistingEvents
    split
    · exact wound_start _
    · exact wound_start _
    · unfold handleSystemIncidentWithImpactComparison
      split_ifs
      · exact wound_start _
      · exact wound_bind (moved _) (fun _ => wound_start _)
    · exact wound_start _

theorem obeys_systemCreation (data : IncidentData) :
    splitting.Obeys database Wound (handleSystemIncidentCreation data) {} := by
  refine wound_bind (wound_of_reads (reads_fetchComponents _)) ?_
  intro components
  induction components with
  | nil => exact wound_start _
  | cons component components ih =>
    exact wound_bind (obeys_processSystemComponent _ component) (fun _ =>
      wound_bind ih (fun _ => wound_start _))

/-- Every request of a reporter, on any route, follows the monitor. -/
theorem obeys_request {deployment : Deployment} {backends : Backends} {caller : Caller}
    (reporter : caller.role = .reporter) (request : Request) :
    splitting.Obeys database Wound (request.program deployment backends caller) {} := by
  rcases reporter_reads reporter request with reads | ⟨data, rfl, system⟩
  · exact wound_of_reads reads
  · have facts : data.type = .incident ∧ data.system = some true := by
      simpa [isSystemIncident] using system
    have created : splitting.Obeys database Wound
        (routeIncidentCreation deployment caller data) {} := by
      unfold routeIncidentCreation
      rw [if_pos facts.2, if_neg (not_not.mpr facts.1)]
      refine Monitor.Obeys.mapError ((obeys_systemCreation data).mono ?_)
      intro progress outcome wound
      refine ⟨wound.1, ?_⟩
      intro value same
      cases outcome with
      | ok inner => exact wound.2 inner rfl
      | error => cases same
    have prepared : prepareIncidentCreate deployment caller data =
        validateEventCreation data >>= fun _ => pure data := by
      unfold prepareIncidentCreate
      rw [if_neg (by rw [system]; simp), if_neg (by rw [facts.1]; decide)]
    have handled : splitting.Obeys database Wound
        (postIncidentHandler deployment caller data) {} := by
      unfold postIncidentHandler
      split_ifs
      · exact wound_start _
      · rw [prepared, Program.bind_assoc]
        refine wound_bind (wound_of_reads (reads_validateEventCreation data)) ?_
        intro _
        rw [Program.pure_eq_done, Program.done_bind]
        exact wound_bind created (fun _ => wound_start _)
    exact wound_bind (wound_of_reads (reads_rbacAuthorization caller)) (fun _ =>
      wound_bind (wound_start _) (fun _ =>
        wound_bind (wound_of_reads (reads_validateComponents _)) (fun _ => handled)))

/-! ## One transaction -/

def SystemIncident (row : IncidentRow) : Prop :=
  row.type = .incident ∧ row.system = true

instance (row : IncidentRow) : Decidable (SystemIncident row) :=
  inferInstanceAs (Decidable (_ ∧ _))

/-- All events of `origin` that are no system incidents are as they were there,
and so are the components. -/
structure Spares (origin store : Store) : Prop where
  rows : ∀ id row, origin.incidents.get? id = some row → ¬ SystemIncident row →
    store.incidents.get? id = some row ∧
      (∀ component, component ∈ store.componentIds id ↔ component ∈ origin.componentIds id) ∧
      store.history id = origin.history id
  components : store.components = origin.components

/-- System incidents stay system incidents. -/
def FlagsStay (store later : Store) : Prop :=
  ∀ id row laterRow, store.incidents.get? id = some row →
    later.incidents.get? id = some laterRow → row.system = true → laterRow.system = true

/-- How reporters move a store. -/
structure Drifts (origin store later : Store) : Prop where
  evolves : Evolves store later
  flags : FlagsStay store later
  spares : Spares origin store → Spares origin later

theorem drifts_of_sameEvents {origin store later : Store} (same : SameEvents store later) :
    Drifts origin store later where
  evolves := evolves_of_sameEvents same
  flags id row laterRow found foundLater flag := by
    rw [same.incidents, found] at foundLater
    cases foundLater
    exact flag
  spares spared := by
    have links : ∀ id, later.componentIds id = store.componentIds id := by
      intro id
      unfold Store.componentIds
      rw [same.relation]
    have history : ∀ id, later.history id = store.history id := by
      intro id
      unfold Store.history
      rw [same.statuses]
    refine ⟨?_, by rw [same.components]; exact spared.components⟩
    intro id row found other
    rw [same.incidents, links, history]
    exact spared.rows id row found other

def reporting (origin : Store) : Surroundings where
  drift := Drifts origin
  invariant := Spares origin
  preorder := {
    refl := fun store => drifts_of_sameEvents (SameEvents.refl store)
    trans := fun first second third before after => {
      evolves := before.evolves.trans after.evolves
      flags := fun id row laterRow found foundLater flag => by
        rcases before.evolves.rows id row found with ⟨middle, present, _⟩
        exact after.flags id middle laterRow present foundLater
          (before.flags id row middle found present flag)
      spares := fun spared => after.spares (before.spares spared) } }
  evolves drift := drift.evolves
  keeps drift spared := drift.spares spared
  quiet same := drifts_of_sameEvents same

/-- What an operation of a reporter does to the flags: it leaves those of
stored events alone but for the incident it marks, and a new event is a system
incident or has just been split off. -/
structure Flagged (event : DbEvent) : Prop where
  kept : ∀ id row later, event.before.incidents.get? id = some row →
    event.after.incidents.get? id = some later →
    (∀ incident ∈ fromCommit EventWrite.modifies event, incident.id ≠ id) →
    later.system = row.system
  marked : ∀ incident ∈ fromCommit EventWrite.modifies event, ∀ row later,
    event.before.incidents.get? incident.id = some row →
    event.after.incidents.get? incident.id = some later → later.system = true
  created : ∀ id row, event.before.incidents.get? id = none →
    event.after.incidents.get? id = some row → id = event.before.incidents.nextId ∧
      row.type = .incident ∧ row.system = !(fromCommit splitOff event).isSome
  stored : (fromCommit splitOff event).isSome →
    (event.after.incidents.get? event.before.incidents.nextId).isSome

theorem flagged_unaffected : Unaffected Flagged := by
  apply unaffected_of_quiet
  intro event quiet same
  refine ⟨?_, ?_, ?_, ?_⟩
  · intro id row later found foundLater _
    rw [same.incidents, found] at foundLater
    cases foundLater
    rfl
  · intro incident member
    rw [fromCommit_of_quiet quiet] at member
    cases member
  · intro id row missing found
    rw [same.incidents, missing] at found
    cases found
  · intro saves
    rw [fromCommit_of_quiet quiet] at saves
    cases saves

theorem writtenRow_system (now : Time) (first second : Incident) (holder : Nat)
    (row : IncidentRow) :
    (writtenRow now first second holder row).system =
      if holder = second.id then second.system
      else if holder = first.id then first.system else row.system := by
  unfold writtenRow
  dsimp only
  split_ifs <;> rfl

section Transaction

variable {origin : Store} {assume property : DbEvent → Prop} {unaffected : Unaffected property}
  {deployment : Deployment} {route : CreationRoute} {caller : Caller} {data : IncidentData}
  {β : Type} {statement : EventWrite β} {choice : Choice} {value : β} {store final : Store}

variable {row : IncidentRow}

/-- What is known of a copy of a system incident: it is none of the spared events
and still a system incident. -/
structure KnownSystem (origin : Store) (copy : Incident) (store : Store) : Prop where
  flag : copy.system = true
  original : ∀ row, origin.incidents.get? copy.id = some row → SystemIncident row
  current : ∀ row, store.incidents.get? copy.id = some row → row.system = true

theorem knownSystem_of_reading {copy : Incident} {first : Store} (spared : Spares origin first)
    (system : SystemIncident row)
    (reading : Reading (Drifts origin) linkedComponents copy row first store) :
    KnownSystem origin copy store := by
  have : IsPreorder Store (Drifts origin) := (reporting origin).preorder
  have drift : Drifts origin first store := reading.reaches
  refine ⟨?_, ?_, ?_⟩
  · rcases reading.assembled with ⟨_, _, _, _, _, equal⟩
    rw [equal]
    exact system.2
  · intro original found
    by_contra other
    have present := (spared.rows copy.id original found other).1
    rw [reading.found] at present
    cases present
    exact other system
  · intro current found
    exact drift.flags copy.id row current reading.found found system.2

theorem knownSystem_source {component : Component} {source : Incident}
    (found : (shared (reporting origin) assume property unaffected).Source data component source
      store) : KnownSystem origin source store := by
  rcases found with ⟨row, first, selected, spared, reading, notMaintenance, system, _⟩
  refine knownSystem_of_reading spared ⟨?_, ?_⟩ reading
  · rcases (componentParams_selects selected).2 with incident | maintenance
    · exact incident
    · exact absurd (reading.type_eq.trans maintenance) notMaintenance
  · rcases reading.assembled with ⟨_, _, _, _, _, equal⟩
    rw [equal] at system
    exact system

theorem knownSystem_target {target : Incident}
    (found : (shared (reporting origin) assume property unaffected).Target data target store) :
    KnownSystem origin target store := by
  rcases found with ⟨row, first, selected, spared, reading, _⟩
  exact knownSystem_of_reading spared (systemParams_selects selected) reading

theorem knownSystem_extracts {before : Store} {components : List Component} {old : Incident}
    {impact : Int} {text : String} {description : Option String}
    (extracts : (shared (reporting origin) assume property unaffected).Extracts
      (.post route caller data) before components old impact text description)
    (later : Drifts origin before store) : KnownSystem origin old store := by
  cases extracts with
  | system names found => exact knownSystem_source (found.extend later)

/-- A system creation rewrites system incidents and incidents it has split off. -/
theorem reporter_targets
    (issued : (shared (reporting origin) assume property unaffected).Issued deployment
      (.post route caller data) store statement) (system : data.system = some true)
    (apart : ∀ incident ∈ splitTarget statement, origin.incidents.get? incident.id = none)
    {id : Nat} (target : id ∈ statement.targets) (found : origin.incidents.get? id = some row) :
    SystemIncident row := by
  cases issued with
  | regularCreate regular => exact absurd system regular
  | regularMove regular => exact absurd system regular
  | systemCreate | extractSave => cases target
  | systemAdd names targetFound =>
    rw [List.mem_singleton.mp target] at found
    exact (knownSystem_target targetFound).original row found
  | systemMove names same sourceFound targetFound =>
    rcases List.mem_cons.mp target with rfl | rest
    · rw [releaseComponent_id] at found
      exact (knownSystem_source sourceFound).original row found
    · rw [List.mem_singleton.mp rest] at found
      exact (knownSystem_target targetFound).original row found
  | systemRaise names sourceFound =>
    rw [List.mem_singleton.mp target] at found
    exact (knownSystem_source sourceFound).original row found
  | extract extracts later =>
    rcases List.mem_cons.mp target with rfl | rest
    · exact (knownSystem_extracts extracts later).original row found
    · rw [List.mem_singleton.mp rest, apart _ rfl] at found
      cases found
  | systemMark type valid inserted tracked fresh =>
    rw [List.mem_singleton.mp target] at found
    by_contra other
    rcases fresh with ⟨before, spared, same⟩
    have present := (Spares.rows spared _ row found other).1
    have missing := SerialTable.get?_nextId before.incidents
    rw [← same] at missing
    exact nomatch missing.symm.trans present

/-- What a system creation commits spares all events but system incidents. -/
theorem reporter_spares
    (issued : (shared (reporting origin) assume property unaffected).Issued deployment
      (.post route caller data) store statement)
    (system : data.system = some true)
    (apart : ∀ incident ∈ splitTarget statement, origin.incidents.get? incident.id = none)
    (commits : statement.exec choice store = .ok (value, final)) (spared : Spares origin store) :
    Spares origin final := by
  have footprint := exec_footprint commits
  have unedited : statement.edits = none := by
    cases issued <;> rfl
  refine ⟨?_, footprint.components.trans spared.components⟩
  intro id row found other
  rcases spared.rows id row found other with ⟨present, links, history⟩
  have untouched : id ∉ statement.targets := fun target =>
    other (reporter_targets issued system apart target found)
  have old : id ≠ store.incidents.nextId :=
    Nat.ne_of_lt (SerialTable.lt_nextId_of_get? present)
  refine ⟨?_, ?_, ?_⟩
  · rw [footprint.rows id row present, EventWrite.rewritten_of_not_target untouched]
  · intro component
    rw [footprint.linked, EventWrite.links_of_not_target untouched old]
    exact links component
  · exact (history_of_not_target issued commits unedited present untouched).trans history

/-- Two full saves of copies whose flags are the stored ones change no flag. -/
theorem writtenRow_flag {now : Time} {first second : Incident} {id : Nat}
    (found : store.incidents.get? id = some row)
    (firstFlag : ∀ row, store.incidents.get? first.id = some row → row.system = first.system)
    (secondFlag : ∀ row, store.incidents.get? second.id = some row → row.system = second.system) :
    (writtenRow now first second id row).system = row.system := by
  rw [writtenRow_system]
  split_ifs with isSecond isFirst
  · subst isSecond
    exact (secondFlag row found).symm
  · subst isFirst
    exact (firstFlag row found).symm
  · rfl

/-- What a system creation does to the flags: it sets the one of the incident it
marks, and inserts system incidents and incidents split off. -/
theorem reporter_flags (choice : Choice)
    (issued : (shared (reporting origin) assume property unaffected).Issued deployment
      (.post route caller data) store statement)
    (system : data.system = some true)
    (unmarked : ∀ incident ∈ splitTarget statement, ∀ row,
      store.incidents.get? incident.id = some row → row.system = false) :
    (∀ id row, store.incidents.get? id = some row →
      (statement.rewritten choice id row).system =
        (statement.modifies.any (fun incident => incident.id == id) || row.system)) ∧
    (∀ row, statement.inserted choice = some row → row.type = .incident ∧
      row.system = !(splitOff statement).isSome) := by
  cases issued with
  | regularCreate regular => exact absurd system regular
  | regularMove regular => exact absurd system regular
  | systemCreate names =>
    refine ⟨fun _ _ _ => rfl, ?_⟩
    rintro _ ⟨⟩
    have same : (withDefaultDescription data).type = data.type ∧
        (withDefaultDescription data).system = data.system := by
      unfold withDefaultDescription
      split_ifs <;> exact ⟨rfl, rfl⟩
    refine ⟨same.1.trans names.type, ?_⟩
    change (withDefaultDescription data).system.getD false = true
    rw [same.2, system]
    rfl
  | extractSave =>
    refine ⟨fun _ _ _ => rfl, ?_⟩
    rintro _ ⟨⟩
    exact ⟨rfl, rfl⟩
  | systemAdd =>
    refine ⟨?_, by rintro row ⟨⟩⟩
    intro id row found
    rw [EventWrite.rewritten]
    split_ifs <;> rfl
  | systemMove names same sourceFound targetFound =>
    refine ⟨?_, by rintro row ⟨⟩⟩
    intro id row found
    have source := knownSystem_source sourceFound
    have target := knownSystem_target targetFound
    refine (writtenRow_flag found ?_ ?_).trans rfl
    · intro row found
      exact (target.current row found).trans target.flag.symm
    · intro row found
      rw [movedSource_id] at found
      rw [source.current row found]
      unfold releasedSource releaseComponent
      split_ifs <;> exact source.flag.symm
  | systemRaise names sourceFound =>
    refine ⟨?_, by rintro row ⟨⟩⟩
    intro id row found
    have source := knownSystem_source sourceFound
    rw [EventWrite.rewritten]
    split_ifs with here
    · subst here
      have flag := source.current row found
      change (_ || row.system) = row.system
      rw [flag, Bool.or_true]
    · rfl
  | extract extracts later inserted =>
    refine ⟨?_, by rintro row ⟨⟩⟩
    intro id row found
    have old := knownSystem_extracts extracts later
    refine (writtenRow_flag found ?_ ?_).trans rfl
    · intro row found
      rw [unmarked _ rfl row found]
      rw [extractionTarget, inserted.same]
      rfl
    · intro row found
      rw [dropIncidentComponents_id] at found
      rw [old.current row found, dropIncidentComponents_fields]
      exact old.flag.symm
  | systemMark =>
    refine ⟨?_, by rintro row ⟨⟩⟩
    intro id row found
    rw [EventWrite.rewritten, EventWrite.modifies, Option.any_some]
    split_ifs with here
    · subst here
      rw [beq_self_eq_true]
      rfl
    · rw [beq_eq_false_iff_ne.mpr (Ne.symm here)]
      rfl

theorem reporter_commits
    (issued : (shared (reporting origin) assume property unaffected).Issued deployment
      (.post route caller data) store statement)
    (system : data.system = some true)
    (unmarked : ∀ incident ∈ splitTarget statement, origin.incidents.get? incident.id = none ∧
      ∀ row, store.incidents.get? incident.id = some row → row.system = false)
    (commits : statement.exec choice store = .ok (value, final)) (evolves : Evolves store final) :
    Drifts origin store final ∧ Flagged (committed statement value store final) := by
  have footprint := exec_footprint commits
  rcases reporter_flags choice issued system
    (fun incident member => (unmarked incident member).2) with ⟨rewritten, inserted⟩
  have stays : ∀ id row later, store.incidents.get? id = some row →
      final.incidents.get? id = some later → later.system =
        (statement.modifies.any (fun incident => incident.id == id) || row.system) := by
    intro id row later found foundLater
    rw [footprint.rows id row found] at foundLater
    cases foundLater
    exact rewritten id row found
  refine ⟨⟨evolves, ?_, ?_⟩, ?_, ?_, ?_, ?_⟩
  · intro id row later found foundLater flag
    rw [stays id row later found foundLater, flag, Bool.or_true]
  · exact reporter_spares issued system (fun incident member => (unmarked incident member).1) commits
  · intro id row later found foundLater others
    rw [stays id row later found foundLater]
    cases modifies : statement.modifies with
    | none => rfl
    | some incident =>
      have apart : incident.id ≠ id := others incident modifies
      rw [Option.any_some, beq_eq_false_iff_ne.mpr apart, Bool.false_or]
  · intro incident member row later found foundLater
    have modifies : statement.modifies = some incident := member
    rw [stays incident.id row later found foundLater, modifies, Option.any_some,
      beq_self_eq_true, Bool.true_or]
  · intro id row missing found
    have fresh := footprint.fresh id missing
    change final.incidents.get? id = some row at found
    rw [found] at fresh
    split_ifs at fresh with new
    exact ⟨new, inserted row fresh.symm⟩
  · intro saves
    have fresh := footprint.fresh _ (SerialTable.get?_nextId store.incidents)
    rw [if_pos rfl] at fresh
    change (final.incidents.get? store.incidents.nextId).isSome = true
    rw [fresh]
    cases statement with
    | saveIncident => rfl
    | _ => cases saves

end Transaction

/-! ## Whole runs -/

/-- Components are moved to an incident that is not stored in `origin` and not
marked yet. -/
def MovesToUnmarked (origin : Store) (event : DbEvent) : Prop :=
  ∀ incident ∈ fromCommit splitTarget event, origin.incidents.get? incident.id = none ∧
    ∀ row, event.before.incidents.get? incident.id = some row → row.system = false

/-- The event of storing an event with an id. -/
def Creates (event : DbEvent) (id : Nat) : Prop :=
  event.before.incidents.get? id = none ∧ (event.after.incidents.get? id).isSome

instance (event : DbEvent) (id : Nat) : Decidable (Creates event id) :=
  inferInstanceAs (Decidable (_ ∧ _))

section Runs

variable {ι : Type} [DecidableEq ι] {deployment : Deployment} {backends : Backends}
  {callers : ι → Caller} {requests : ι → Request} {store final : Store}
  {trace : List (ι × DbEvent)}

/-- Requests on any routes, handled at the same time. -/
abbrev Serving (deployment : Deployment) (backends : Backends) (callers : ι → Caller)
    (requests : ι → Request) (store : Store) (trace : List (ι × DbEvent)) (final : Store) : Prop :=
  Interleaving database
    (fun party => (requests party).program deployment backends (callers party)) store trace final

theorem reporters_guarantee (reporters : ∀ party, (callers party).role = .reporter)
    (served : Serving deployment backends callers requests store trace final)
    (assumed : ∀ entry ∈ trace, MovesToUnmarked store entry.2) :
    (∀ entry ∈ trace, Flagged entry.2 ∧ Drifts store entry.2.before entry.2.after ∧
      Drifts store store entry.2.before) ∧ Drifts store store final := by
  have reports : ∀ party, ∃ data : IncidentData, data.system = some true ∧
      (Reads ((requests party).program deployment backends (callers party)) ∨
        (requests party).program deployment backends (callers party) =
          (Activity.post .events (callers party) data).program deployment) := by
    intro party
    rcases reporter_reads (reporters party) (requests party) with reads | ⟨data, shape, system⟩
    · exact ⟨incidentReport true [] 1, rfl, Or.inl reads⟩
    · have both : data.type = .incident ∧ data.system = some true := by
        simpa [isSystemIncident] using system
      exact ⟨data, both.2, Or.inr (by rw [shape]; rfl)⟩
  choose data system acts using reports
  have spared : Spares store store :=
    ⟨fun id row found _ => ⟨found, fun _ => Iff.rfl, rfl⟩, rfl⟩
  exact pool_guarantees served acts (reporting store) (fun _ => MovesToUnmarked store)
    (fun _ => Flagged) (fun _ => flagged_unaffected)
    (fun party _ statement choice value current next issued commits evolves _ moves =>
      reporter_commits issued (system party) moves commits evolves) spared assumed

/-- How a run of reporters stands: an incident that is split off and unmarked is no
system incident yet, and every event created in the run is a system incident or
one that its party has not marked. -/
structure Standing (origin : Store) (trace : List (ι × DbEvent)) (current : Store) : Prop where
  unmarked : ∀ party id, (progressOf party trace).unmarked = some id →
    (∃ row, current.incidents.get? id = some row ∧ row.system = false) ∧
      ∃ event, (party, event) ∈ trace ∧ Creates event id
  created : ∀ party event id, (party, event) ∈ trace → Creates event id →
    origin.incidents.get? id = none ∧ ∃ row, current.incidents.get? id = some row ∧
      row.type = .incident ∧
        (row.system = true ∨ (progressOf party trace).unmarked = some id)
  once : ∀ party event other later id, (party, event) ∈ trace → (other, later) ∈ trace →
    Creates event id → Creates later id → party = other

theorem progressOf_other {party other : ι} (different : other ≠ party) (event : DbEvent)
    (trace : List (ι × DbEvent)) :
    progressOf party (trace ++ [(other, event)]) = progressOf party trace := by
  unfold progressOf
  rw [ownEvents_append, ownEvents_cons_other different]
  exact congrArg _ (List.append_nil _)

theorem progressOf_same (party : ι) (event : DbEvent) (trace : List (ι × DbEvent)) :
    progressOf party (trace ++ [(party, event)]) =
      splitting.advance (progressOf party trace) event := by
  unfold progressOf Monitor.memory
  rw [ownEvents_append, ownEvents_cons_same, List.foldl_append]
  rfl

/-- What a monitored event does to the incident remembered. -/
theorem advance_cases (progress : Splitting) (event : DbEvent) :
    ((fromCommit splitOff event).isSome ∧
      (splitting.advance progress event).unmarked = some event.before.incidents.nextId) ∨
    ((fromCommit splitOff event).isSome = false ∧
      ((∃ incident, fromCommit EventWrite.modifies event = some incident) ∧
        (splitting.advance progress event).unmarked = none ∨
      fromCommit EventWrite.modifies event = none ∧
        (splitting.advance progress event).unmarked = progress.unmarked)) := by
  cases saves : (fromCommit splitOff event).isSome with
  | true => exact Or.inl ⟨rfl, by simp [splitting, saves]⟩
  | false =>
    refine Or.inr ⟨rfl, ?_⟩
    cases modifies : fromCommit EventWrite.modifies event with
    | some incident => exact Or.inl ⟨⟨incident, rfl⟩, by simp [splitting, saves, modifies]⟩
    | none =>
      refine Or.inr ⟨rfl, ?_⟩
      simp only [splitting, saves, modifies, Option.isSome_none, Bool.false_eq_true, if_false]
      split_ifs <;> rfl

section Step

variable {origin current : Store} {party : ι} {event : DbEvent}

theorem Standing.step_unmarked (standing : Standing origin trace current)
    (allowed : splitting.allowed (progressOf party trace) event) (before : event.before = current)
    (flagged : Flagged event) (drift : Drifts origin event.before event.after) :
    ∀ other id, (progressOf other (trace ++ [(party, event)])).unmarked = some id →
      (∃ row, event.after.incidents.get? id = some row ∧ row.system = false) ∧
        ∃ creation, (other, creation) ∈ trace ++ [(party, event)] ∧ Creates creation id := by
  subst before
  intro other id remembered
  -- An incident remembered before stays unmarked unless this event marks it.
  have stays : (progressOf other trace).unmarked = some id →
      (∀ incident ∈ fromCommit EventWrite.modifies event, incident.id ≠ id) →
      (∃ row, event.after.incidents.get? id = some row ∧ row.system = false) ∧
        ∃ creation, (other, creation) ∈ trace ++ [(party, event)] ∧ Creates creation id := by
    intro earlier others
    rcases standing.unmarked other id earlier with ⟨⟨row, found, flag⟩, creation, member, creates⟩
    rcases drift.evolves.rows id row found with ⟨later, foundLater, _⟩
    exact ⟨⟨later, foundLater, (flagged.kept id row later found foundLater others).trans flag⟩,
      creation, List.mem_append_left _ member, creates⟩
  by_cases same : other = party
  · subst same
    rw [progressOf_same] at remembered
    rcases advance_cases (progressOf other trace) event with ⟨saves, now⟩ |
      ⟨_, ⟨_, now⟩ | ⟨none, now⟩⟩
    · rw [now] at remembered
      cases remembered
      have missing := SerialTable.get?_nextId event.before.incidents
      rcases Option.isSome_iff_exists.mp (flagged.stored saves) with ⟨row, found⟩
      refine ⟨⟨row, found, ?_⟩, event, List.mem_append_right _ List.mem_cons_self, missing,
        flagged.stored saves⟩
      rw [(flagged.created _ row missing found).2.2, saves]
      rfl
    · rw [now] at remembered
      cases remembered
    · rw [now] at remembered
      refine stays remembered ?_
      intro incident member
      rw [none] at member
      cases member
  · rw [progressOf_other (Ne.symm same)] at remembered
    refine stays remembered ?_
    intro incident member here
    -- Marking it would mean that both parties had created it.
    have own := (allowed.2.2 incident member).1
    rw [here] at own
    rcases standing.unmarked other id remembered with ⟨_, creation, listed, creates⟩
    rcases standing.unmarked party id own with ⟨_, ownCreation, ownListed, ownCreates⟩
    exact same (standing.once other creation party ownCreation id listed ownListed creates ownCreates)

theorem Standing.step_created (standing : Standing origin trace current)
    (allowed : splitting.allowed (progressOf party trace) event) (before : event.before = current)
    (flagged : Flagged event) (drift : Drifts origin event.before event.after)
    (reached : Drifts origin origin event.before) :
    ∀ other creation id, (other, creation) ∈ trace ++ [(party, event)] → Creates creation id →
      origin.incidents.get? id = none ∧ ∃ row, event.after.incidents.get? id = some row ∧
        row.type = .incident ∧ (row.system = true ∨
          (progressOf other (trace ++ [(party, event)])).unmarked = some id) := by
  subst before
  intro other creation id member creates
  rcases List.mem_append.mp member with listed | new
  · rcases standing.created other creation id listed creates with
      ⟨missing, row, found, type, flag⟩
    rcases drift.evolves.rows id row found with ⟨later, foundLater, sameType, _⟩
    refine ⟨missing, later, foundLater, sameType.trans type, ?_⟩
    rcases flag with flag | remembered
    · exact Or.inl (drift.flags id row later found foundLater flag)
    · by_cases same : other = party
      · subst same
        rw [progressOf_same]
        rcases advance_cases (progressOf other trace) event with ⟨saves, _⟩ |
          ⟨_, ⟨⟨incident, modifies⟩, _⟩ | ⟨_, now⟩⟩
        · rcases Option.isSome_iff_exists.mp saves with ⟨incident, shape⟩
          exact nomatch (allowed.1 incident shape).symm.trans remembered
        · have own := (allowed.2.2 incident modifies).1
          rw [remembered] at own
          cases own
          exact Or.inl (flagged.marked incident modifies row later found foundLater)
        · exact Or.inr (now.trans remembered)
      · rw [progressOf_other (Ne.symm same)]
        exact Or.inr remembered
  · cases List.mem_singleton.mp new
    rcases creates with ⟨missing, present⟩
    rcases Option.isSome_iff_exists.mp present with ⟨row, found⟩
    rcases flagged.created id row missing found with ⟨fresh, type, flag⟩
    refine ⟨?_, row, found, type, ?_⟩
    · cases original : origin.incidents.get? id with
      | none => rfl
      | some earlier =>
        rcases reached.evolves.rows id earlier original with ⟨later, there, _⟩
        exact nomatch missing.symm.trans there
    · rw [progressOf_same]
      rcases advance_cases (progressOf party trace) event with ⟨_, now⟩ | ⟨unsaved, _⟩
      · exact Or.inr (now.trans (by rw [fresh]))
      · rw [unsaved] at flag
        exact Or.inl flag

theorem Standing.step (standing : Standing origin trace current)
    (allowed : splitting.allowed (progressOf party trace) event) (before : event.before = current)
    (flagged : Flagged event) (drift : Drifts origin event.before event.after)
    (reached : Drifts origin origin event.before) :
    Standing origin (trace ++ [(party, event)]) event.after := by
  have new : ∀ other creation id, (other, creation) ∈ trace → Creates creation id →
      ¬ Creates event id := by
    intro other creation id listed creates again
    rcases standing.created other creation id listed creates with ⟨_, row, found, _⟩
    rw [← before] at found
    exact nomatch again.1.symm.trans found
  refine ⟨standing.step_unmarked allowed before flagged drift,
    standing.step_created allowed before flagged drift reached, ?_⟩
  intro first creation second later id firstMember secondMember firstCreates secondCreates
  rcases List.mem_append.mp firstMember with firstListed | firstNew
  · rcases List.mem_append.mp secondMember with secondListed | secondNew
    · exact standing.once first creation second later id firstListed secondListed firstCreates
        secondCreates
    · cases List.mem_singleton.mp secondNew
      exact absurd secondCreates (new first creation id firstListed firstCreates)
  · cases List.mem_singleton.mp firstNew
    rcases List.mem_append.mp secondMember with secondListed | secondNew
    · exact absurd firstCreates (new second later id secondListed secondCreates)
    · cases List.mem_singleton.mp secondNew
      rfl

end Step

theorem reporters_standing (reporters : ∀ party, (callers party).role = .reporter)
    (served : Serving deployment backends callers requests store trace final) :
    (∀ entry ∈ trace, MovesToUnmarked store entry.2) ∧ Standing store trace final := by
  induction trace using List.reverseRecOn generalizing final with
  | nil =>
    refine ⟨List.forall_mem_nil _, ?_, ?_, ?_⟩
    · intro party id remembered
      cases remembered
    · intro party event id member
      exact absurd member List.not_mem_nil
    · intro party event other later id member
      exact absurd member List.not_mem_nil
  | append_singleton earlier entry ih =>
    rcases entry with ⟨party, event⟩
    rcases served.prefix_of_append with ⟨middle, started, before, after⟩
    rcases ih started with ⟨assumed, standing⟩
    have allowed : splitting.allowed (progressOf party earlier) event := by
      rcases served.walks party with ⟨last, walk⟩
      refine ((obeys_request (reporters party) (requests party)).walk walk).1
        (ownEvents party earlier) event [] ?_
      rw [ownEvents_append, ownEvents_cons_same]
      rfl
    have moves : MovesToUnmarked store event := by
      intro incident member
      have own := allowed.2.1 incident member
      rcases standing.unmarked party incident.id own with
        ⟨⟨row, found, flag⟩, creation, listed, creates⟩
      refine ⟨(standing.created party creation incident.id listed creates).1, ?_⟩
      intro other present
      rw [before, found] at present
      cases present
      exact flag
    have all : ∀ entry ∈ earlier ++ [(party, event)], MovesToUnmarked store entry.2 :=
      List.forall_mem_append.mpr ⟨assumed, List.forall_mem_singleton.mpr moves⟩
    rcases (reporters_guarantee reporters served all).1 (party, event)
      (List.mem_append_right _ List.mem_cons_self) with ⟨flagged, drift, reached⟩
    have last : event.after = final := after
    rw [← last]
    exact ⟨all, standing.step allowed before flagged drift reached⟩

/-- Reporters leave all events but system incidents alone, create no component and
no event that is not an incident.  What a request has created is a system
incident when it has ended, exactly if it was not interrupted while an incident
it had split off was unmarked. -/
theorem reporters_confined (reporters : ∀ party, (callers party).role = .reporter)
    (served : Serving deployment backends callers requests store trace final) :
    Spares store final ∧
    (∀ entry ∈ trace, ∀ id, Creates entry.2 id →
      ∃ row, final.incidents.get? id = some row ∧ row.type = .incident) ∧
    ∀ party outcome,
      Walk database ((requests party).program deployment backends (callers party))
        (ownEvents party trace) (.finished outcome) →
      ((∀ event ∈ ownEvents party trace, ∀ id, Creates event id →
        ∃ row, final.incidents.get? id = some row ∧ row.system = true) ↔
          (progressOf party trace).interrupted = false) := by
  rcases reporters_standing reporters served with ⟨assumed, standing⟩
  have spared : Spares store store := ⟨fun id row found _ => ⟨found, fun _ => Iff.rfl, rfl⟩, rfl⟩
  refine ⟨(reporters_guarantee reporters served assumed).2.spares spared, ?_, ?_⟩
  · intro entry member id creates
    rcases standing.created entry.1 entry.2 id member creates with ⟨_, row, found, type, _⟩
    exact ⟨row, found, type⟩
  · intro party outcome walk
    have ended := ((obeys_request (reporters party) (requests party)).walk walk).2
    have wound : Wound (progressOf party trace) outcome := by
      cases outcome with
      | ok | error => exact ended
    constructor
    · intro marked
      rw [wound.1, Option.isSome_eq_false_iff, Option.isNone_iff_eq_none]
      by_contra remembered
      rcases Option.ne_none_iff_exists'.mp remembered with ⟨id, shape⟩
      rcases standing.unmarked party id shape with ⟨⟨row, found, flag⟩, event, member, creates⟩
      rcases marked event (mem_ownEvents.mpr member) id creates with ⟨other, present, system⟩
      rw [found] at present
      cases present
      exact nomatch flag.symm.trans system
    · intro uninterrupted event member id creates
      rcases standing.created party event id (mem_ownEvents.mp member) creates with
        ⟨_, row, found, _, system | remembered⟩
      · exact ⟨row, found, system⟩
      · have held := wound.1
        rw [uninterrupted, remembered] at held
        cases held

end Runs

/-- A request that is handled alone. -/
theorem serving_of_run {deployment : Deployment} {backends : Backends} {caller : Caller}
    {request : Request} {store final : Store} {events : List DbEvent}
    {outcome : Except ApiError Response}
    (run : Run database (request.program deployment backends caller) store events outcome final) :
    ownEvents () (events.map (Prod.mk ())) = events ∧
      Walk database (request.program deployment backends caller)
        (ownEvents () (events.map (Prod.mk ()))) (.finished outcome) ∧
      Serving deployment backends (fun _ : Unit => caller) (fun _ => request) store
        (events.map (Prod.mk ())) final := by
  have own : ownEvents () (events.map (Prod.mk ())) = events := by
    unfold ownEvents
    rw [List.filterMap_map]
    exact List.filterMap_some
  refine ⟨own, ?_, ?_, ?_⟩
  · rw [own]
    exact run.1
  · rw [List.map_map]
    exact (List.map_id events).symm ▸ run.2
  · intro party
    rw [own]
    exact ⟨_, run.1⟩

def aReporter : Caller where
  userID := some "probe"
  email := none
  role := .reporter

/-- A system incident with two components. -/
def sharedIncidentStore : Store :=
  (replay quietDeployment [(.post .events anAdmin (incidentReport true [1, 2] 1), atTime 30)]
    (bareStore 2)).2

/-- A reporter reports a higher impact for one of the components; the database
fails after the given number of operations. -/
def escalatedReport (operations : Nat) : List DbEvent × Except ApiError Response × Store :=
  (Request.program quietDeployment noBackends aReporter
      (.postEvent .events (incidentReport true [1] 2))).follow database outage
    (List.replicate operations (atTime 40)) sharedIncidentStore

theorem escalatedReport_run (operations : Nat) :
    Run database (Request.program quietDeployment noBackends aReporter
        (.postEvent .events (incidentReport true [1] 2))) sharedIncidentStore
      (escalatedReport operations).1 (escalatedReport operations).2.1
      (escalatedReport operations).2.2 :=
  Program.follow_run database outage _ _ _

/-- The incident split off for the component stays a regular one if the database
fails when it is to be marked. -/
theorem reporters_confined_fails :
    ¬ ∀ (trace : List (Unit × DbEvent)) (final : Store) (outcome : Except ApiError Response),
      Serving quietDeployment noBackends (fun _ => aReporter)
        (fun _ => .postEvent .events (incidentReport true [1] 2)) sharedIncidentStore trace final →
      Walk database (Request.program quietDeployment noBackends aReporter
        (.postEvent .events (incidentReport true [1] 2))) (ownEvents () trace)
        (.finished outcome) →
      ∀ entry ∈ trace, ∀ id, Creates entry.2 id →
        ∃ row, final.incidents.get? id = some row ∧ row.system = true := by
  intro marked
  rcases serving_of_run (escalatedReport_run 15) with ⟨own, ended, served⟩
  have created : ∃ event ∈ (escalatedReport 15).1, Creates event 2 := by decide +kernel
  have regular : ((escalatedReport 15).2.2.incidents.get? 2).map IncidentRow.system = some false := by
    decide +kernel
  rcases created with ⟨event, member, creates⟩
  rcases marked _ _ _ served ended ((), event) (List.mem_map_of_mem member) 2 creates with
    ⟨row, found, system⟩
  rw [found, Option.map_some, system] at regular
  cases regular

/-- The same report with the database up: the incident split off is marked. -/
theorem reporters_confined_escalated :
    (∃ event ∈ (escalatedReport 16).1, Creates event 2) ∧
    ∀ event ∈ (escalatedReport 16).1, ∀ id, Creates event id →
      ∃ row, (escalatedReport 16).2.2.incidents.get? id = some row ∧ row.system = true := by
  refine ⟨by decide +kernel, ?_⟩
  rcases serving_of_run (escalatedReport_run 16) with ⟨own, ended, served⟩
  have uninterrupted : (splitting.memory {} (escalatedReport 16).1).interrupted = false := by
    decide +kernel
  have confined := ((reporters_confined (fun _ => rfl) served).2.2 () _ ended).mpr (by
    unfold progressOf
    rw [own]
    exact uninterrupted)
  rw [own] at confined
  exact confined

end StatusDashboard.Properties
