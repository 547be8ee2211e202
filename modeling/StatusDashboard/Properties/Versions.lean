import StatusDashboard.Provenance.Shared

namespace StatusDashboard.Properties

open Event Storage Tables Handlers Process Provenance

/-!
# Versions

A modification of a maintenance and the addition of a component compare the
version they expect with the stored one and leave its successor.  All other
writers put back a number they carry: the one a client sent, or the one of a
copy read earlier.  The version of an event goes back exactly when such a
number is behind the stored one.
-/

variable {id : Nat} {row : IncidentRow} {β : Type} {choice : Choice} {statement : EventWrite β}
variable {value : β} {store final : Store}

/-- The version a modification stores without comparing it. -/
def uncheckedVersion (copy : Incident) : List (Nat × Int) :=
  if copy.type = .maintenance then [] else [(copy.id, nextVersion copy)]

/-- The version a full save of a copy stores. -/
def carriedVersion (copy : Incident) : Nat × Int := (copy.id, copy.version.getD 1)

/-- The versions a transaction stores without comparing them.  Of two copies of
one event the second is the one that stays. -/
def carriedVersions : {β : Type} → EventWrite β → List (Nat × Int)
  | _, .persistPatch _ stored _ _ => uncheckedVersion stored
  | _, .checkerPatch _ patched _ => uncheckedVersion patched
  | _, .modifyIncident incident => uncheckedVersion incident
  | _, .moveComponent _ incOld incNew _ =>
    carriedVersion incOld :: if incNew.id = incOld.id then [] else [carriedVersion incNew]
  | _, .extractComponents _ incident incOld =>
    carriedVersion incOld :: if incident.id = incOld.id then [] else [carriedVersion incident]
  | _, .increaseImpact _ incident _ =>
    incident.version.toList.map (fun version => (incident.id, version))
  | _, _ => []

/-- The event and the version that a transaction compares. -/
def comparedVersion : {β : Type} → EventWrite β → Option (Nat × Int)
  | _, .persistPatch _ stored _ _ =>
    if stored.type = .maintenance then stored.version.map (Prod.mk stored.id) else none
  | _, .checkerPatch _ patched _ =>
    if patched.type = .maintenance then patched.version.map (Prod.mk patched.id) else none
  | _, .modifyIncident incident =>
    if incident.type = .maintenance then incident.version.map (Prod.mk incident.id) else none
  | _, .addComponent incident _ _ => incident.version.map (Prod.mk incident.id)
  | _, _ => none

/-- No stored version is lower than it was. -/
def VersionsRise (before after : Store) : Prop :=
  ∀ entry ∈ before.incidents.rows,
    ∃ later ∈ after.incidents.get? entry.1, entry.2.version ≤ later.version

instance (before after : Store) : Decidable (VersionsRise before after) :=
  inferInstanceAs (Decidable (∀ entry ∈ before.incidents.rows, _))

/-- No version that a committed transaction carries is behind the stored one. -/
def CarriesNoneBehind (event : DbEvent) : Prop :=
  ∀ carried ∈ fromCommit (fun statement => some (carriedVersions statement)) event,
    ∀ entry ∈ carried, ∀ row ∈ event.before.incidents.get? entry.1, row.version ≤ entry.2

instance (event : DbEvent) : Decidable (CarriesNoneBehind event) :=
  inferInstanceAs (Decidable (∀ carried ∈ fromCommit _ event, _))

theorem versionsRise_iff {before after : Store} :
    VersionsRise before after ↔ ∀ id row, before.incidents.get? id = some row →
      ∃ later, after.incidents.get? id = some later ∧ row.version ≤ later.version := by
  constructor
  · intro rise id row found
    exact rise (id, row) (SerialTable.mem_rows.mpr found)
  · rintro rise ⟨id, row⟩ member
    exact rise id row (SerialTable.mem_rows.mp member)

theorem VersionsRise.refl (store : Store) : VersionsRise store store :=
  versionsRise_iff.mpr fun _ row found => ⟨row, found, le_rfl⟩

theorem VersionsRise.trans {first second third : Store} (before : VersionsRise first second)
    (after : VersionsRise second third) : VersionsRise first third := by
  rw [versionsRise_iff] at before after ⊢
  intro id row found
  rcases before id row found with ⟨middle, present, lower⟩
  rcases after id middle present with ⟨later, last, upper⟩
  exact ⟨later, last, lower.trans upper⟩

/-! ## One transaction -/

/-- A modification lowers the version exactly if it does not compare it. -/
theorem modified_version {now : Time} {copy : Incident}
    (guarded : copy.type = .maintenance → id = copy.id → copy.version = some row.version) :
    row.version ≤ (if id = copy.id then modifiedRow now copy (nextVersion copy) row else row).version ↔
      ∀ entry ∈ uncheckedVersion copy, entry.1 = id → row.version ≤ entry.2 := by
  unfold uncheckedVersion
  by_cases here : id = copy.id
  · by_cases maintenance : copy.type = .maintenance
    · have next : nextVersion copy = row.version + 1 := by
        unfold nextVersion
        rw [guarded maintenance here]
        rfl
      simp [here, maintenance, modifiedRow, next]
    · simp [here, maintenance, modifiedRow]
  · simp [here, Ne.symm here]

/-- Of two copies written back the second decides, then the first. -/
theorem written_version {now : Time} {first second : Incident} :
    row.version ≤ (writtenRow now first second id row).version ↔
      ∀ entry ∈ carriedVersion second ::
        (if first.id = second.id then [] else [carriedVersion first]),
        entry.1 = id → row.version ≤ entry.2 := by
  unfold writtenRow carriedVersion
  by_cases isSecond : id = second.id
  · subst isSecond
    by_cases both : first.id = second.id
    · simp [both, fullRow]
    · simp [both, fullRow]
  · by_cases isFirst : id = first.id
    · subst isFirst
      simp [isSecond, Ne.symm isSecond, fullRow]
    · by_cases both : first.id = second.id
      · simp [isSecond, Ne.symm isSecond, both]
      · simp [isSecond, Ne.symm isSecond, isFirst, Ne.symm isFirst, both]

theorem carriedVersion_releasedSource (component : Component) (copy : Incident) (close : Bool) :
    carriedVersion (releasedSource component copy close) = carriedVersion copy := by
  unfold releasedSource
  split_ifs <;> rfl

theorem carriedVersion_dropIncidentComponents (copy : Incident) (ids : List Nat) :
    carriedVersion (dropIncidentComponents copy ids) = carriedVersion copy := by
  rw [dropIncidentComponents_fields]
  rfl

/-- A committed transaction compares its version with the stored one. -/
theorem compared_stored {version : Int}
    (committed : statement.exec choice store = .ok (value, final))
    (compared : comparedVersion statement = some (id, version)) :
    ∃ row, store.incidents.get? id = some row ∧ row.version = version := by
  have footprint := exec_footprint committed
  have modification : ∀ copy : Incident, statement.modifies = some copy →
      (if copy.type = .maintenance then copy.version.map (Prod.mk copy.id) else none) =
        some (id, version) →
      ∃ row, store.incidents.get? id = some row ∧ row.version = version := by
    intro copy modifies equal
    rcases footprint.guarded copy modifies with ⟨expected, known, guarded⟩
    split_ifs at equal with maintenance
    rw [known] at equal
    cases equal
    exact guarded maintenance
  cases statement with
  | persistPatch publisher stored => exact modification stored rfl compared
  | checkerPatch publisher patched => exact modification patched rfl compared
  | modifyIncident incident => exact modification incident rfl compared
  | addComponent =>
    rcases addComponentTx_ok committed with ⟨added, _⟩
    rcases added.versioned with ⟨expected, row, known, found, same, _⟩
    simp only [comparedVersion, known] at compared
    cases compared
    exact ⟨row, found, same⟩
  | _ => cases compared

/-- A committed transaction lowers no version exactly if it carries none that is
behind. -/
theorem version_le_rewritten (committed : statement.exec choice store = .ok (value, final))
    (found : store.incidents.get? id = some row) :
    row.version ≤ (statement.rewritten choice id row).version ↔
      ∀ entry ∈ carriedVersions statement, entry.1 = id → row.version ≤ entry.2 := by
  have footprint := exec_footprint committed
  have guarded : ∀ copy : Incident, statement.modifies = some copy → copy.type = .maintenance →
      id = copy.id → copy.version = some row.version := by
    intro copy modifies maintenance here
    rcases footprint.guarded copy modifies with ⟨expected, known, stored⟩
    rcases stored maintenance with ⟨current, present, same⟩
    rw [← here, found] at present
    cases present
    rw [known, same]
  cases statement with
  | persistPatch publisher stored => exact modified_version (guarded stored rfl)
  | checkerPatch publisher patched => exact modified_version (guarded patched rfl)
  | modifyIncident incident => exact modified_version (guarded incident rfl)
  | addComponent incident =>
    rcases addComponentTx_ok committed with ⟨added, _⟩
    rcases added.versioned with ⟨expected, current, known, present, same, _⟩
    by_cases here : id = incident.id
    · rw [← here, found] at present
      cases present
      simp [EventWrite.rewritten, here, carriedVersions, nextVersion, known, same]
    · simp [EventWrite.rewritten, here, carriedVersions]
  | moveComponent =>
    refine written_version.trans ?_
    rw [carriedVersion_releasedSource, releasedSource_id]
    rfl
  | extractComponents =>
    refine written_version.trans ?_
    rw [carriedVersion_dropIncidentComponents, dropIncidentComponents_id]
    rfl
  | increaseImpact timeNow incident =>
    by_cases here : id = incident.id
    · cases known : incident.version with
      | none | some => simp [EventWrite.rewritten, here, carriedVersions, raisedRow, known]
    · cases known : incident.version with
      | none => simp [EventWrite.rewritten, here, carriedVersions, known]
      | some =>
        simp [EventWrite.rewritten, here, Ne.symm here, carriedVersions, known]
  | reOpenIncident target =>
    by_cases here : id = target
    · simp [EventWrite.rewritten, here, carriedVersions]
    · simp [EventWrite.rewritten, here, carriedVersions]
  | _ => simp [EventWrite.rewritten, carriedVersions]

/-! ## Runs -/

theorem committed_versions (commits : statement.exec choice store = .ok (value, final)) :
    VersionsRise store final ↔ CarriesNoneBehind (committed statement value store final) := by
  have footprint := exec_footprint commits
  rw [versionsRise_iff]
  constructor
  · intro rise carried member entry listed row found
    cases member
    rcases rise entry.1 row found with ⟨later, present, higher⟩
    rw [footprint.rows entry.1 row found] at present
    cases present
    exact (version_le_rewritten commits found).mp higher entry listed rfl
  · intro ahead id row found
    refine ⟨_, footprint.rows id row found, (version_le_rewritten commits found).mpr ?_⟩
    rintro ⟨_, version⟩ listed rfl
    exact ahead _ rfl _ listed row found

theorem versionsRise_of_sameEvents {before after : Store} (same : SameEvents before after) :
    VersionsRise before after := by
  rw [versionsRise_iff]
  intro id row found
  exact ⟨row, by rw [same.incidents]; exact found, le_rfl⟩

/-- One operation lowers a version exactly if it carries one that is behind. -/
theorem event_versions (choice : Choice) (operation : Op β) (store : Store) :
    VersionsRise store (database.perform choice operation store).2 ↔
      CarriesNoneBehind (database.event choice operation store) := by
  have unaffected : Unaffected (fun event =>
      VersionsRise event.before event.after ↔ CarriesNoneBehind event) := by
    apply unaffected_of_quiet
    intro event quiet same
    refine ⟨fun _ => ?_, fun _ => versionsRise_of_sameEvents same⟩
    intro carried member
    rw [fromCommit_of_quiet quiet] at member
    cases member
  exact unaffected.event committed_versions choice operation store

/-- The version that a committed transaction compares is the stored one. -/
theorem event_compares (choice : Choice) (operation : Op β) (store : Store) :
    ∀ lock ∈ fromCommit comparedVersion (database.event choice operation store),
      ∃ row, store.incidents.get? lock.1 = some row ∧ row.version = lock.2 := by
  have unaffected : Unaffected (fun event => ∀ lock ∈ fromCommit comparedVersion event,
      ∃ row, event.before.incidents.get? lock.1 = some row ∧ row.version = lock.2) := by
    apply unaffected_of_quiet
    intro event quiet _ lock member
    rw [fromCommit_of_quiet quiet] at member
    cases member
  exact unaffected.event (fun commits _ member => compared_stored commits member)
    choice operation store

/-- An operation replaces a version of an event by another one. -/
def Replaces (event : DbEvent) (id : Nat) (version : Int) : Prop :=
  ∃ row later, event.before.incidents.get? id = some row ∧
    event.after.incidents.get? id = some later ∧ row.version = version ∧ later.version ≠ version

/-- After `earlier` no version it replaced is stored or compared with success. -/
def NeverAgain (earlier later : DbEvent) : Prop :=
  ∀ id version, Replaces earlier id version →
    (∀ row, later.after.incidents.get? id = some row → row.version ≠ version) ∧
      fromCommit comparedVersion later ≠ some (id, version)

/-- Once versions only rise, a replaced one is gone for good. -/
theorem neverAgain_of_rise {earlier : DbEvent} {operation : Op β}
    (replaced : VersionsRise earlier.before earlier.after)
    (between : VersionsRise earlier.after store)
    (kept : VersionsRise store (database.perform choice operation store).2) :
    NeverAgain earlier (database.event choice operation store) := by
  rw [versionsRise_iff] at replaced between kept
  rintro id version ⟨row, next, found, present, rfl, changed⟩
  rcases replaced id row found with ⟨_, same, above⟩
  rw [present] at same
  cases same
  rcases between id next present with ⟨current, stored, higher⟩
  constructor
  · intro last final equal
    rcases kept id current stored with ⟨_, same, highest⟩
    have ending : (database.perform choice operation store).2.incidents.get? id = some last := final
    rw [ending] at same
    cases same
    omega
  · intro compared
    rcases event_compares choice operation store _ compared with ⟨_, same, equal⟩
    rw [stored] at same
    cases same
    dsimp only at equal
    omega

section Pool

variable {ι : Type} [DecidableEq ι] {deployment : Deployment} {activities : ι → Activity}
  {store final : Store} {trace : List (ι × DbEvent)}

/-- Whatever runs at the same time, an operation lowers the version of an event
exactly if it carries one behind the stored one.  Where none does, versions rise
along the whole run, and no replaced version is stored or accepted again. -/
theorem pool_versions (pool : Pool deployment activities store trace final) :
    (∀ entry ∈ trace,
      VersionsRise entry.2.before entry.2.after ↔ CarriesNoneBehind entry.2) ∧
    ((∀ entry ∈ trace, CarriesNoneBehind entry.2) →
      VersionsRise store final ∧
      trace.Pairwise (fun earlier later =>
        VersionsRise earlier.2.after later.2.before ∧ NeverAgain earlier.2 later.2)) := by
  have steps : ∀ entry ∈ trace,
      VersionsRise entry.2.before entry.2.after ↔ CarriesNoneBehind entry.2 := by
    rintro ⟨party, event⟩ member
    rcases pool.event_eq member with ⟨choice, shape⟩
    have step := event_versions choice event.operation event.before
    rw [← shape] at step
    exact Iff.trans (by rw [shape]; rfl) step
  refine ⟨steps, ?_⟩
  intro ahead
  have rises : ∀ event ∈ trace.map Prod.snd, VersionsRise event.before event.after := by
    intro event member
    rcases List.mem_map.mp member with ⟨entry, listed, rfl⟩
    exact (steps entry listed).mpr (ahead entry listed)
  have ordered := pool.chained.pairwise VersionsRise.refl (fun _ _ _ => VersionsRise.trans) rises
  refine ⟨pool.chained.relates VersionsRise.refl (fun _ _ _ => VersionsRise.trans) rises, ?_⟩
  refine (List.pairwise_map.mp ordered).imp_of_mem ?_
  rintro earlier ⟨party, later⟩ listed member between
  refine ⟨between, ?_⟩
  rcases pool.event_eq member with ⟨choice, shape⟩
  have kept := rises later (List.mem_map_of_mem member)
  rw [shape] at kept ⊢
  exact neverAgain_of_rise (rises earlier.2 (List.mem_map_of_mem listed)) between kept

end Pool

/-! ## A version that goes back -/

/-- An incident is reported and then changed by a client that sends a version. -/
def reportedWorkflow (version : Int) : Nat → Activity
  | 0 => .post .events anAdmin (incidentReport false [1] 1)
  | _ => .patch anAdmin 1 (statusPatch .analysing 20 (some version))

def reportedRun (version : Int) : List (Nat × DbEvent) × Store :=
  schedule database (fun party => (reportedWorkflow version party).program quietDeployment)
    ((List.range 2).flatMap (fun party => List.replicate 20 (party, atTime 30))) (bareStore 1)

/-- The stored version is 2; a client that sends 0 takes it back to 1. -/
theorem pool_versions_fails :
    ¬ ∀ (trace : List (Nat × DbEvent)) (final : Store),
      Pool quietDeployment (reportedWorkflow 0) (bareStore 1) trace final →
      ∀ entry ∈ trace, VersionsRise entry.2.before entry.2.after := by
  intro rises
  have pool := schedule_interleaving database
    (fun party => (reportedWorkflow 0 party).program quietDeployment)
    ((List.range 2).flatMap (fun party => List.replicate 20 (party, atTime 30))) (bareStore 1)
  have lowered : ∃ entry ∈ (reportedRun 0).1, ¬ VersionsRise entry.2.before entry.2.after := by
    decide +kernel
  rcases lowered with ⟨entry, member, falls⟩
  exact falls (rises _ _ pool entry member)

theorem pool_versions_reported :
    VersionsRise (bareStore 1) (reportedRun 2).2 ∧
      (reportedRun 2).2.incidents.get? 1 ≠ none ∧
      (reportedRun 2).1.Pairwise (fun earlier later =>
        VersionsRise earlier.2.after later.2.before ∧ NeverAgain earlier.2 later.2) := by
  have pool : Pool quietDeployment (reportedWorkflow 2) (bareStore 1) (reportedRun 2).1
      (reportedRun 2).2 := schedule_interleaving database _ _ _
  have ahead : ∀ entry ∈ (reportedRun 2).1, CarriesNoneBehind entry.2 := by decide +kernel
  rcases (pool_versions pool).2 ahead with ⟨rise, ordered⟩
  exact ⟨rise, by decide +kernel, ordered⟩

end StatusDashboard.Properties
