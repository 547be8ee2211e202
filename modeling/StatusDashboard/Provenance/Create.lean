import StatusDashboard.Provenance.Sound

namespace StatusDashboard.Provenance

open Event Storage Notification Process Handlers

/-!
# The writes of a creation

`POST /v2/events` followed through its operations, once for every sound
setting.  A regular creation loads the active events, stores the new one and
then moves components; the invariant of its loop says what is known of the
copies it holds.  A system creation loads afresh for each component.
-/

theorem settled_of_reading {rely : Store → Store → Prop} {load : Store → Nat → List Component}
    {copy : Incident} {row : IncidentRow} {first later : Store}
    (reading : Reading rely load copy row first later) : Settled copy := by
  rcases reading.assembled with ⟨second, third, _, _, _, equal⟩
  have statuses : copy.statuses = loadedHistory third copy.id := congrArg Incident.statuses equal
  intro status member
  rw [statuses, loadedHistory, List.mem_map] at member
  rcases member with ⟨entry, stored, rfl⟩
  have found := Tables.SerialTable.mem_rows.mp (List.mem_filter.mp stored).1
  exact Nat.ne_of_gt (Tables.SerialTable.pos_of_get? found)

/-- What a committed move returns. -/
theorem moved_copies {choice : Choice} {named : Component} {old new : Incident} {close : Bool}
    {moved : Incident × Incident} {before after : Store}
    (commits : (EventWrite.moveComponent named old new close).exec choice before =
      .ok (moved, after)) :
    (moved.1.id = old.id ∧ Settled moved.1 ∧
      (ListsOnce old → ListsOnce moved.1)) ∧
    (moved.2.id = new.id ∧ Settled moved.2 ∧ moved.2.type = new.type ∧
      moved.2.endDate = new.endDate) := by
  rcases moveComponentTx_ok commits with
    ⟨_, ⟨oldStatuses, oldSettled, oldShape⟩, ⟨newStatuses, newSettled, newShape⟩⟩
  constructor
  · rw [oldShape]
    refine ⟨releasedSource_id _ _ _, oldSettled, ?_⟩
    intro distinct
    change ListsOnce (releasedSource named old close)
    unfold releasedSource
    split_ifs
    · have part : (dropIncidentComponent old named.id).componentIds.Sublist old.componentIds :=
        List.filter_sublist.map Component.id
      exact ⟨distinct.1.sublist part, fun id held => distinct.2 id (part.subset held)⟩
    · exact distinct
  · rw [newShape]
    exact ⟨rfl, newSettled, rfl, rfl⟩

namespace Setting

variable {setting : Setting} {deployment : Deployment} {activity : Activity}

/-- What a regular creation knows of the incident it has created. -/
structure HeldTarget (setting : Setting) (copy : Incident) (store : Store) : Prop where
  tracked : setting.tracked copy store
  settled : Settled copy
  type : copy.type = .incident
  ongoing : copy.endDate = none

/-- What a regular creation knows of an active event it has loaded. -/
structure HeldSource (setting : Setting) (copy : Incident) (store : Store) : Prop where
  tracked : setting.tracked copy store
  settled : Settled copy
  distinct : ListsOnce copy

namespace Sound

variable (sound : setting.Sound deployment activity)
include sound

variable {copy : Incident} {store later : Store}

theorem heldTarget_stable (held : setting.HeldTarget copy store) (onward : setting.rely store later) :
    setting.HeldTarget copy later :=
  ⟨sound.stable onward held.tracked, held.settled, held.type, held.ongoing⟩

theorem heldSource_stable (held : setting.HeldSource copy store) (onward : setting.rely store later) :
    setting.HeldSource copy later :=
  ⟨sound.stable onward held.tracked, held.settled, held.distinct⟩

theorem heldSource_of_reading {row : IncidentRow} {first : Store} (kept : setting.always first)
    (reading : Reading setting.rely linkedComponents copy row first later) :
    setting.HeldSource copy later :=
  ⟨sound.loaded kept reading, settled_of_reading reading, reading.listsOnce⟩

theorem yields_moveComponent {component : Component} {old new : Incident} {close : Bool}
    (issued : ∀ named timeNow later, named.id = component.id → setting.rely store later →
      setting.Issued deployment activity later
        (moveStatement timeNow named old new close)) :
    setting.Yields (fun moved later => ∃ named timeNow choice middle before after,
        setting.rely store middle ∧
        setting.Wrote deployment activity
          (moveStatement timeNow named old new close)
          choice moved middle before after later)
      (moveComponentFromOldToAnotherIncident component old new close) store := by
  unfold moveComponentFromOldToAnotherIncident
  apply (setting.yields_currentTime store).bind
  intro timeNow timed _ reached
  have fetched : setting.Yields (fun named later => named.id = component.id ∧
      setting.rely store later)
      (namedComponent component) timed := by
    unfold namedComponent
    split_ifs
    · apply (setting.yields_read (.component component.id) timed).mono
      intro named later _ answered
      rcases answered with ⟨seen, related, _, ⟨choice, _, answer⟩, onward⟩
      exact ⟨component_eval answer, trans_of setting.rely reached
        (trans_of setting.rely related onward)⟩
    · apply Regime.yields_pure
      intro later related _
      exact ⟨rfl, trans_of setting.rely reached related⟩
  apply fetched.bind
  intro named middle _ found
  rcases found with ⟨same, middleReached⟩
  apply (sound.yields_write _).mono
  · intro moved later _ wrote
    rcases wrote with ⟨choice, before, after, wrote⟩
    exact ⟨named, timeNow, choice, middle, before, after, middleReached, wrote⟩
  · intro later related _
    exact issued named timeNow later same (trans_of setting.rely middleReached related)

theorem wrote_heldSource {β : Type} {statement : EventWrite β} {choice : Choice} {value : β}
    {before after : Store}
    (wrote : setting.Wrote deployment activity statement choice value store before after later)
    (untouched : copy.id ∉ statement.targets) (held : setting.HeldSource copy store) :
    setting.HeldSource copy later :=
  ⟨sound.wrote_kept wrote untouched held.tracked, held.settled, held.distinct⟩

end Sound

/-! ## Regular creation -/

section Regular

variable {route : CreationRoute} {caller : Caller} {data : IncidentData}
variable (sound : setting.Sound deployment (.post route caller data))
variable (regular : data.system ≠ some true) (valid : ValidCreation data)
include sound regular valid

/-- One component: it is moved out of the first active incident that holds it,
and no other copy is touched. -/
theorem yields_processComponent {component : Component} (names : component.id ∈ data.components)
    (opened : List Incident) {incIn : Incident} {store : Store}
    (target : setting.HeldTarget incIn store)
    (sources : ∀ source ∈ opened, setting.HeldSource source store)
    (distinct : (opened.map Incident.id).Nodup) (apart : incIn.id ∉ opened.map Incident.id) :
    setting.Yields (fun result later => setting.HeldTarget result.1 later ∧
        result.1.id = incIn.id ∧ (∀ source ∈ result.2, setting.HeldSource source later) ∧
        result.2.map Incident.id = opened.map Incident.id ∧
        ∀ copy, setting.HeldSource copy store → copy.id ≠ incIn.id →
          copy.id ∉ opened.map Incident.id → setting.HeldSource copy later)
      (processComponentInOpenedIncidents component incIn opened) store := by
  induction opened generalizing store with
  | nil =>
    apply Regime.yields_pure
    intro later onward _
    refine ⟨sound.heldTarget_stable target onward, rfl, ?_, rfl, ?_⟩
    · exact List.forall_mem_nil _
    · exact fun copy held _ _ => sound.heldSource_stable held onward
  | cons first others ih =>
    rw [List.map_cons, List.nodup_cons] at distinct
    rw [List.map_cons, List.mem_cons, not_or] at apart
    have firstHeld := sources first List.mem_cons_self
    have othersHeld : ∀ source ∈ others, setting.HeldSource source store :=
      fun source member => sources source (List.mem_cons_of_mem first member)
    unfold processComponentInOpenedIncidents
    split_ifs with skips
    · apply (ih target othersHeld distinct.2 apart.2).bind
      intro result middle _ held
      rcases held with ⟨resultHeld, sameId, othersLater, sameIds, bystanders⟩
      have firstLater := bystanders first firstHeld (Ne.symm apart.1) distinct.1
      apply Regime.yields_pure
      intro later onward _
      refine ⟨sound.heldTarget_stable resultHeld onward, sameId, ?_, ?_, ?_⟩
      · exact List.forall_mem_cons.mpr ⟨sound.heldSource_stable firstLater onward,
          fun source later => sound.heldSource_stable (othersLater source later) onward⟩
      · rw [List.map_cons, List.map_cons, sameIds]
      · intro copy copyHeld elsewhere unlisted
        rw [List.map_cons, List.mem_cons, not_or] at unlisted
        exact sound.heldSource_stable (bystanders copy copyHeld elsewhere unlisted.2) onward
    · simp only [shouldSkipIncident, Bool.or_eq_true, beq_iff_eq, Bool.not_eq_true',
        List.contains_eq_mem, decide_eq_false_iff_not, not_or, not_not] at skips
      rcases skips with ⟨⟨notInfo, notMaintenance⟩, holds⟩
      have firstType : first.type = .incident := by
        cases type : first.type with
        | information => exact absurd type notInfo
        | incident => rfl
        | maintenance => exact absurd type notMaintenance
      apply (sound.yields_moveComponent _).bind
      · intro moved middle _ wrote
        rcases wrote with ⟨named, timeNow, choice, seen, before, after, reached, wrote⟩
        rcases moved_copies wrote.commits with ⟨⟨oldId, oldSettled, oldDistinct⟩,
          ⟨newId, newSettled, newType, newEnding⟩⟩
        rw [releaseComponent_id] at oldId
        have oldHeld : setting.HeldSource moved.1 middle := by
          refine ⟨sound.wrote_returned wrote moved.1 List.mem_cons_self, oldSettled, ?_⟩
          apply oldDistinct
          unfold ListsOnce Incident.componentIds
          rw [releaseComponent_components]
          exact firstHeld.distinct
        have newHeld : setting.HeldTarget moved.2 middle :=
          ⟨sound.wrote_returned wrote moved.2 (List.mem_cons_of_mem _ List.mem_cons_self),
            newSettled, newType.trans target.type, newEnding.trans target.ongoing⟩
        have keep : ∀ copy, setting.HeldSource copy store → copy.id ≠ incIn.id →
            copy.id ≠ first.id → setting.HeldSource copy middle := by
          intro copy held notTarget notSource
          apply sound.wrote_heldSource wrote _ (sound.heldSource_stable held reached)
          simpa [EventWrite.targets, receiveComponent] using ⟨notSource, notTarget⟩
        apply Regime.yields_pure
        intro later onward _
        refine ⟨sound.heldTarget_stable newHeld onward, newId, ?_, ?_, ?_⟩
        · intro source member
          rcases List.mem_cons.mp member with rfl | later
          · exact sound.heldSource_stable oldHeld onward
          · have listed : source.id ∈ others.map Incident.id := List.mem_map_of_mem later
            have notTarget : source.id ≠ incIn.id := fun same => apart.2 (same ▸ listed)
            have notSource : source.id ≠ first.id := fun same => distinct.1 (same ▸ listed)
            exact sound.heldSource_stable
              (keep source (othersHeld source later) notTarget notSource) onward
        · rw [List.map_cons, List.map_cons, oldId]
        · intro copy copyHeld elsewhere unlisted
          rw [List.map_cons, List.mem_cons, not_or] at unlisted
          exact sound.heldSource_stable (keep copy copyHeld elsewhere unlisted.1) onward
      · intro named timeNow later same onward
        exact .regularMove regular valid (same ▸ names) (sound.stable onward firstHeld.tracked)
          (sound.stable onward target.tracked) firstHeld.settled target.settled firstType
          target.type target.ongoing (same ▸ holds) firstHeld.distinct (Ne.symm apart.1)

theorem yields_processComponents {components : List Component}
    (names : ∀ component ∈ components, component.id ∈ data.components)
    {opened : List Incident} {incIn : Incident} {store : Store}
    (target : setting.HeldTarget incIn store)
    (sources : ∀ source ∈ opened, setting.HeldSource source store)
    (distinct : (opened.map Incident.id).Nodup) (apart : incIn.id ∉ opened.map Incident.id) :
    setting.Yields (fun _ _ => True) (processComponentMovement components incIn opened) store := by
  induction components generalizing opened incIn store with
  | nil => exact Regime.yields_value _
  | cons component components ih =>
    have first := yields_processComponent sound regular valid
      (names component List.mem_cons_self) opened target sources distinct apart
    apply first.bind
    intro result middle _ held
    rcases held with ⟨resultHeld, sameId, othersHeld, sameIds, _⟩
    have rest := ih (fun later member => names later (List.mem_cons_of_mem component member))
      resultHeld othersHeld (sameIds.symm ▸ distinct) (sameIds.symm ▸ sameId.symm ▸ apart)
    exact rest.answer

omit regular valid in
/-- The new incident is held like a loaded one: it is stored with its first
status and its id is new. -/
theorem created_held {prepared : IncidentData} {choice : Choice} {created : Incident}
    {store before after later : Store} (moving : prepared.type = .incident)
    (ongoing : prepared.endDate = none)
    (wrote : setting.Wrote deployment (.post route caller data)
      (.createEvent deployment.publisher (regularIncident prepared caller.userID) caller.userID)
      choice created store before after later) :
    setting.HeldTarget created later ∧
      created.componentIds = prepared.components ∧
      ∀ copy, setting.tracked copy store → copy.id ≠ created.id := by
  rcases createEventTx_ok wrote.commits with
    ⟨saved, inserted, modified, version, savedCommitted, _, ⟨statuses, settled, shape⟩, _⟩
  rcases saveIncidentTx_ok savedCommitted with ⟨_, savedStatuses, _, rfl⟩
  have held := sound.wrote_returned wrote created List.mem_cons_self
  refine ⟨⟨held, ?_, ?_, ?_⟩, ?_, ?_⟩
  · rw [shape]
    exact settled
  · rw [shape]
    exact moving
  · rw [shape]
    exact ongoing
  · rw [shape]
    change (prepared.components.map _).map Component.id = prepared.components
    rw [List.map_map]
    exact List.map_id _
  · intro copy tracked same
    rcases sound.present (sound.stable wrote.reached tracked) with ⟨row, found⟩
    have old := Tables.SerialTable.lt_nextId_of_get? found
    rw [same, shape] at old
    exact Nat.lt_irrefl _ old

theorem yields_regularCreation {prepared : IncidentData} (prepares : Prepared caller data prepared)
    (store : Store) :
    setting.Yields (fun _ _ => True)
      (handleRegularIncidentCreation deployment prepared caller.userID) store := by
  apply (setting.yields_getEventsInternal activeParams store).bind
  intro opened middle _ listed
  rcases listed with ⟨first, _, kept, _, distinct, readings⟩
  have sources : ∀ source ∈ opened, setting.HeldSource source middle := by
    intro source member
    rcases readings source member with ⟨row, _, reading⟩
    exact sound.heldSource_of_reading kept reading
  apply (sound.yields_write _).bind
  · intro created last _ wrote
    rcases wrote with ⟨choice, before, after, wrote⟩
    split_ifs with skips
    · exact Regime.yields_value _
    · have sameType : prepared.type = data.type := by rw [prepares.same]
      have sameImpact : prepared.impact = data.impact := by rw [prepares.same]
      have sameComponents : prepared.components = data.components := by rw [prepares.same]
      have moving : prepared.type = .incident := by
        rw [sameType]
        by_contra other
        apply skips
        simp [shouldSkipComponentMovement, sameImpact, valid.unimpaired other]
      have ongoing : prepared.endDate = none := by
        rw [prepares.same]
        exact valid.ongoing (sameType.symm.trans moving)
      rcases created_held sound moving ongoing wrote with ⟨held, ids, apart⟩
      apply yields_processComponents sound regular valid _ held _ distinct _
      · intro component member
        have listed : component.id ∈ created.componentIds := List.mem_map_of_mem member
        rw [ids, sameComponents] at listed
        exact listed
      · intro source member
        apply sound.wrote_heldSource wrote _ (sources source member)
        simp [EventWrite.targets]
      · intro member
        rcases List.mem_map.mp member with ⟨source, listed, same⟩
        exact apart source (sources source listed).tracked same
  · intro later _ _
    exact .regularCreate regular valid prepares

end Regular

/-! ## System creation -/

variable {store later : Store}

theorem Source.extend {data : IncidentData} {component : Component} {source : Incident}
    (found : setting.Source data component source store) (onward : setting.rely store later) :
    setting.Source data component source later := by
  rcases found with ⟨row, first, condition, kept, reading, rest⟩
  exact ⟨row, first, condition, kept, reading.extend onward, rest⟩

theorem Target.extend {data : IncidentData} {target : Incident}
    (found : setting.Target data target store) (onward : setting.rely store later) :
    setting.Target data target later := by
  rcases found with ⟨row, first, condition, kept, reading, rest⟩
  exact ⟨row, first, condition, kept, reading.extend onward, rest⟩

theorem Extracts.extend {components : List Component} {old : Incident} {impact : Int}
    {text : String} {description : Option String}
    (extracts : setting.Extracts activity store components old impact text description)
    (onward : setting.rely store later) :
    setting.Extracts activity later components old impact text description := by
  cases extracts with
  | system names found several => exact .system names (found.extend onward) several
  | request fetched type distinct chosen nonempty =>
    rcases fetched with ⟨same, reached, kept, assumed, reading⟩
    exact .request ⟨same, reached, kept, assumed, reading.extend onward⟩ type distinct chosen
      nonempty

/-- The event a scan settles on is one of those scanned. -/
theorem scanEvents_system {firstSystem : Option Incident} {events : List Incident}
    {event : Incident} (scanned : scanEvents firstSystem events = .system event) :
    firstSystem = some event ∨
      (event ∈ events ∧ event.type ≠ .maintenance ∧ event.system = true) := by
  induction events generalizing firstSystem with
  | nil =>
    unfold scanEvents at scanned
    split at scanned
    · cases scanned
      exact Or.inl rfl
    · cases scanned
  | cons first events ih =>
    unfold scanEvents at scanned
    split_ifs at scanned with maintenance regular
    rcases ih scanned with earlier | later
    · cases firstSystem with
      | some => exact Or.inl earlier
      | none =>
        rw [Option.none_or] at earlier
        cases earlier
        exact Or.inr ⟨List.mem_cons_self, maintenance, by simpa using regular⟩
    · exact Or.inr ⟨List.mem_cons_of_mem first later.1, later.2⟩

theorem yields_fetchComponents (ids : List Nat) (store : Store) :
    setting.Yields (fun components _ => ∀ component ∈ components, component.id ∈ ids)
      (fetchComponents ids) store := by
  induction ids generalizing store with
  | nil =>
    apply Regime.yields_pure
    intro _ _ _ component member
    exact absurd member List.not_mem_nil
  | cons id ids ih =>
    apply (setting.yields_read (.component id) store).bind
    intro component middle _ answered
    rcases answered with ⟨_, _, _, ⟨choice, _, answer⟩, _⟩
    apply (ih middle).bind
    intro others last _ listed
    apply Regime.yields_pure
    intro _ _ _ other member
    rcases List.mem_cons.mp member with rfl | later
    · rw [component_eval answer]
      exact List.mem_cons_self
    · exact List.mem_cons_of_mem id (listed other later)

namespace Sound

variable (sound : setting.Sound deployment activity)
include sound

/-- The two writes of an extraction, and what the second returns. -/
theorem yields_extractComponents {components : List Component} {old : Incident} {impact : Int}
    {text : String} {description : Option String}
    (extracts : setting.Extracts activity store components old impact text description)
    (oldTracked : setting.tracked old store) :
    setting.Yields (fun incident later => setting.tracked incident later ∧
        (∃ timeNow, ExtractionSaved timeNow components impact text description incident) ∧
        ∃ before, setting.always before ∧ incident.id = before.incidents.nextId)
      (extractComponentsToNewIncident components old impact text description) store := by
  unfold extractComponentsToNewIncident
  split_ifs with none
  · exact Regime.yields_fail _
  · apply (setting.yields_currentTime store).bind
    intro timeNow timed held reached
    have tracked := sound.stable reached oldTracked
    apply (sound.yields_write _).bind
    · intro saved middle _ wrote
      rcases wrote with ⟨choice, before, after, wrote⟩
      have heldBefore := setting.keeps wrote.reached held
      have savedTracked := sound.wrote_returned wrote saved List.mem_cons_self
      have laterTracked : setting.tracked old middle :=
        sound.wrote_kept wrote (by simp [EventWrite.targets]) tracked
      rcases saveIncidentTx_ok wrote.commits with ⟨_, statuses, settled, shape⟩
      have inserted : ExtractionSaved timeNow components impact text description saved := by
        subst shape
        exact ⟨rfl, settled⟩
      have apart : old.id ≠ saved.id := by
        intro same
        rcases sound.present (sound.stable wrote.reached tracked) with ⟨row, found⟩
        have old := Tables.SerialTable.lt_nextId_of_get? found
        rw [same, shape] at old
        exact Nat.lt_irrefl _ old
      have passed := sound.across_trans (sound.within reached) (sound.wrote_across wrote)
      apply (sound.yields_write _).bind
      · intro copies last _ second
        rcases second with ⟨secondChoice, secondBefore, secondAfter, second⟩
        have resultTracked := sound.wrote_returned second copies.2 List.mem_cons_self
        rcases extractComponentsTx_ok second.commits with ⟨_, newStatuses, newSettled, newShape⟩
        apply Regime.yields_pure
        intro later onward _
        rw [newShape] at resultTracked ⊢
        subst shape
        exact ⟨sound.stable onward resultTracked, ⟨timeNow, rfl, newSettled⟩,
          before, heldBefore, rfl⟩
      · intro later onward _
        exact .extract extracts (sound.across_trans passed (sound.within onward)) inserted
          (sound.stable onward laterTracked) (sound.stable onward savedTracked) apart
    · intro later onward _
      exact .extractSave (extracts.extend (trans_of setting.rely reached onward))

end Sound

section System

variable {route : CreationRoute} {caller : Caller} {data : IncidentData} {component : Component}
variable (sound : setting.Sound deployment (.post route caller data))
variable (names : SystemNamed data component)

theorem withDefaultDescription_impact (data : IncidentData) :
    (withDefaultDescription data).impact = data.impact := by
  unfold withDefaultDescription
  split_ifs <;> rfl

theorem withDefaultDescription_title (data : IncidentData) :
    (withDefaultDescription data).title = data.title := by
  unfold withDefaultDescription
  split_ifs <;> rfl

theorem target_of_find {incidents : List Incident} {target : Incident}
    (listed : setting.Listed linkedComponents (eventsCondition systemParams authorizedAccess)
      incidents store later)
    (found : findSystemIncident (withDefaultDescription data).impact incidents = some target) :
    setting.Target data target later := by
  rcases listed with ⟨first, _, kept, _, _, readings⟩
  rcases readings target (List.mem_of_find?_eq_some found) with ⟨row, condition, reading⟩
  have impact := List.find?_some found
  rw [withDefaultDescription_impact, beq_iff_eq] at impact
  exact ⟨row, first, condition, kept, reading, impact⟩

include sound names

theorem yields_addToSystemIncident (store : Store) :
    setting.Yields (fun _ _ => True)
      (addComponentToSystemIncident component (withDefaultDescription data)) store := by
  apply (setting.yields_getEventsInternal systemParams store).bind
  intro incidents middle _ listed
  split
  · rename_i target found
    have targetFound := target_of_find listed found
    apply (setting.yields_currentTime middle).bind
    intro time timed _ reached
    apply (sound.yields_write _).mono (fun _ _ _ _ => trivial)
    intro later onward _
    exact .systemAdd names (targetFound.extend (trans_of setting.rely reached onward))
  · apply (sound.yields_write _).mono (fun _ _ _ _ => trivial)
    intro later _ _
    exact .systemCreate names

theorem yields_moveToSystemIncident {source : Incident}
    (found : setting.Source data component source store) :
    setting.Yields (fun _ _ => True)
      (moveComponentFromToSystemIncidents component (withDefaultDescription data) source)
      store := by
  have sourceTracked : setting.tracked source store := by
    rcases found with ⟨row, first, _, kept, reading, _⟩
    exact sound.loaded kept reading
  apply (setting.yields_getEventsInternal systemParams store).bind
  intro incidents middle _ listed
  have reached : setting.rely store middle := by
    rcases listed with ⟨first, before, _, after, _⟩
    exact trans_of setting.rely before after
  have sourceFound := found.extend reached
  split
  · rename_i target selected
    have targetFound := target_of_find listed selected
    apply (sound.yields_moveComponent _).bind
    · intro moved last _ _
      exact Regime.yields_value _
    · intro named timeNow later same onward
      exact .systemMove names same (sourceFound.extend onward) (targetFound.extend onward)
  · split_ifs with single
    · unfold increaseIncidentImpact
      apply (setting.yields_currentTime middle).bind
      intro timeNow timed _ timedReached
      apply (sound.yields_write _).bind
      · intro _ _ _ _
        exact Regime.yields_value _
      · intro later onward _
        rw [withDefaultDescription_impact]
        exact .systemRaise names (sourceFound.extend (trans_of setting.rely timedReached onward))
          single
    · rw [withDefaultDescription_impact, withDefaultDescription_title]
      apply (sound.yields_extractComponents (.system names sourceFound single)
        (sound.stable reached sourceTracked)).bind
      intro incident last _ extracted
      rcases extracted with ⟨tracked, ⟨timeNow, inserted⟩, fresh⟩
      apply (sound.yields_write _).mono (fun _ _ _ _ => trivial)
      intro later onward _
      exact .systemMark names.type names.valid inserted (sound.stable onward tracked) fresh

theorem yields_processSystemComponent (store : Store) :
    setting.Yields (fun _ _ => True)
      (processSystemIncidentComponent (withDefaultDescription data) component) store := by
  apply (setting.yields_getEventsByComponentID component.id componentParams store).bind
  intro events middle _ listed
  split_ifs with none
  · exact (yields_addToSystemIncident sound names middle).answer
  · unfold handleComponentWithExistingEvents
    split
    · exact Regime.yields_value _
    · exact Regime.yields_value _
    · rename_i event scanned
      unfold handleSystemIncidentWithImpactComparison
      rw [withDefaultDescription_impact]
      split_ifs with enough
      · exact Regime.yields_value _
      · have found : setting.Source data component event middle := by
          rcases listed with ⟨first, _, kept, _, _, readings⟩
          rcases scanEvents_system scanned with impossible | ⟨member, type, system⟩
          · cases impossible
          · rcases readings event member with ⟨row, condition, reading⟩
            exact ⟨row, first, condition, kept, reading, type, system, not_le.mp enough⟩
        exact (yields_moveToSystemIncident sound names found).answer
    · exact Regime.yields_fail _

omit names in
theorem yields_systemCreation (system : data.system = some true) (type : data.type = .incident)
    (valid : ValidCreation data) (store : Store) :
    setting.Yields (fun _ _ => True) (handleSystemIncidentCreation data) store := by
  apply (yields_fetchComponents data.components store).bind
  intro components middle _ listed
  induction components generalizing middle with
  | nil => exact Regime.yields_value _
  | cons component components ih =>
    have names : SystemNamed data component :=
      ⟨system, type, valid, listed component List.mem_cons_self⟩
    apply (yields_processSystemComponent sound names middle).bind
    intro _ last kept _
    exact (ih last kept (fun other member => listed other (List.mem_cons_of_mem _ member))).answer

end System

/-! ## The handler -/

section Post

variable {route : CreationRoute} {caller : Caller} {data : IncidentData}

theorem yields_validateComponents (components : List Nat) (store : Store) :
    setting.Yields (fun _ later => setting.rely store later ∧ components ≠ [] ∧
        ∀ id ∈ components, id ≠ 0)
      (validateComponents components) store := by
  unfold validateComponents
  split_ifs with none
  · exact Regime.yields_fail _
  · apply (setting.yields_read .componentIds store).mapError.bind
    intro known middle _ answered
    rcases answered with ⟨seen, reached, _, ⟨choice, _, answer⟩, passed⟩
    split
    · exact Regime.yields_fail _
    · rename_i all
      apply Regime.yields_pure
      intro later onward _
      refine ⟨trans_of setting.rely reached (trans_of setting.rely passed onward), none, ?_⟩
      intro id member
      have listed : id ∈ known := by
        have notMissing := List.find?_eq_none.mp all id member
        simpa using notMissing
      cases answer
      rcases List.mem_map.mp listed with ⟨entry, stored, rfl⟩
      exact Nat.ne_of_gt (Tables.SerialTable.pos_of_get? (Tables.SerialTable.mem_rows.mp stored))

theorem yields_validateEventCreationImpact (low : 0 ≤ data.impact) (high : data.impact ≤ 3)
    (store : Store) :
    setting.Yields (fun _ _ => (data.type ≠ .incident → data.impact = 0) ∧
        (data.type = .incident → 1 ≤ data.impact ∧ data.impact ≤ 3))
      (validateEventCreationImpact data) store := by
  unfold validateEventCreationImpact
  split_ifs with mismatch missing
  · exact Regime.yields_fail _
  · exact Regime.yields_fail _
  · apply Regime.yields_pure
    intro _ _ _
    constructor
    · intro other
      by_contra nonzero
      apply mismatch
      refine ⟨?_, nonzero⟩
      cases type : data.type with
      | information => exact Or.inr rfl
      | incident => exact absurd type other
      | maintenance => exact Or.inl rfl
    · intro incident
      have nonzero : data.impact ≠ 0 := fun zero => missing ⟨incident, zero⟩
      omega

theorem yields_validateEventCreationTimes (store : Store) :
    setting.Yields (fun _ _ => (data.type = .incident → data.endDate = none) ∧
        (data.type = .maintenance → data.endDate ≠ none))
      (validateEventCreationTimes data) store := by
  unfold validateEventCreationTimes
  split
  · exact Regime.yields_fail _
  · rename_i incident ongoing
    apply (setting.yields_currentTime store).mapError.bind
    intro time _ _ _
    split_ifs
    · exact Regime.yields_fail _
    · apply Regime.yields_pure
      intro _ _ _
      exact ⟨fun _ => ongoing, fun maintenance => by rw [incident] at maintenance; cases maintenance⟩
  · exact Regime.yields_fail _
  · rename_i notEnded notOngoing notMissing
    apply Regime.yields_pure
    intro _ _ _
    refine ⟨?_, fun maintenance missing => notMissing maintenance missing⟩
    intro incident
    cases ended : data.endDate with
    | none => rfl
    | some date => exact absurd ended (notEnded date incident)

/-- What the checks on a creation body establish. -/
theorem yields_validateEventCreation (bound : data.bound = true) (store : Store) :
    setting.Yields (fun _ _ => (data.type ≠ .incident → data.impact = 0) ∧
        (data.type = .incident → 1 ≤ data.impact ∧ data.impact ≤ 3) ∧
        (data.type = .incident → data.endDate = none) ∧
        (data.type = .maintenance → data.endDate ≠ none))
      (validateEventCreation data) store := by
  simp only [IncidentData.bound, Bool.and_eq_true, decide_eq_true_eq] at bound
  rcases bound with ⟨⟨⟨_, low⟩, high⟩, _⟩
  apply (Regime.yields_unless _ _).bind
  intro _ described _ _
  apply (yields_validateEventCreationImpact low high described).bind
  intro _ weighed _ impacts
  apply (yields_validateEventCreationTimes weighed).bind
  intro _ _ _ dates
  split_ifs
  · exact Regime.yields_pure (fun _ _ _ => ⟨impacts.1, impacts.2, dates⟩)
  · exact Regime.yields_fail _

/-- What a prepared creation is. -/
theorem yields_prepareIncidentCreate (bound : data.bound = true)
    (components : data.components ≠ [] ∧ ∀ id ∈ data.components, id ≠ 0) (store : Store) :
    setting.Yields (fun prepared _ => ValidCreation data ∧ Prepared caller data prepared)
      (prepareIncidentCreate deployment caller data) store := by
  apply (yields_validateEventCreation bound store).bind
  intro _ checked _ facts
  have valid : ValidCreation data :=
    ⟨facts.1, facts.2.1, facts.2.2.1, components.1, components.2⟩
  split_ifs with reporter maintenance
  · exact Regime.yields_fail _
  · have validated : setting.Yields
        (fun _ _ => ∃ date, data.endDate = some date ∧ data.startDate < date)
        (validateMaintenanceCreation deployment data) checked := by
      unfold validateMaintenanceCreation
      split_ifs with address early missing
      · exact Regime.yields_fail _
      · exact Regime.yields_fail _
      · exact Regime.yields_fail _
      · apply Regime.yields_pure
        intro _ _ _
        rcases Option.ne_none_iff_exists'.mp (facts.2.2.2 maintenance) with ⟨date, ended⟩
        refine ⟨date, ended, ?_⟩
        simpa [ended] using early
    apply validated.bind
    intro _ middle _ scheduled
    have addresses : setting.Yields (fun addressed _ =>
        addressed = { data with contactEmail := addressed.contactEmail })
        (resolveContactEmail deployment caller data) middle := by
      unfold resolveContactEmail
      split_ifs
      · exact Regime.yields_pure (fun _ _ _ => rfl)
      · exact Regime.yields_pure (fun _ _ _ => rfl)
      · exact Regime.yields_fail _
    apply addresses.bind
    intro addressed last _ sameBody
    have statuses : setting.Yields (fun status _ =>
        status = if caller.role.canApprove then Status.planned else .pendingReview)
        (resolveMaintenanceCreateStatus caller.role) last := by
      unfold resolveMaintenanceCreateStatus
      split_ifs
      · exact Regime.yields_pure (fun _ _ _ => rfl)
      · exact Regime.yields_pure (fun _ _ _ => rfl)
      · exact Regime.yields_fail _
    apply statuses.bind
    intro status _ _ chosen
    apply Regime.yields_pure
    intro _ _ _
    refine ⟨valid, ?_, fun other => absurd maintenance other, fun _ => chosen, fun _ => scheduled⟩
    rw [sameBody]
  · exact Regime.yields_pure (fun _ _ _ => ⟨valid, rfl, fun _ => rfl,
      fun other => absurd other maintenance, fun other => absurd other maintenance⟩)

/-- A creation request attempts the listed writes and no others. -/
theorem Sound.yields_post (sound : setting.Sound deployment (.post route caller data))
    (store : Store) :
    setting.Yields (fun _ _ => True) (postEvent deployment route caller data) store := by
  apply (Regime.yields_unless _ _).bind
  intro _ authorized _ _
  have routed : setting.Yields (fun _ _ => True) (route.middleware caller) authorized := by
    cases route with
    | events => exact Regime.yields_value _
    | incidents => exact (Regime.yields_unless _ _).mono (fun _ _ _ _ => trivial)
  apply routed.bind
  intro _ passed _ _
  apply (yields_validateComponents data.components passed).bind
  intro _ named _ components
  unfold postIncidentHandler
  split_ifs with unbound
  · exact Regime.yields_fail _
  · have bound : data.bound = true := by simpa using unbound
    apply (yields_prepareIncidentCreate bound components.2 named).bind
    intro prepared middle _ facts
    rcases facts with ⟨valid, prepares⟩
    have routes : setting.Yields (fun _ _ => True)
        (routeIncidentCreation deployment caller prepared) middle := by
      have sameSystem : prepared.system = data.system := by rw [prepares.same]
      have sameType : prepared.type = data.type := by rw [prepares.same]
      unfold routeIncidentCreation
      split_ifs with system other
      · exact Regime.yields_fail _
      · have incident : data.type = .incident := by
          rw [sameType] at other
          exact not_not.mp other
        have same : prepared = data := prepares.other (by rw [incident]; decide)
        rw [same]
        exact (yields_systemCreation sound (sameSystem ▸ system) incident valid middle).mapError
      · exact (yields_regularCreation sound (sameSystem ▸ system) valid prepares middle).mapError
    exact routes.answer

end Post

end Setting

end StatusDashboard.Provenance
