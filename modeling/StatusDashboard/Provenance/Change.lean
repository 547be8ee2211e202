import StatusDashboard.Provenance.Completion
import StatusDashboard.Provenance.Create

namespace StatusDashboard.Provenance

open Event Storage Notification Process Handlers Checker

/-!
# The writes of all activities

The remaining requests, the rounds of the checkers and the rounds of delivery
followed through their operations.  `Sound.yields_activity` is the result: in a
sound setting an activity attempts only writes that `Issued` lists.
-/

namespace Setting

variable {setting : Setting} {deployment : Deployment} {activity : Activity}

theorem yields_checkEventExistence (id : Nat) (store : Store) :
    setting.Yields (fun copy later => ∃ row first, setting.Fetched id copy row store first later)
      (checkEventExistence id) store := by
  unfold checkEventExistence
  split_ifs
  · exact Regime.yields_fail _
  · exact (setting.yields_getIncident id store).mapError

theorem Fetched.extend {id : Nat} {copy : Incident} {row : IncidentRow}
    {store first later further : Store} (fetched : setting.Fetched id copy row store first later)
    (onward : setting.rely later further) : setting.Fetched id copy row store first further := by
  rcases fetched with ⟨same, reached, kept, assumed, reading⟩
  exact ⟨same, reached, kept, assumed, reading.extend onward⟩

/-! ## Patching -/

theorem Sound.yields_patch {caller : Caller} {id : Nat} {data : PatchIncidentData}
    (sound : setting.Sound deployment (.patch caller id data)) (store : Store) :
    setting.Yields (fun _ _ => True) (patchEvent deployment caller id data) store := by
  apply (Regime.yields_unless _ _).bind
  intro _ authorized _ _
  apply (Regime.yields_unless _ _).bind
  intro _ passed _ _
  apply (yields_checkEventExistence id passed).bind
  intro copy middle _ found
  rcases found with ⟨row, first, fetched⟩
  unfold patchIncidentHandler
  split_ifs with unbound unversioned
  · exact Regime.yields_fail _
  · exact Regime.yields_fail _
  · have bound : data.bound = true := by simpa using unbound
    have versioned : copy.type = .maintenance → data.version ≠ none :=
      fun maintenance missing => unversioned ⟨maintenance, missing⟩
    split
    · exact Regime.yields_fail _
    · rename_i allowed
      have persists : setting.Yields (fun _ later => setting.across middle later)
          (persistIncidentPatch deployment (patchedIncident data caller.userID copy) copy.status
            caller.userID) middle := by
        apply Regime.Yields.mapError
        apply (sound.yields_write _).mono
        · intro _ later _ wrote
          rcases wrote with ⟨choice, before, after, wrote⟩
          exact sound.wrote_across wrote
        · intro later onward _
          exact .patch bound (Fetched.extend fetched onward) versioned allowed
      apply persists.bind
      intro _ written _ drifted
      have reopens : setting.Yields (fun _ _ => True) (reopenIncident copy data.status) written := by
        unfold reopenIncident
        split_ifs with reopened
        · apply Regime.Yields.mapError
          apply (sound.yields_write _).mono (fun _ _ _ _ => trivial)
          intro later onward _
          rw [fetched.1]
          exact .reopen reopened fetched allowed
            (sound.across_trans drifted (sound.within onward))
        · exact Regime.yields_value _
      apply reopens.bind
      intro _ last _ _
      exact (setting.yields_getIncident copy.id last).mapError.answer

/-! ## Extracting -/

theorem lookupComponents_ids {stored moved : List Component} {ids : List Nat}
    (found : lookupComponents stored ids = .ok moved) :
    moved.map Component.id = ids ∧ ∀ component ∈ moved, component ∈ stored := by
  induction ids generalizing moved with
  | nil =>
    cases found
    exact ⟨rfl, nofun⟩
  | cons id ids ih =>
    unfold lookupComponents at found
    split at found
    · cases found
    · rename_i component held
      split at found
      · rename_i others rest
        cases found
        rcases ih rest with ⟨sameIds, members⟩
        have sameId : component.id = id := by simpa using List.find?_some held
        exact ⟨by rw [List.map_cons, sameId, sameIds],
          List.forall_mem_cons.mpr ⟨List.mem_of_find?_eq_some held, members⟩⟩
      · cases found

/-- The extracted components are those requested, and not all of the incident's. -/
theorem getComponentsToExtract_ok {stored moved : List Component} {ids : List Nat}
    (chosen : getComponentsToExtract ids stored = .ok moved) :
    moved.map Component.id = ids ∧ (∀ component ∈ moved, component ∈ stored) ∧
      moved.length ≠ stored.length := by
  unfold getComponentsToExtract at chosen
  split at chosen
  · cases chosen
  · rename_i found looked
    split_ifs at chosen with all
    cases chosen
    rcases lookupComponents_ids looked with ⟨sameIds, members⟩
    exact ⟨sameIds, members, all⟩

theorem Sound.yields_extract {caller : Caller} {id : Nat} {components : List Nat}
    (sound : setting.Sound deployment (.extract caller id components)) (store : Store) :
    setting.Yields (fun _ _ => True) (extractEvent caller id components) store := by
  apply (Regime.yields_unless _ _).bind
  intro _ authorized _ _
  apply (Regime.yields_unless _ _).bind
  intro _ passed _ _
  apply (yields_checkEventExistence id passed).bind
  intro stored middle _ found
  rcases found with ⟨row, first, fetched⟩
  apply (yields_validateComponents components middle).bind
  intro _ named _ checked
  have again := Fetched.extend fetched checked.1
  unfold postIncidentExtractHandler
  split_ifs with role type body
  · exact Regime.yields_fail _
  · exact Regime.yields_fail _
  · exact Regime.yields_fail _
  · rw [not_or, not_not] at body
    split
    · exact Regime.yields_fail _
    · rename_i moved chosen
      have nonempty : moved ≠ [] := by
        rintro rfl
        exact body.1 (getComponentsToExtract_ok chosen).1.symm
      have tracked : setting.tracked stored named := by
        rcases again with ⟨_, _, kept, _, reading⟩
        exact sound.loaded kept reading
      exact (sound.yields_extractComponents
        (.request again (not_not.mp type) body.2 chosen nonempty) tracked).mapError.answer

theorem Sound.yields_patchText {caller : Caller} {id index : Nat} {text : String}
    (sound : setting.Sound deployment (.patchText caller id index text)) (store : Store) :
    setting.Yields (fun _ _ => True) (patchEventUpdateText caller id index text) store := by
  apply (Regime.yields_unless _ _).bind
  intro _ authorized _ _
  apply (Regime.yields_unless _ _).bind
  intro _ passed _ _
  apply (yields_checkEventExistence id passed).bind
  intro _ middle _ _
  split_ifs with empty
  · exact Regime.yields_fail _
  · have updates : setting.Yields (fun updates later => ∃ seen, setting.rely seen later ∧
        updates = loadedHistory seen id) (getEventUpdates id) middle := by
      apply (setting.yields_read (.statuses [id]) middle).bind
      intro rows read _ answered
      rcases answered with ⟨seen, _, _, ⟨choice, _, answer⟩, onward⟩
      apply Regime.yields_pure
      intro later further _
      refine ⟨seen, trans_of setting.rely onward further, ?_⟩
      rw [statusesOf_read answer, if_pos (List.mem_singleton.mpr rfl)]
    apply updates.mapError.bind
    intro found last _ history
    rcases history with ⟨seen, reached, rfl⟩
    split
    · exact Regime.yields_fail _
    · rename_i target listed
      refine Regime.Yields.bind (Regime.Yields.mapError (sound.yields_write ?_)) ?_
      · intro later onward _
        exact .editText empty (trans_of setting.rely reached onward) listed
      · intro _ _ _ _
        exact Regime.yields_value _

/-! ## The checkers -/

theorem yields_currentMntStatus (mn : Incident) (store : Store) :
    setting.Yields (fun status later => setting.rely store later ∧
        ∃ now, status = currentMntStatus now mn)
      (calculateCurrentMntStatus (calculateMntStatusHistory mn) mn) store := by
  unfold calculateCurrentMntStatus
  split_ifs with cancelled reviewed
  · apply Regime.yields_pure
    intro later onward _
    exact ⟨onward, 0, (if_pos cancelled).symm⟩
  · apply Regime.yields_pure
    intro later onward _
    exact ⟨onward, 0, ((if_neg cancelled).trans (if_pos reviewed)).symm⟩
  · apply (setting.yields_currentTime store).bind
    intro now timed _ reached
    apply Regime.yields_pure
    intro later onward _
    exact ⟨trans_of setting.rely reached onward, now,
      ((if_neg cancelled).trans (if_neg reviewed)).symm⟩

theorem yields_currentInfoStatus (info : Incident) (store : Store) :
    setting.Yields (fun status later => setting.rely store later ∧
        ∃ now, status = currentInfoStatus now info)
      (calculateCurrentInfoStatus (calculateInfoStatusHistory info) info) store := by
  unfold calculateCurrentInfoStatus
  split_ifs with cancelled
  · apply Regime.yields_pure
    intro later onward _
    exact ⟨onward, 0, (if_pos cancelled).symm⟩
  · apply (setting.yields_currentTime store).bind
    intro now timed _ reached
    apply Regime.yields_pure
    intro later onward _
    exact ⟨trans_of setting.rely reached onward, now, (if_neg cancelled).symm⟩

section CheckMaintenance

variable (sound : setting.Sound deployment .checkMaintenance)
include sound

theorem yields_refreshMaintenance {id : Nat} {batchRow : IncidentRow} {batch store : Store}
    (kept : setting.always batch) (listed : batch.incidents.get? id = some batchRow)
    (type : batchRow.type = .maintenance)
    (submitted : batchRow.status.getD .unset ≠ .pendingReview)
    (later : setting.across batch store) :
    setting.Yields (fun _ _ => True) (refreshMaintenance deployment.publisher id) store := by
  apply (setting.yields_getIncident id store).bind
  intro copy middle _ found
  rcases found with ⟨row, first, fetched⟩
  have sameId : copy.id = id := fetched.1
  apply (yields_currentMntStatus copy middle).bind
  intro status timed _ computed
  rcases computed with ⟨reached, now, rfl⟩
  split
  · exact Regime.yields_fail _
  · rename_i fixed fixes
    split_ifs with changes
    · exact Regime.yields_value _
    · refine Regime.Yields.bind (sound.yields_write ?_) ?_
      · intro further onward _
        subst sameId
        exact .checkMaintenance kept listed type submitted later
          (Fetched.extend fetched (trans_of setting.rely reached onward)) fixes changes
      · intro _ _ _ _
        exact Regime.yields_value _

theorem yields_processMaintenances {maintenances : List Incident} {batch store : Store}
    (kept : setting.always batch)
    (listed : ∀ mn ∈ maintenances, ∃ row, batch.incidents.get? mn.id = some row ∧
      row.type = .maintenance ∧ mn.status = row.status.getD .unset)
    (later : setting.across batch store) :
    setting.Yields (fun _ _ => True) (processMaintenances deployment.publisher maintenances)
      store := by
  have := sound.acrossPreorder
  induction maintenances generalizing store with
  | nil => exact Regime.yields_value _
  | cons mn others ih =>
    have rest : ∀ other ∈ others, ∃ row, batch.incidents.get? other.id = some row ∧
        row.type = .maintenance ∧ other.status = row.status.getD .unset :=
      fun other member => listed other (List.mem_cons_of_mem mn member)
    rcases listed mn List.mem_cons_self with ⟨row, found, type, sameStatus⟩
    unfold processMaintenances
    split_ifs with draft
    · exact ih rest later
    · have one : setting.Yields (fun _ _ => True)
          (processMaintenance deployment.publisher mn) store := by
        have needs : setting.Yields (fun _ later => setting.rely store later)
            (needsRefetch mn) store := by
          apply (yields_currentMntStatus mn store).bind
          intro status middle _ computed
          apply Regime.yields_pure
          intro later onward _
          exact trans_of setting.rely computed.1 onward
        apply needs.bind
        intro changes middle _ reached
        split_ifs
        · exact yields_refreshMaintenance sound kept found type (sameStatus ▸ draft)
            (sound.across_trans later (sound.within reached))
        · exact Regime.yields_value _
      apply (one.attempt sound.within sound.drifts).bind
      intro outcome middle _ held
      split_ifs
      · exact Regime.yields_fail _
      · exact ih rest (sound.across_trans later held.1)

theorem yields_checkMaintenance (store : Store) :
    setting.Yields (fun _ _ => True) (Checker.checkMaintenance deployment.publisher) store := by
  apply (setting.yields_getEventsByType .maintenance false store).bind
  intro maintenances middle _ listed
  rcases listed with ⟨first, _, kept, passed, _, readings⟩
  apply yields_processMaintenances sound kept _ (sound.within passed)
  intro mn member
  rcases readings mn member with ⟨row, ⟨type, _⟩, reading⟩
  exact ⟨row, reading.found, type, reading.status_eq⟩

end CheckMaintenance

section CheckInfo

variable (sound : setting.Sound deployment .checkInfo)
include sound

theorem yields_processInfoEvents {infos : List Incident} {first seen store : Store}
    (kept : setting.always first)
    (assumed : ∃ choice, setting.assume
      (database.event choice (.read (.eventsByType .information true)) first))
    (distinct : (infos.map Incident.id).Nodup)
    (readings : ∀ info ∈ infos, ∃ row, row.type = .information ∧
      Reading setting.rely noComponents info row first seen ∧ setting.current info.id row store)
    (later : setting.across seen store) :
    setting.Yields (fun _ _ => True) (processInfoEvents infos) store := by
  induction infos generalizing store with
  | nil => exact Regime.yields_value _
  | cons info others ih =>
    rw [List.map_cons, List.nodup_cons] at distinct
    rcases readings info List.mem_cons_self with ⟨row, type, reading, unwritten⟩
    apply (yields_currentInfoStatus info store).bind
    intro status timed _ computed
    rcases computed with ⟨reached, now, rfl⟩
    have timedLater := sound.across_trans later (sound.within reached)
    have rest : ∀ other ∈ others, ∃ row, row.type = .information ∧
        Reading setting.rely noComponents other row first seen ∧
        setting.current other.id row timed := by
      intro other member
      rcases readings other (List.mem_cons_of_mem info member) with ⟨row, type, reading, current⟩
      exact ⟨row, type, reading, sound.steady reached current⟩
    split
    · exact Regime.yields_fail _
    · rename_i fixed fixes
      split_ifs with same
      · exact ih distinct.2 rest timedLater
      · refine Regime.Yields.bind (sound.yields_write ?_) ?_
        · intro before onward _
          exact .checkInfo type assumed kept reading
            (sound.across_trans timedLater (sound.within onward)) fixes same
            (sound.steady onward (sound.steady reached unwritten))
        · intro _ last _ wrote
          rcases wrote with ⟨choice, before, after, wrote⟩
          apply ih distinct.2 _ (sound.across_trans timedLater (sound.wrote_across wrote))
          intro other member
          rcases rest other member with ⟨row, type, reading, current⟩
          refine ⟨row, type, reading, sound.wrote_spared wrote ?_ current⟩
          rcases completes_fixInfoMissedStatuses fixes with ⟨added, shape, _⟩
          rw [EventWrite.targets, List.mem_singleton, shape]
          intro written
          exact distinct.1 (written ▸ List.mem_map_of_mem member)

theorem yields_checkInfo (store : Store) :
    setting.Yields (fun _ _ => True) Checker.checkInfoEvents store := by
  apply (setting.yields_getEventsByType .information true store).bind
  intro infos middle _ listed
  rcases listed with ⟨first, _, kept, _, distinct, readings⟩
  cases infos with
  | nil => exact Regime.yields_value _
  | cons info =>
    rcases readings info List.mem_cons_self with ⟨_, ⟨_, assumed⟩, _⟩
    apply yields_processInfoEvents sound kept assumed distinct _ (sound.across_refl middle)
    intro other member
    rcases readings other member with ⟨row, ⟨type, _⟩, reading⟩
    exact ⟨row, type, reading, sound.seen reading⟩

end CheckInfo

theorem yields_background {program : DbProgram Unit} {store : Store}
    (yields : setting.Yields (fun _ _ => True) program store) :
    setting.Yields (fun _ _ => True) (background program) store := by
  exact yields.mapError.answer

/-! ## Delivery -/

namespace Sound

variable (sound : setting.Sound deployment activity)
include sound

theorem yields_deliverStatement {β : Type} (statement : OutboxWrite β) (store : Store) :
    setting.Yields (fun _ _ => True) (deliverStatement statement) store := by
  apply Regime.yields_perform
  · intro later choice _ kept assumed
    exact sound.delivered statement choice later kept assumed
  · intro later choice _ _ _ _
    split
    · exact Regime.yields_done (fun _ _ _ => trivial)
    · exact Regime.yields_fail _

theorem yields_markFailed (worker : Worker) (id : Nat) (errText : String) (store : Store) :
    setting.Yields (fun _ _ => True) (markFailed worker id errText) store := by
  apply (setting.yields_read (.outboxRow id) store).bind
  intro row middle _ _
  split_ifs
  · exact sound.yields_deliverStatement _ middle
  · apply Regime.yields_perform
    · intro later choice _ _ _
      exact setting.silent choice (.backoff row.attempts) later rfl
    · intro later choice _ _ _ _
      exact sound.yields_deliverStatement _ _

theorem yields_deliver (worker : Worker) (id : Nat) (row : NotificationOutbox) (store : Store) :
    setting.Yields (fun _ _ => True) (deliver worker id row) store := by
  have := sound.acrossPreorder
  apply Regime.yields_perform
  · intro later choice _ _ _
    exact setting.silent choice (.send id row) later rfl
  · intro later choice _ _ _ _
    rcases choice with ⟨now, rank, fault, changeId, sent, retryAt⟩
    cases sent with
    | accepted =>
      exact ((sound.yields_deliverStatement (.markSent id) later).attempt sound.within
        sound.drifts).answer
    | rejected permanent errText =>
      have marks : setting.Yields (fun _ _ => True) (markFailure worker id permanent errText)
          later := by
        unfold markFailure
        split_ifs
        · exact sound.yields_deliverStatement _ later
        · exact sound.yields_markFailed worker id errText later
      exact (marks.attempt sound.within sound.drifts).answer

theorem yields_deliverAll (worker : Worker) (rows : List (Nat × NotificationOutbox))
    (store : Store) : setting.Yields (fun _ _ => True) (deliverAll worker rows) store := by
  induction rows generalizing store with
  | nil => exact Regime.yields_value _
  | cons entry rows ih =>
    apply (sound.yields_deliver worker entry.1 entry.2 store).bind
    intro _ middle _ _
    exact ih middle

theorem yields_claimLoop (worker : Worker) (rounds : Nat) (store : Store) :
    setting.Yields (fun _ _ => True) (claimLoop worker rounds) store := by
  induction rounds generalizing store with
  | zero => exact Regime.yields_value _
  | succ rounds ih =>
    apply (sound.yields_deliverStatement _ store).bind
    intro rows middle _ _
    split_ifs
    · exact Regime.yields_value _
    · apply (sound.yields_deliverAll worker rows middle).bind
      intro _ last _ _
      exact ih last

theorem yields_deleteSentBefore (before : Time) (rounds : Nat) (store : Store) :
    setting.Yields (fun _ _ => True) (deleteSentBefore before rounds) store := by
  induction rounds generalizing store with
  | zero => exact Regime.yields_value _
  | succ rounds ih =>
    apply (sound.yields_deliverStatement _ store).bind
    intro removed middle _ _
    split_ifs
    · exact Regime.yields_value _
    · exact ih middle

end Sound

/-- In a sound setting an activity attempts only the writes that are listed. -/
theorem Sound.yields_activity (sound : setting.Sound deployment activity) (store : Store) :
    setting.Yields (fun _ _ => True) (activity.program deployment) store := by
  cases activity with
  | post => exact sound.yields_post store
  | patch => exact sound.yields_patch store
  | extract => exact sound.yields_extract store
  | patchText => exact sound.yields_patchText store
  | checkMaintenance => exact yields_background (yields_checkMaintenance sound store)
  | checkInfo => exact yields_background (yields_checkInfo sound store)
  | drain worker rounds =>
    apply yields_background
    apply (sound.yields_deliverStatement _ store).bind
    intro _ middle _ _
    exact sound.yields_claimLoop worker rounds middle
  | redrive =>
    apply yields_background
    exact (sound.yields_deliverStatement _ store).answer
  | retention rounds =>
    apply yields_background
    apply (setting.yields_currentTime store).bind
    intro time middle _ _
    exact sound.yields_deleteSentBefore _ rounds middle

end Setting

end StatusDashboard.Provenance
