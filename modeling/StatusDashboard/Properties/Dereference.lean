import StatusDashboard.Properties.Backfill
import StatusDashboard.Properties.Rendering
import StatusDashboard.Provenance.Revision
import StatusDashboard.Storage.Solo

namespace StatusDashboard.Properties

open Event Storage Tables Handlers Process Checker Provenance

/-!
# Events without an end

Readers of an event meet columns that may be missing.  Two of them dereference
a missing end date: a checker that finds the event completed at the very
instant of its start, and the second feed when it shows a planned or running
maintenance.  All other readers handle every stored event.
-/

variable {now : Time} {copy : Incident} {store final : Store}

/-- A checker computes that the event is completed and has no end to record. -/
structure CheckHazard (now : Time) (copy : Incident) : Prop where
  endless : copy.endDate = none
  starting : copy.startDate = some now
  uncancelled : hasUpdate copy .cancelled = false
  uncompleted : hasUpdate copy .completed = false
  due : (copy.type = .maintenance ∧
      copy.status ≠ .pendingReview ∧ copy.status ≠ .reviewed ∧ copy.status ≠ .completed) ∨
    copy.type = .information

/-! ## Checkers -/

theorem mntStatusAt_completed_iff (endless : copy.endDate = none) :
    mntStatusAt now copy = .completed ↔ copy.startDate.getD zeroTime = now := by
  unfold mntStatusAt
  rw [endless]
  rcases lt_trichotomy now (copy.startDate.getD zeroTime) with before | same | after
  · simp [before, before.ne']
  · simp [same]
  · simp [after, after.not_gt, after.ne]

theorem infoStatusAt_completed_iff (endless : copy.endDate = none) :
    infoStatusAt now copy = .completed ↔ copy.startDate.getD zeroTime = now := by
  unfold infoStatusAt
  rw [endless]
  rcases lt_trichotomy now (copy.startDate.getD zeroTime) with before | same | after
  · simp [before, before.ne']
  · simp [same]
  · simp [after, after.not_gt, after.ne]

/-! ## Transactions do not dereference -/

/-- The transaction reports no missing value. -/
def Sound {α : Type} (transaction : Tx α) : Prop :=
  ∀ store, transaction store ≠ .error .nilDereference

theorem sound_pure {α : Type} (value : α) : Sound (pure value : Tx α) :=
  fun _ => nofun

theorem sound_bind {α β : Type} {first : Tx α} {second : α → Tx β} (start : Sound first)
    (rest : ∀ value, Sound (second value)) : Sound (first >>= second) := by
  intro store failed
  change (first store >>= fun pair => second pair.1 pair.2) = _ at failed
  cases outcome : first store with
  | error =>
    rw [outcome] at failed
    cases failed
    exact start store outcome
  | ok pair =>
    rw [outcome] at failed
    exact rest pair.1 pair.2 failed

theorem sound_updateWhere (id : Nat) (condition : IncidentRow → Bool)
    (rewrite : IncidentRow → IncidentRow) : Sound (updateWhere id condition rewrite) := by
  intro store failed
  unfold updateWhere at failed
  split at failed
  · cases failed
  · split_ifs at failed
    cases failed

theorem sound_insertIncidentStatus (now : Time) (status : IncidentStatus) (id : Nat) :
    Sound (insertIncidentStatus now status id) := by
  intro store failed
  unfold insertIncidentStatus at failed
  dsimp only at failed
  split_ifs at failed
  cases failed

theorem sound_insertNewIncidentStatuses (now : Time) (id : Nat) (statuses : List IncidentStatus) :
    Sound (insertNewIncidentStatuses now id statuses) := by
  induction statuses with
  | nil => exact sound_pure []
  | cons status statuses ih =>
    unfold insertNewIncidentStatuses
    split_ifs
    · exact sound_bind (sound_insertIncidentStatus _ _ _)
        (fun _ => sound_bind ih (fun _ => sound_pure _))
    · exact sound_bind ih (fun _ => sound_pure _)

theorem sound_modifyIncident (now : Time) (incident : Incident) :
    Sound (modifyIncident now incident) := by
  unfold modifyIncident
  split
  · exact fun _ => nofun
  · split_ifs
    · apply sound_bind (sound_updateWhere _ _ _)
      intro affected
      split_ifs
      · exact fun _ => nofun
      · exact sound_bind (sound_insertNewIncidentStatuses _ _ _) (fun _ => sound_pure _)
    · exact fun _ => nofun

theorem sound_enqueueAll (rows : List NotificationOutbox) :
    Sound (enqueueAll rows) := by
  induction rows with
  | nil => exact sound_pure ()
  | cons row rows ih =>
    apply sound_bind
    · intro store failed
      unfold enqueue at failed
      split_ifs at failed <;> cases failed
    · exact fun _ => ih

theorem sound_publishTx (publisher : Option Notification.Publisher) (now : Time)
    (changeId : String) (change : Notification.Change) :
    Sound (publishTx publisher now changeId change) := by
  unfold publishTx
  split
  · exact sound_pure ()
  · split_ifs
    · exact sound_enqueueAll _
    · exact sound_pure ()

theorem sound_checkerPatchTx (publisher : Option Notification.Publisher) (now : Time)
    (changeId : String) (fresh : Incident) (oldStatus : Status) :
    Sound (checkerPatchTx publisher now changeId fresh oldStatus) :=
  sound_bind (sound_modifyIncident _ _) (fun _ =>
    sound_bind (sound_publishTx _ _ _ _) (fun _ => sound_pure _))

/-! ## Checker rounds -/

/-- All events but one are as before. -/
def Elsewhere (id : Nat) (store final : Store) : Prop :=
  ∀ other, other ≠ id → final.incidents.get? other = store.incidents.get? other ∧
    loadedHistory final other = loadedHistory store other

theorem Elsewhere.refl (id : Nat) (store : Store) : Elsewhere id store store :=
  fun _ _ => ⟨rfl, rfl⟩

theorem elsewhere_of_modified {incident : Incident} {version : Int}
    (modified : Modified now incident version store final) (own : OwnUpdates incident) :
    Elsewhere incident.id store final := by
  intro other apart
  refine ⟨?_, ?_⟩
  · rw [modified.incidents, SerialTable.get?_update, if_neg apart]
  · rcases history_insertAll other modified.statuses with ⟨entries, listed, values⟩
    have nothing : (newStatusRows now incident.id incident.statuses).filter
        (fun row => row.incidentId = other) = [] := by
      apply List.filter_eq_nil_iff.mpr
      intro row member
      rw [newStatusRows_own own row member]
      simpa using apart.symm
    rw [nothing, List.map_eq_nil_iff] at values
    unfold loadedHistory
    rw [listed, values, List.append_nil]

theorem Elsewhere.of_sameEvents {id : Nat} {middle : Store} (elsewhere : Elsewhere id store middle)
    (same : SameEvents middle final) :
    Elsewhere id store final := by
  intro other apart
  rw [same.incidents, loadedHistory, Store.history, same.statuses]
  exact elsewhere other apart

/-- The copy shows a stored event; components do not matter. -/
def Shows (store : Store) (copy : Incident) : Prop :=
  ∃ id row components, store.incidents.get? id = some row ∧
    copy = incidentFromEnt id row components (loadedHistory store id)

theorem Shows.of_elsewhere {id : Nat} (shown : Shows store copy)
    (elsewhere : Elsewhere id store final) (apart : copy.id ≠ id) :
    Shows final copy := by
  rcases shown with ⟨own, row, components, found, rfl⟩
  rcases elsewhere own apart with ⟨same, history⟩
  exact ⟨own, row, components, same.trans found, by rw [history]⟩

theorem shows_of_reading {load : Store → Nat → List Component} {row : IncidentRow} {later : Store}
    (reading : Reading Eq load copy row store later) :
    Shows store copy := by
  rcases reading.alone with ⟨rfl, found, shape⟩
  exact ⟨copy.id, row, _, found, shape⟩

section Rounds

variable {now : Time} {store : Store} {α : Type}

variable {program : DbProgram α} {post : Except DbError α → Store → Prop} {id : Nat}
variable {row : IncidentRow} {publisher : Option Notification.Publisher}

/-- Alone and with the clock at the instant, the program dereferences no missing
value and ends as the postcondition says. -/
def Survives (now : Time) (post : Except DbError α → Store → Prop) (program : DbProgram α)
    (store : Store) : Prop :=
  Ensures database Eq (Ticks (atInstant now)) (fun _ => True)
    (fun outcome final => outcome ≠ .error .nilDereference ∧ post outcome final) program store

theorem survives_bind {γ : Type} {rest : α → DbProgram γ} {middle : Except DbError α → Store → Prop}
    {post : Except DbError γ → Store → Prop} (first : Survives now middle program store)
    (second : ∀ value later, middle (.ok value) later → Survives now post (rest value) later)
    (failed : ∀ error later, middle (.error error) later → post (.error error) later) :
    Survives now post (program >>= rest) store := by
  apply Ensures.bind first
  · exact fun value later held => second value later held.2
  · exact fun error later held => ⟨fun same => held.1 (by cases same; rfl), failed error later held.2⟩

theorem survives_pure {value : α} (holds : post (.ok value) store) :
    Survives now post (pure value) store := by
  rintro later rfl
  exact ⟨nofun, holds⟩

/-- A program that only reads survives if it is intact. -/
theorem survives_reads {post : α → Store → Prop} (reads : Reads program) (intact : Intact program)
    (yields : (solo (atInstant now)).Yields post program store) :
    Survives now (fun outcome final => store = final ∧
      ∀ value, outcome = .ok value → post value final) program store :=
  ((intact.ensures Eq _ store).and ((reads.ensures _ store).and (yields trivial))).mono
    (fun _ _ held => ⟨held.1, held.2.1, held.2.2.2⟩)

theorem survives_write {β : Type} {statement : EventWrite β}
    (sound : ∀ choice, Sound (statement.exec choice)) :
    Survives now (fun _ final => store = final ∨ ∃ choice value,
      statement.exec choice store = .ok (value, final)) (write statement) store := by
  rintro later rfl choice _
  refine ⟨trivial, ?_⟩
  rw [perform_write]
  rcases commit_cases choice (statement.exec choice) store with ⟨error, shape⟩ |
    ⟨value, final, commits, shape⟩
  · rw [shape]
    rintro later rfl
    refine ⟨?_, Or.inl rfl⟩
    intro same
    cases same
    unfold commit at shape
    split_ifs at shape
    · cases shape
    · split at shape
      · cases shape
      · rename_i error failed
        cases shape
        exact sound choice store failed
  · rw [shape]
    rintro later rfl
    exact ⟨nofun, Or.inr ⟨choice, value, commits⟩⟩

/-- A caught outcome is the one the program ends with. -/
theorem survives_attempt (survives : Survives now post program store) :
    Survives now (fun outcome final => ∃ caught, outcome = .ok caught ∧
      caught ≠ .error .nilDereference ∧ post caught final) program.attempt store := by
  unfold Survives
  rw [ensures_attempt]
  exact Ensures.mono survives (fun outcome final held => ⟨nofun, outcome, rfl, held⟩)

theorem Survives.run {events : List DbEvent} {outcome : Except DbError α}
    (survives : Survives now post program store)
    (run : Run database program store events outcome final)
    (constant : ∀ time ∈ clockReadings events, time = now) :
    outcome ≠ .error .nilDereference ∧ post outcome final :=
  (Ensures.run survives run (ticks_atInstant constant)).2

theorem Survives.evaluate (survives : Survives now post program store) :
    post (program.evaluate database (atTime now) store).1
      (program.evaluate database (atTime now) store).2 :=
  (survives.run (Program.evaluate_run database (atTime now) program store)
    (clockReadings_trail _ _ _)).2

theorem survives_currentTime : Survives now (fun outcome final => store = final ∧
    outcome = .ok now) currentTime store := by
  rintro later rfl choice clocked
  refine ⟨trivial, ?_⟩
  rintro later rfl
  exact ⟨nofun, rfl, congrArg Except.ok clocked⟩

theorem survives_fromNow {α : Type} (compute : Time → α) :
    Survives now (fun outcome final => store = final ∧ outcome = .ok (compute now))
      (currentTime >>= fun time => pure (compute time)) store := by
  apply survives_bind survives_currentTime
  · rintro time later ⟨rfl, same⟩
    cases same
    exact survives_pure ⟨rfl, rfl⟩
  · rintro error later ⟨_, impossible⟩
    cases impossible

theorem survives_calculateCurrentMntStatus (copy : Incident) :
    Survives now (fun outcome final => store = final ∧ outcome = .ok (currentMntStatus now copy))
      (calculateCurrentMntStatus (calculateMntStatusHistory copy) copy) store := by
  unfold calculateCurrentMntStatus currentMntStatus calculateMntStatusHistory
  dsimp only
  split_ifs
  · exact survives_pure ⟨rfl, rfl⟩
  · exact survives_pure ⟨rfl, rfl⟩
  · exact survives_fromNow (fun time => mntStatusAt time copy)

theorem survives_calculateCurrentInfoStatus (copy : Incident) :
    Survives now (fun outcome final => store = final ∧ outcome = .ok (currentInfoStatus now copy))
      (calculateCurrentInfoStatus (calculateInfoStatusHistory copy) copy) store := by
  unfold calculateCurrentInfoStatus currentInfoStatus calculateInfoStatusHistory
  dsimp only
  split_ifs
  · exact survives_pure ⟨rfl, rfl⟩
  · exact survives_fromNow (fun time => infoStatusAt time copy)

theorem CheckHazard.status (hazard : CheckHazard now copy) (maintenance : copy.type = .maintenance) :
    copy.status ≠ .pendingReview ∧ copy.status ≠ .reviewed ∧ copy.status ≠ .completed := by
  rcases hazard.due with ⟨_, statuses⟩ | information
  · exact statuses
  · exact absurd (maintenance.symm.trans information) (by decide)

theorem CheckHazard.currentMntStatus (hazard : CheckHazard now copy)
    (maintenance : copy.type = .maintenance) :
    Provenance.currentMntStatus now copy = .completed := by
  unfold Provenance.currentMntStatus
  rw [if_neg (by rw [hazard.uncancelled]; decide), if_neg (hazard.status maintenance).2.1]
  apply (mntStatusAt_completed_iff hazard.endless).mpr
  rw [hazard.starting]
  rfl

/-- Without a hazard a maintenance that needs a change can be completed. -/
theorem fixes_maintenance (starts : copy.startDate.isSome = true)
    (maintenance : copy.type = .maintenance) (submitted : copy.status ≠ .pendingReview)
    (changes : copy.status ≠ currentMntStatus now copy) :
    fixMntMissedStatuses (currentMntStatus now copy) (calculateMntStatusHistory copy) copy = none ↔
      CheckHazard now copy := by
  rcases Option.isSome_iff_exists.mp starts with ⟨start, starting⟩
  refine (Watch.stops_iff .maintenance copy _).trans ?_
  constructor
  · rintro ⟨completed, uncompleted, endless⟩
    have status : copy.status ≠ .completed := fun same => changes (same.trans completed.symm)
    unfold currentMntStatus at completed
    split_ifs at completed with cancelled reviewed
    have reached := (mntStatusAt_completed_iff endless).mp completed
    rw [starting] at reached
    exact ⟨endless, by rw [starting]; exact congrArg some reached, by simpa using cancelled,
      uncompleted, Or.inl ⟨maintenance, submitted, reviewed, status⟩⟩
  · intro hazard
    exact ⟨hazard.currentMntStatus maintenance, hazard.uncompleted, hazard.endless⟩

theorem fixes_information (starts : copy.startDate.isSome = true)
    (information : copy.type = .information) :
    fixInfoMissedStatuses (currentInfoStatus now copy) (calculateInfoStatusHistory copy) copy =
      none ↔ CheckHazard now copy := by
  rcases Option.isSome_iff_exists.mp starts with ⟨start, starting⟩
  refine (Watch.stops_iff .info copy _).trans ?_
  constructor
  · rintro ⟨completed, uncompleted, endless⟩
    unfold currentInfoStatus at completed
    split_ifs at completed with cancelled
    have reached := (infoStatusAt_completed_iff endless).mp completed
    rw [starting] at reached
    exact ⟨endless, by rw [starting]; exact congrArg some reached, by simpa using cancelled,
      uncompleted, Or.inr information⟩
  · intro hazard
    refine ⟨?_, hazard.uncompleted, hazard.endless⟩
    unfold currentInfoStatus
    rw [if_neg (by rw [hazard.uncancelled]; decide)]
    apply (infoStatusAt_completed_iff hazard.endless).mpr
    rw [hazard.starting]
    rfl

theorem CheckHazard.congr_components {first second : List Component} {history : List IncidentStatus}
    (hazard : CheckHazard now (incidentFromEnt id row first history)) :
    CheckHazard now (incidentFromEnt id row second history) :=
  ⟨hazard.endless, hazard.starting, hazard.uncancelled, hazard.uncompleted, hazard.due⟩

/-- A checker write changes the event it names, or nothing. -/
theorem survives_checkerPatch {patched : Incident} {oldStatus : Status} (own : OwnUpdates patched) :
    Survives now (fun _ final => Elsewhere patched.id store final)
      (write (.checkerPatch publisher patched oldStatus)) store := by
  have sound : ∀ choice, Sound ((EventWrite.checkerPatch publisher patched oldStatus).exec choice) :=
    fun choice => sound_checkerPatchTx _ _ _ _ _
  apply (survives_write sound).mono
  rintro outcome final ⟨survived, rfl | ⟨choice, value, commits⟩⟩
  · exact ⟨survived, .refl _ _⟩
  · rcases checkerPatchTx_ok commits with ⟨version, middle, modified, _, published⟩
    exact ⟨survived,
      (elsewhere_of_modified modified own).of_sameEvents (publishTx_sameEvents published)⟩

/-- Loading, completing and writing one maintenance. -/
theorem survives_refreshMaintenance (found : store.incidents.get? id = some row)
    (maintenance : row.type = .maintenance)
    (submitted : (storedCopy store (id, row)).status ≠ .pendingReview)
    (changes : (storedCopy store (id, row)).status ≠
      currentMntStatus now (storedCopy store (id, row)))
    (safe : ¬ CheckHazard now (storedCopy store (id, row))) :
    Survives now (fun _ final => Elsewhere id store final) (refreshMaintenance publisher id)
      store := by
  apply survives_bind (survives_reads (reads_getIncident id) (intact_getIncident id)
    ((solo (atInstant now)).yields_getIncident id store))
  · rintro fresh later ⟨rfl, loaded⟩
    rcases loaded fresh rfl with ⟨other, first, rfl, reached, _, _, reading⟩
    change store = first at reached
    subst reached
    have settled := settled_of_reading reading
    rcases reading.alone with ⟨_, present, assembled⟩
    cases Option.some.inj (found.symm.trans present)
    have stored : fresh = storedCopy store (fresh.id, row) := assembled
    rw [← stored] at submitted changes safe
    have type : fresh.type = .maintenance := by
      rw [stored]
      exact maintenance
    have starts : fresh.startDate.isSome = true := by
      rw [stored]
      rfl
    apply survives_bind (survives_calculateCurrentMntStatus fresh)
    · rintro status later ⟨rfl, same⟩
      cases same
      cases fixes : fixMntMissedStatuses (currentMntStatus now fresh)
          (calculateMntStatusHistory fresh) fresh with
      | none => exact absurd ((fixes_maintenance starts type submitted changes).mp fixes) safe
      | some fixed =>
        have completes := completes_fixMntMissedStatuses fixes
        have same : fixed.id = fresh.id := by
          rcases completes with ⟨added, rfl, _⟩
          rfl
        dsimp only
        rw [if_neg changes]
        rw [← same]
        apply survives_bind (survives_checkerPatch (ownUpdates_completed settled completes))
        · exact fun patched later elsewhere => survives_pure elsewhere
        · exact fun error later elsewhere => elsewhere
    · rintro error later ⟨rfl, _⟩
      exact .refl _ _
  · rintro error later ⟨rfl, _⟩
    exact .refl _ _

theorem survives_processMaintenance (shown : Shows store copy)
    (maintenance : copy.type = .maintenance) (submitted : copy.status ≠ .pendingReview)
    (safe : ¬ CheckHazard now copy) :
    Survives now (fun _ final => Elsewhere copy.id store final)
      (processMaintenance publisher copy) store := by
  rcases shown with ⟨id, row, components, found, rfl⟩
  have changes : Survives now (fun outcome final => store = final ∧ outcome = .ok
      ((incidentFromEnt id row components (loadedHistory store id)).status !=
        currentMntStatus now (incidentFromEnt id row components (loadedHistory store id))))
      (needsRefetch (incidentFromEnt id row components (loadedHistory store id))) store := by
    apply survives_bind (survives_calculateCurrentMntStatus _)
    · rintro status later ⟨rfl, same⟩
      cases same
      exact survives_pure ⟨rfl, rfl⟩
    · rintro error later ⟨_, impossible⟩
      cases impossible
  apply survives_bind changes
  · rintro changed later ⟨rfl, same⟩
    cases same
    split_ifs with differs
    · exact survives_refreshMaintenance found maintenance submitted (bne_iff_ne.mp differs)
        (fun hazard => safe hazard.congr_components)
    · exact survives_pure (.refl _ _)
  · rintro error later ⟨_, impossible⟩
    cases impossible

theorem evaluate_calculateCurrentMntStatus (copy : Incident) :
    (calculateCurrentMntStatus (calculateMntStatusHistory copy) copy).evaluate database
      (atTime now) store = (.ok (currentMntStatus now copy), store) := by
  have survives : Survives now (fun outcome final => store = final ∧
      outcome = .ok (currentMntStatus now copy))
      (calculateCurrentMntStatus (calculateMntStatusHistory copy) copy) store :=
    survives_calculateCurrentMntStatus copy
  exact Prod.ext survives.evaluate.2 survives.evaluate.1.symm

/-- A maintenance with a hazard stops the round that visits it. -/
theorem evaluate_processMaintenances (found : store.incidents.get? id = some row)
    (maintenance : row.type = .maintenance) (hazard : CheckHazard now (storedCopy store (id, row))) :
    ((processMaintenances publisher [incidentFromEnt id row [] (loadedHistory store id)]).evaluate
      database (atTime now) store).1 = .error .nilDereference := by
  have submitted := (hazard.status maintenance).1
  have changes : (storedCopy store (id, row)).status ≠
      currentMntStatus now (storedCopy store (id, row)) := by
    rw [hazard.currentMntStatus maintenance]
    exact (hazard.status maintenance).2.2
  have missing := (fixes_maintenance rfl maintenance submitted changes).mpr hazard
  have refreshed : (refreshMaintenance publisher id).evaluate database (atTime now) store =
      (.error .nilDereference, store) := by
    unfold refreshMaintenance
    rw [Program.evaluate_bind, evaluate_getIncident rfl found]
    dsimp only
    rw [Program.evaluate_bind, evaluate_calculateCurrentMntStatus]
    dsimp only
    rw [missing]
    rfl
  have visited : (processMaintenance publisher (incidentFromEnt id row []
      (loadedHistory store id))).evaluate database (atTime now) store =
      (.error .nilDereference, store) := by
    unfold processMaintenance needsRefetch
    rw [Program.evaluate_bind, Program.evaluate_bind, evaluate_calculateCurrentMntStatus]
    change (if _ then _ else _ : DbProgram Unit).evaluate _ _ _ = _
    rw [if_pos]
    · exact refreshed
    · exact bne_iff_ne.mpr changes
  unfold processMaintenances
  rw [if_neg]
  · rw [Program.evaluate_bind, Program.evaluate_attempt, visited]
    rfl
  · exact submitted

/-- A round over loaded maintenances without a hazard. -/
theorem survives_processMaintenances {copies : List Incident}
    (distinct : (copies.map Incident.id).Nodup) (shown : ∀ copy ∈ copies, Shows store copy)
    (maintenances : ∀ copy ∈ copies, copy.type = .maintenance)
    (safe : ∀ copy ∈ copies, ¬ CheckHazard now copy) :
    Survives now (fun _ _ => True) (processMaintenances publisher copies) store := by
  induction copies generalizing store with
  | nil => exact survives_pure trivial
  | cons copy others ih =>
    rw [List.map_cons, List.nodup_cons] at distinct
    have rest : ∀ later, Elsewhere copy.id store later →
        Survives now (fun _ _ => True) (processMaintenances publisher others) later := by
      intro later elsewhere
      apply ih distinct.2
      · intro other member
        apply (shown other (List.mem_cons_of_mem _ member)).of_elsewhere elsewhere
        intro same
        exact distinct.1 (List.mem_map.mpr ⟨other, member, same⟩)
      · exact fun other member => maintenances other (List.mem_cons_of_mem _ member)
      · exact fun other member => safe other (List.mem_cons_of_mem _ member)
    unfold processMaintenances
    split_ifs with draft
    · exact rest store (.refl _ _)
    · have visit : Survives now (fun _ final => Elsewhere copy.id store final)
          (processMaintenance publisher copy) store :=
        survives_processMaintenance (shown copy List.mem_cons_self)
          (maintenances copy List.mem_cons_self) draft (safe copy List.mem_cons_self)
      apply survives_bind (survives_attempt visit)
      · rintro outcome later ⟨caught, same, survived, elsewhere⟩
        cases same
        rw [if_neg survived]
        exact rest later elsewhere
      · exact fun _ _ _ => trivial

/-- A round over loaded informational events without a hazard. -/
theorem survives_processInfoEvents {copies : List Incident}
    (starts : ∀ copy ∈ copies, copy.startDate.isSome = true)
    (information : ∀ copy ∈ copies, copy.type = .information)
    (safe : ∀ copy ∈ copies, ¬ CheckHazard now copy) :
    Survives now (fun _ _ => True) (processInfoEvents copies) store := by
  induction copies generalizing store with
  | nil => exact survives_pure trivial
  | cons copy others ih =>
    have rest : ∀ later, Survives now (fun _ _ => True) (processInfoEvents others) later :=
      fun later => ih (fun other member => starts other (List.mem_cons_of_mem _ member))
        (fun other member => information other (List.mem_cons_of_mem _ member))
        (fun other member => safe other (List.mem_cons_of_mem _ member))
    apply survives_bind (survives_calculateCurrentInfoStatus copy)
    · rintro status later ⟨rfl, same⟩
      cases same
      cases fixes : fixInfoMissedStatuses (currentInfoStatus now copy)
          (calculateInfoStatusHistory copy) copy with
      | none =>
        exact absurd ((fixes_information (starts copy List.mem_cons_self)
          (information copy List.mem_cons_self)).mp fixes) (safe copy List.mem_cons_self)
      | some fixed =>
        dsimp only
        split_ifs
        · exact rest store
        · have sound : ∀ choice, Sound ((EventWrite.modifyIncident
              { fixed with status := currentInfoStatus now copy }).exec choice) :=
            fun choice => sound_modifyIncident _ _
          apply survives_bind (survives_write sound)
          · exact fun _ later _ => rest later
          · exact fun _ _ _ => trivial
    · exact fun _ _ _ => trivial

/-- What a round loads: distinct copies of the stored events of its type. -/
theorem survives_getEventsByType (type : EventType) (descending : Bool) :
    Survives now (fun outcome final => store = final ∧ ∀ copies, outcome = .ok copies →
        (copies.map Incident.id).Nodup ∧ ∀ copy ∈ copies, Shows store copy ∧ copy.type = type)
      (getEventsByType type descending) store := by
  apply (survives_reads (reads_getEventsByType type descending)
    (intact_getEventsByType type descending)
    ((solo (atInstant now)).yields_getEventsByType type descending store)).mono
  rintro outcome final ⟨survived, rfl, loaded⟩
  refine ⟨survived, rfl, ?_⟩
  intro copies same
  rcases loaded copies same with ⟨first, reached, _, _, distinct, readings⟩
  change store = first at reached
  subst reached
  refine ⟨distinct, ?_⟩
  intro copy member
  rcases readings copy member with ⟨row, meets, reading⟩
  exact ⟨shows_of_reading reading, reading.type_eq.trans meets.1⟩

end Rounds

/-! ## All readers -/

/-- A stored event some reader cannot handle. -/
def Hazard (now : Time) (store : Store) (id : Nat) (row : IncidentRow) : Prop :=
  CheckHazard now (storedCopy store (id, row)) ∨
    Visible store id row ∧ FeedHazard (storedCopy store (id, row))

/-- Every reader handles one stored event: the checker of its type, the single
event and the lists, the first feed, and the second feed if it shows the event. -/
structure Handled (now : Time) (store : Store) (id : Nat) (row : IncidentRow) : Prop where
  maintenance : row.type = .maintenance → ∀ publisher events outcome final,
    Run database (processMaintenances publisher
      [incidentFromEnt id row [] (loadedHistory store id)]) store events outcome final →
    (∀ time ∈ clockReadings events, time = now) → outcome ≠ .error .nilDereference
  information : row.type = .information → ∀ events outcome final,
    Run database (processInfoEvents
      [incidentFromEnt id row [] (loadedHistory store id)]) store events outcome final →
    (∀ time ∈ clockReadings events, time = now) → outcome ≠ .error .nilDereference
  shown : ∀ isAuth, toApiEvent (storedCopy store (id, row)) isAuth ≠ none
  feed : ∀ format baseURL, createFeedItem format baseURL (storedCopy store (id, row)) ≠ none
  secondFeed : Visible store id row → ∀ format baseURL,
    createFeedItems format baseURL (storedCopy store (id, row)) ≠ none

/-- No round of a checker and no read request stops at a missing value. -/
structure ReadersSurvive (now : Time) (store : Store) : Prop where
  maintenances : ∀ publisher events outcome final,
    Run database (checkMaintenance publisher) store events outcome final →
    (∀ time ∈ clockReadings events, time = now) → outcome ≠ .error .nilDereference
  infos : ∀ events outcome final, Run database checkInfoEvents store events outcome final →
    (∀ time ∈ clockReadings events, time = now) → outcome ≠ .error .nilDereference
  requests : ∀ (request : ViewRequest) format isAuth events outcome final,
    Run database (request.program format isAuth) store events outcome final →
    outcome ≠ .error (.internal .nilDereference)

theorem filled_storedCopy (store : Store) (id : Nat) (row : IncidentRow) :
    Filled (storedCopy store (id, row)) := ⟨rfl, rfl, rfl⟩

theorem handled_of_safe {id : Nat} {row : IncidentRow} (found : store.incidents.get? id = some row)
    (safe : ¬ Hazard now store id row) :
    Handled now store id row where
  maintenance type publisher events outcome final run constant := by
    have survives : Survives now (fun _ _ => True) (processMaintenances publisher
        [incidentFromEnt id row [] (loadedHistory store id)]) store := by
      apply survives_processMaintenances
      · exact List.nodup_singleton _
      · exact List.forall_mem_singleton.mpr ⟨id, row, [], found, rfl⟩
      · exact List.forall_mem_singleton.mpr type
      · exact List.forall_mem_singleton.mpr
          (fun hazard => safe (Or.inl hazard.congr_components))
    exact (survives.run run constant).1
  information type events outcome final run constant := by
    have survives : Survives now (fun _ _ => True) (processInfoEvents
        [incidentFromEnt id row [] (loadedHistory store id)]) store := by
      apply survives_processInfoEvents
      · exact List.forall_mem_singleton.mpr rfl
      · exact List.forall_mem_singleton.mpr type
      · exact List.forall_mem_singleton.mpr
          (fun hazard => safe (Or.inl hazard.congr_components))
    exact (survives.run run constant).1
  shown isAuth := (filled_storedCopy store id row).toApiEvent isAuth
  feed format baseURL := (filled_storedCopy store id row).createFeedItem format baseURL
  secondFeed visible format baseURL missing :=
    safe (Or.inr ⟨visible,
      (createFeedItems_eq_none_iff (filled_storedCopy store id row) format baseURL).mp missing⟩)

/-- An informational event with a hazard stops the round that visits it. -/
theorem evaluate_processInfoEvents (starts : copy.startDate.isSome = true)
    (information : copy.type = .information) (hazard : CheckHazard now copy) :
    ((processInfoEvents [copy]).evaluate database (atTime now) store).1 =
      .error .nilDereference := by
  have survives : Survives now (fun outcome final => store = final ∧
      outcome = .ok (currentInfoStatus now copy))
      (calculateCurrentInfoStatus (calculateInfoStatusHistory copy) copy) store :=
    survives_calculateCurrentInfoStatus copy
  have computed : (calculateCurrentInfoStatus (calculateInfoStatusHistory copy) copy).evaluate
      database (atTime now) store = (.ok (currentInfoStatus now copy), store) :=
    Prod.ext survives.evaluate.2 survives.evaluate.1.symm
  unfold processInfoEvents
  rw [Program.evaluate_bind, computed]
  dsimp only
  rw [(fixes_information starts information).mpr hazard]
  rfl

theorem safe_of_handled {id : Nat} {row : IncidentRow} (found : store.incidents.get? id = some row)
    (handled : Handled now store id row) :
    ¬ Hazard now store id row := by
  rintro (hazard | ⟨visible, hazard⟩)
  · rcases hazard.due with ⟨maintenance, _⟩ | information
    · exact handled.maintenance maintenance none _ _ _ (Program.evaluate_run database (atTime now) _ _)
        (clockReadings_trail _ _ _) (evaluate_processMaintenances found maintenance hazard)
    · have batch : CheckHazard now (incidentFromEnt id row [] (loadedHistory store id)) :=
        hazard.congr_components
      exact handled.information information _ _ _ (Program.evaluate_run database (atTime now) _ _)
        (clockReadings_trail _ _ _) (evaluate_processInfoEvents rfl information batch)
  · exact handled.secondFeed visible (fun _ _ => "") "" ((createFeedItems_eq_none_iff
      (filled_storedCopy store id row) (fun _ _ => "") "").mpr hazard)

theorem readersSurvive_of_safe
    (safe : ∀ id row, store.incidents.get? id = some row → ¬ Hazard now store id row) :
    ReadersSurvive now store where
  maintenances publisher events outcome final run constant := by
    have survives : Survives now (fun _ _ => True) (checkMaintenance publisher) store := by
      apply survives_bind (survives_getEventsByType .maintenance false)
      · rintro copies later ⟨rfl, loaded⟩
        rcases loaded copies rfl with ⟨distinct, shown⟩
        apply survives_processMaintenances distinct (fun copy member => (shown copy member).1)
          (fun copy member => (shown copy member).2)
        intro copy member hazard
        rcases (shown copy member).1 with ⟨id, row, components, found, rfl⟩
        exact safe id row found (Or.inl hazard.congr_components)
      · exact fun _ _ _ => trivial
    exact (survives.run run constant).1
  infos events outcome final run constant := by
    have survives : Survives now (fun _ _ => True) checkInfoEvents store := by
      apply survives_bind (survives_getEventsByType .information true)
      · rintro copies later ⟨rfl, loaded⟩
        rcases loaded copies rfl with ⟨_, shown⟩
        apply survives_processInfoEvents
        · intro copy member
          rcases (shown copy member).1 with ⟨id, row, components, found, rfl⟩
          rfl
        · exact fun copy member => (shown copy member).2
        · intro copy member hazard
          rcases (shown copy member).1 with ⟨id, row, components, found, rfl⟩
          exact safe id row found (Or.inl hazard.congr_components)
      · exact fun _ _ _ => trivial
    exact (survives.run run constant).1
  requests request format isAuth events outcome final run :=
    viewRequest_survives (fun id row found visible hazard =>
      safe id row found (Or.inr ⟨visible, hazard⟩)) run

/-- All readers handle all stored events at an instant, event by event and as
whole rounds and requests, exactly if no stored event has a hazard. -/
theorem readers_survive_iff (now : Time) (store : Store) :
    ((∀ id row, store.incidents.get? id = some row → Handled now store id row) ∧
        ReadersSurvive now store) ↔
      ∀ id row, store.incidents.get? id = some row → ¬ Hazard now store id row := by
  constructor
  · rintro ⟨handled, _⟩ id row found
    exact safe_of_handled found (handled id row found)
  · intro safe
    exact ⟨fun id row found => handled_of_safe found (safe id row found),
      readersSurvive_of_safe safe⟩

/-- A maintenance without an end, with a planned update or without updates. -/
def endlessStore (announced : Bool) : Store :=
  let stored := Store.empty.insertIncident
    { maintenanceRow (some .planned) with endDate := none }
  if announced then stored.insertStatus {
    incidentId := 1, status := .planned, text := "planned", timestamp := 90,
    createdAt := none, modifiedAt := none, deletedAt := none, createdBy := none,
    modifiedBy := none }
  else stored

def secondFeedRequest : ViewRequest :=
  .feed { version := .v2Rss, region := "", componentName := "", baseURL := "", rawQuery := "" }

/-- At the start of a maintenance without an end the checker stops, and with its
planned update the second feed stops at any time. -/
theorem readers_survive_fails :
    (¬ ∀ now store, (∀ id row, store.incidents.get? id = some row → Handled now store id row) ∧
      ReadersSurvive now store) ∧
    ((checkMaintenance none).evaluate database (atTime 100) (endlessStore false)).1 =
      .error .nilDereference ∧
    ((secondFeedRequest.program (fun _ _ => "") false).evaluate database (atTime 500)
      (endlessStore true)).1 = .error (.internal .nilDereference) := by
  have stops : ((checkMaintenance none).evaluate database (atTime 100) (endlessStore false)).1 =
      .error .nilDereference := by
    decide +kernel
  refine ⟨?_, stops, by decide +kernel⟩
  intro claimed
  exact (claimed 100 (endlessStore false)).2.maintenances none _ _ _
    (Program.evaluate_run database (atTime 100) _ _) (clockReadings_trail _ _ _) stops

/-- After its start all readers handle a maintenance without an end and without
updates. -/
theorem readers_survive_started :
    ((endlessStore false).incidents.get? 1).map IncidentRow.endDate = some none ∧
      ReadersSurvive 150 (endlessStore false) := by
  refine ⟨rfl, ((readers_survive_iff 150 (endlessStore false)).mpr ?_).2⟩
  intro id row found
  have rows : (endlessStore false).incidents.rows =
      [(1, { maintenanceRow (some .planned) with endDate := none })] := rfl
  have listed := SerialTable.mem_rows.mpr found
  rw [rows] at listed
  cases List.mem_singleton.mp listed
  rintro (hazard | ⟨_, hazard⟩)
  · exact absurd hazard.starting (by decide)
  · exact absurd hazard.announced (by decide)

end StatusDashboard.Properties
