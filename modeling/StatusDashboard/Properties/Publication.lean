import StatusDashboard.Handlers.Route
import StatusDashboard.Properties.Visibility
import StatusDashboard.Provenance.Revision
import StatusDashboard.Provenance.Shared

namespace StatusDashboard.Properties

open Event Storage Tables Handlers Process Provenance Checker

/-!
# Maintenances that were never public

Whether a cancelled maintenance is shown depends on its updates, and the checker
adds updates that nobody asked for: a maintenance that was reviewed before it
was cancelled gets a `planned` one, once its status was taken back and the
checker cancels it again.  Nothing else publishes a maintenance whose status
never was a public one, and callers below the operator role cannot give it one.
-/

/-! ## Updates on record -/

variable {store : Store} {id : Nat} {status : Status} {copy : Incident}

/-- An update of an event with some status is stored. -/
def Recorded (store : Store) (id : Nat) (status : Status) : Prop :=
  ∃ entry ∈ store.statuses.rows, entry.2.incidentId = id ∧ entry.2.status = status

instance (store : Store) (id : Nat) (status : Status) : Decidable (Recorded store id status) :=
  inferInstanceAs (Decidable (∃ entry ∈ store.statuses.rows, _))

theorem recorded_iff :
    Recorded store id status ↔ ∃ key update, store.statuses.get? key = some update ∧
      update.incidentId = id ∧ update.status = status := by
  unfold Recorded
  constructor
  · rintro ⟨⟨key, update⟩, member, own, same⟩
    exact ⟨key, update, SerialTable.mem_rows.mp member, own, same⟩
  · rintro ⟨key, update, found, own, same⟩
    exact ⟨(key, update), SerialTable.mem_rows.mpr found, own, same⟩

theorem Recorded.evolves {later : Store} (recorded : Recorded store id status)
    (evolves : Evolves store later) :
    Recorded later id status := by
  rcases recorded_iff.mp recorded with ⟨key, update, found, own, same⟩
  rcases evolves.updates key update found with ⟨last, present, sameUpdate⟩
  exact recorded_iff.mpr ⟨key, last, present, sameUpdate.1.trans own, sameUpdate.2.trans same⟩

theorem noPublicStatus_iff :
    noPublicStatus store id = true ↔
      ∀ status, Recorded store id status → isPublicMaintenanceStatus status = false := by
  unfold noPublicStatus Recorded
  rw [List.all_eq_true]
  constructor
  · rintro never status ⟨entry, member, own, rfl⟩
    simpa [own] using never entry member
  · intro never entry member
    by_cases own : entry.2.incidentId = id
    · simp [own, never entry.2.status ⟨entry, member, own, rfl⟩]
    · simp [own]

/-- What is on record after a write was there before or is added by it. -/
theorem recorded_cases {β : Type} {choice : Choice} {statement : EventWrite β} {final : Store}
    (footprint : Footprint choice statement store final) (recorded : Recorded final id status) :
    Recorded store id status ∨ ∃ update ∈ statement.updates choice store.incidents.nextId,
      update.incidentId = id ∧ update.status = status := by
  rcases recorded_iff.mp recorded with ⟨key, update, present, own, same⟩
  rcases footprint.history.origin key update present with ⟨earlier, stored, equal⟩ | added
  · exact Or.inl (recorded_iff.mpr
      ⟨key, earlier, stored, equal.1.symm.trans own, equal.2.symm.trans same⟩)
  · exact Or.inr ⟨update, added, own, same⟩

theorem recorded_of_added {β : Type} {choice : Choice} {statement : EventWrite β} {final : Store}
    {update : StatusRow} (footprint : Footprint choice statement store final)
    (added : update ∈ statement.updates choice store.incidents.nextId) :
    Recorded final update.incidentId update.status := by
  rcases footprint.history.added update added with ⟨key, found⟩
  exact recorded_iff.mpr ⟨key, update, found, rfl, rfl⟩

/-- A loaded copy has the updates that were on record when its history was read. -/
theorem hasUpdate_reading {rely : Store → Store → Prop} {load : Store → Nat → List Component}
    {row : IncidentRow} {first later : Store} (reading : Reading rely load copy row first later) :
    ∃ second third, rely first second ∧ rely second third ∧ rely third later ∧
      ∀ status, hasUpdate copy status = true ↔ Recorded third copy.id status := by
  rcases reading.assembled with ⟨second, third, one, two, three, equal⟩
  refine ⟨second, third, one, two, three, ?_⟩
  intro status
  have statuses : copy.statuses = loadedHistory third copy.id := congrArg Incident.statuses equal
  unfold hasUpdate Recorded
  rw [statuses]
  unfold loadedHistory Store.history
  rw [List.any_map, List.any_filter, List.any_eq_true]
  simp [incidentStatusFromEnt]

/-! ## Statuses that publish nothing -/

/-- A stored maintenance has none of the statuses that are public. -/
def Unpublished (store : Store) (id : Nat) : Prop :=
  ∀ row ∈ store.incidents.get? id, row.type = .maintenance →
    row.status = some .pendingReview ∨ row.status = some .reviewed ∨ row.status = some .cancelled

instance (store : Store) (id : Nat) : Decidable (Unpublished store id) :=
  inferInstanceAs (Decidable (∀ row ∈ store.incidents.get? id, _))

theorem Unpublished.not_public {row : IncidentRow} (unpublished : Unpublished store id)
    (found : store.incidents.get? id = some row) (maintenance : row.type = .maintenance)
    (same : some status = row.status) :
    isPublicMaintenanceStatus status = false := by
  rcases unpublished row found maintenance with review | reviewed | cancelled
  · rw [review, Option.some.injEq] at same
    rw [same]
    rfl
  · rw [reviewed, Option.some.injEq] at same
    rw [same]
    rfl
  · rw [cancelled, Option.some.injEq] at same
    rw [same]
    rfl

/-- The copy a committed write of the maintenance checker puts back. -/
def checkerWrite (event : DbEvent) : Option Incident :=
  match event with
  | { operation := .write (.checkerPatch _ copy _), result := .ok _, .. } => some copy
  | _ => none

/-- A history that makes the checker publish what it cancels: cancelled and
reviewed, but never public. -/
def Contradicted (store : Store) (id : Nat) : Prop :=
  Recorded store id .cancelled ∧ Recorded store id .reviewed ∧ noPublicStatus store id = true

instance (store : Store) (id : Nat) : Decidable (Contradicted store id) :=
  inferInstanceAs (Decidable (_ ∧ _ ∧ _))

/-- No checker writes an event with such a history. -/
def KeepsUnpublished (event : DbEvent) : Prop :=
  ∀ copy ∈ checkerWrite event, ¬ Contradicted event.before copy.id

instance (event : DbEvent) : Decidable (KeepsUnpublished event) :=
  inferInstanceAs (Decidable (∀ copy ∈ checkerWrite event, _))

/-- An event that has no public update, unless it is no maintenance. -/
def Secret (store : Store) (id : Nat) : Prop :=
  (∀ row ∈ store.incidents.get? id, row.type = .maintenance) → noPublicStatus store id = true

/-- Surroundings that keep one maintenance out of the public. -/
def secrecy (id : Nat) : Surroundings where
  drift store later := Evolves store later ∧ (Secret store id → Secret later id)
  invariant store := Secret store id
  preorder :=
    { refl := fun store => ⟨Evolves.refl store, fun secret => secret⟩
      trans := fun _ _ _ before after =>
        ⟨before.1.trans after.1, fun secret => after.2 (before.2 secret)⟩ }
  evolves := And.left
  keeps drift secret := drift.2 secret
  quiet := by
    intro store later same
    refine ⟨evolves_of_sameEvents same, ?_⟩
    unfold Secret noPublicStatus
    rw [same.incidents, same.statuses]
    exact fun secret => secret

/-- The checker adds nothing to a cancelled maintenance that was neither
reviewed nor planned. -/
theorem fixMntMissedStatuses_cancelled {fixed : Incident}
    (reviewed : hasUpdate copy .reviewed = false) (planned : hasUpdate copy .planned = false)
    (fixes : fixMntMissedStatuses .cancelled (calculateMntStatusHistory copy) copy = some fixed) :
    fixed = copy := by
  simp only [fixMntMissedStatuses, calculateMntStatusHistory, reviewed, planned, Bool.or_self,
    Bool.false_eq_true, if_false, Option.some.injEq] at fixes
  exact fixes.symm

/-- The checker computes `cancelled` from a recorded cancellation only. -/
theorem hasUpdate_of_cancelled {now : Time} (computed : currentMntStatus now copy = .cancelled) :
    hasUpdate copy .cancelled = true := by
  unfold currentMntStatus mntStatusAt at computed
  dsimp only at computed
  split_ifs at computed with cancelled
  exact cancelled

section Writes

variable {assume property : DbEvent → Prop} {unaffected : Unaffected property} {id : Nat}
variable {around : Surroundings} {deployment : Deployment} {activity : Activity}

/-- What a revision of a maintenance that stays unpublished adds to its history. -/
theorem revision_secret {final : Store} {incident : Incident} {now : Time}
    {before row : IncidentRow} {update : StatusRow}
    (revision : (shared around assume property unaffected).Revision activity store incident)
    (contradiction : activity = .checkMaintenance → ¬ Contradicted store incident.id)
    (never : noPublicStatus store incident.id = true)
    (found : final.incidents.get? incident.id = some row) (maintenance : row.type = .maintenance)
    (unpublished : Unpublished final incident.id)
    (written : row = modifiedRow now incident (nextVersion incident) before)
    (added : update ∈ newStatusRows now incident.id incident.statuses) :
    isPublicMaintenanceStatus update.status = false := by
  cases revision with
  | patch bound fetched =>
    rcases fetched with ⟨_, _, _, _, reading⟩
    rcases patched_updates (settled_of_reading reading) now _ _ with ⟨only, shape, _, same⟩
    rw [shape, List.mem_singleton] at added
    apply unpublished.not_public found maintenance
    rw [written, patched_status bound, added, same]
  | @check batchRow current copy fixed now batch before first _ kept listed type submitted later
      fetched fixes changes =>
      rcases fetched with ⟨_, _, _, _, reading⟩
      rcases hasUpdate_reading reading with ⟨second, third, _, _, onward, loaded⟩
      have evolves : Evolves third store := around.evolves onward
      rcases completes_fixMntMissedStatuses fixes with ⟨appended, rfl, _⟩
      -- the new status is none of the public ones, so the checker has cancelled
      have set : currentMntStatus now copy ≠ .unset := by
        have computed := currentMntStatus_mem now copy
        intro unset
        simp [unset] at computed
      have status : row.status = some (currentMntStatus now copy) := by
        rw [written]
        exact modifiedRow_status _ _ _ _ set
      have cancelled : currentMntStatus now copy = .cancelled := by
        have computed := currentMntStatus_mem now copy
        have hidden := unpublished row found maintenance
        simp only [status, Option.some.injEq] at hidden
        rcases hidden with equal | equal | equal <;> simp_all
      have onRecord : ∀ status, hasUpdate copy status = true → Recorded store copy.id status :=
        fun status has => ((loaded status).mp has).evolves evolves
      have planned : hasUpdate copy .planned = false := by
        rw [← Bool.not_eq_true]
        intro has
        exact Bool.noConfusion (noPublicStatus_iff.mp never _ (onRecord _ has))
      have reviewed : hasUpdate copy .reviewed = false := by
        rw [← Bool.not_eq_true]
        intro has
        exact contradiction rfl
          ⟨onRecord _ (hasUpdate_of_cancelled cancelled), onRecord _ has, never⟩
      rw [cancelled] at fixes
      have untouched : copy.statuses ++ appended = copy.statuses :=
        congrArg Incident.statuses (fixMntMissedStatuses_cancelled reviewed planned fixes)
      change update ∈ newStatusRows _ _ (copy.statuses ++ appended) at added
      rw [untouched, newStatusRows_of_settled (settled_of_reading reading)] at added
      exact absurd added List.not_mem_nil

/-- The checker writes by one transaction only. -/
theorem checkerWrite_of_modifies {β : Type} {statement : EventWrite β} {incident : Incident}
    (issued : (shared around assume property unaffected).Issued deployment .checkMaintenance store
      statement) (modifies : statement.modifies = some incident) (value : β) (final : Store) :
    checkerWrite (committed statement value store final) = some incident := by
  cases issued with
  | checkMaintenance => exact modifies
  | extractSave extracts => cases extracts
  | extract extracts => cases extracts

/-- A write that leaves a maintenance unpublished leaves it without public
updates, unless a checker writes it with a contradicted history. -/
theorem issued_secret {β : Type} {statement : EventWrite β} {choice : Choice} {value : β}
    {final : Store}
    (issued : (shared around assume property unaffected).Issued deployment activity store statement)
    (commits : statement.exec choice store = .ok (value, final)) (secret : Secret store id)
    (keeps : KeepsUnpublished (committed statement value store final))
    (unpublished : Unpublished final id) : Secret final id := by
  have footprint := exec_footprint commits
  have evolves := shared_evolving.issued_evolves issued commits
  intro maintenances
  have before : noPublicStatus store id = true := by
    apply secret
    intro row found
    rcases evolves.rows id row found with ⟨later, present, type, _⟩
    exact type.symm.trans (maintenances later present)
  rw [noPublicStatus_iff]
  intro status recorded
  rcases recorded_cases footprint recorded with earlier | ⟨update, added, own, rfl⟩
  · exact noPublicStatus_iff.mp before _ earlier
  · cases found : final.incidents.get? id with
    | none =>
      rcases shared_evolving.stored_of_added issued commits added with ⟨row, present⟩
      rw [own, found] at present
      cases present
    | some row =>
      have maintenance := maintenances row found
      rcases shared_evolving.maintenance_cases issued commits found maintenance with
        ⟨_, untouched⟩ | ⟨_, creation⟩ |
        ⟨earlier, incident, _, _, modifies, rfl, revision, written, updates⟩
      · exact absurd own (untouched update added)
      · exact unpublished.not_public found maintenance (creation.announced update added)
      · rw [updates] at added
        apply revision_secret revision _ before found maintenance unpublished written added
        rintro rfl
        exact keeps incident (checkerWrite_of_modifies issued modifies value final)

end Writes

/-- In every interleaving in which no checker writes an event whose history is
contradicted, a maintenance that has had no public status so far is shown by no
read without the extended view. -/
theorem pool_unpublished {ι : Type} [DecidableEq ι] {deployment : Deployment}
    {activities : ι → Activity} {store final : Store} {trace : List (ι × DbEvent)} {id : Nat}
    (pool : Pool deployment activities store trace final)
    (never : noPublicStatus store id = true) (start : Unpublished store id)
    (unpublished : ∀ entry ∈ trace, Unpublished entry.2.after id)
    (maintenance : ∀ row ∈ final.incidents.get? id, row.type = .maintenance)
    (keeps : ∀ entry ∈ trace, KeepsUnpublished entry.2)
    {request : ReadRequest} {events : List DbEvent} {response : Response} {last : Store}
    (run : Run database (request.program publicAccess) final events (.ok response) last) :
    response.shows id = false := by
  have drift := (pool_guarantees pool (fun _ => Or.inr rfl) (secrecy id)
    (fun _ event => KeepsUnpublished event ∧ Unpublished event.after id) (fun _ _ => True)
    (fun _ => unaffected_of_quiet (fun _ _ _ => trivial))
    (fun party _ statement choice value current next issued commits evolves secret assumed =>
      ⟨⟨evolves, fun _ => issued_secret issued commits secret assumed.1 assumed.2⟩, trivial⟩)
    (fun _ => never) (fun entry member => ⟨keeps entry member, unpublished entry member⟩)).2
  have ending : Unpublished final id := by
    apply (pool.chained.invariant (fun current => Unpublished current id) start _).2
    intro event member _
    rcases List.mem_map.mp member with ⟨entry, listed, rfl⟩
    exact unpublished entry listed
  apply read_conceals _ run
  intro row found
  have hidden := drift.2 (fun _ => never) maintenance
  have type := maintenance row found
  apply concealed_of_row found type _ row found
  rcases ending row found type with review | reviewed | cancelled
  · exact Or.inl review
  · exact Or.inr (Or.inl reviewed)
  · exact Or.inr (Or.inr ⟨cancelled, hidden⟩)

/-! ## Callers who cannot approve -/

/-- Who makes a request; background rounds have no caller. -/
def requester : Activity → Option Caller
  | .post _ caller _ => some caller
  | .patch caller _ _ => some caller
  | .extract caller _ _ => some caller
  | .patchText caller _ _ _ => some caller
  | _ => none

/-- A background round, or a request of a caller with at most the creator role. -/
def Limited (activity : Activity) : Prop :=
  ∀ caller ∈ requester activity, caller.role.level ≤ Role.creator.level

instance (activity : Activity) : Decidable (Limited activity) :=
  inferInstanceAs (Decidable (∀ caller ∈ requester activity, _))

theorem requester_of_activity {caller : Caller} {request : Request} {activity : Activity}
    (shape : request.activity caller = some activity) : requester activity = some caller := by
  cases request <;> cases shape <;> rfl

/-- What a background round runs, or a request on any route of a caller with at most
the creator role. -/
inductive Permitted (deployment : Deployment) (backends : Backends) : Handler Response → Prop
  | round {activity : Activity} (background : requester activity = none) :
      Permitted deployment backends (activity.program deployment)
  | request {caller : Caller} (request : Request)
      (limited : caller.role.level ≤ Role.creator.level) :
      Permitted deployment backends (request.program deployment backends caller)

theorem Permitted.acts {deployment : Deployment} {backends : Backends} {program : Handler Response}
    (quiet : Reads backends.postComponent) (permitted : Permitted deployment backends program) :
    ∃ activity, Limited activity ∧ (Reads program ∨ program = activity.program deployment) := by
  cases permitted with
  | @round activity background =>
    refine ⟨activity, ?_, Or.inr rfl⟩
    rw [Limited, background]
    rintro _ ⟨⟩
  | @request caller request limited =>
    have role : caller.role ≠ .admin := by
      intro admin
      rw [admin] at limited
      exact absurd limited (by decide)
    rcases request.acts role quiet with ⟨_, reads⟩ | ⟨activity, shape, same⟩
    · exact ⟨.checkInfo, by decide, Or.inl reads⟩
    · refine ⟨activity, ?_, Or.inr same⟩
      rw [Limited, requester_of_activity shape]
      rintro _ ⟨⟩
      exact limited

/-- A maintenance that is in review or cancelled, and was never anything else. -/
structure InReview (store : Store) (id : Nat) : Prop where
  updates : ∀ status, Recorded store id status → status = .pendingReview ∨ status = .cancelled
  row : ∀ row ∈ store.incidents.get? id, row.status = some .pendingReview ∨
    row.status = some .cancelled ∧ Recorded store id .cancelled

/-- Surroundings that keep one maintenance in review or cancelled. -/
def reviewing (id : Nat) : Surroundings where
  drift store later := Evolves store later ∧
    (((∀ row ∈ store.incidents.get? id, row.type = .maintenance) → InReview store id) →
      (∀ row ∈ later.incidents.get? id, row.type = .maintenance) → InReview later id)
  invariant store :=
    (∀ row ∈ store.incidents.get? id, row.type = .maintenance) → InReview store id
  preorder :=
    { refl := fun store => ⟨Evolves.refl store, fun held => held⟩
      trans := fun _ _ _ before after =>
        ⟨before.1.trans after.1, fun held => after.2 (before.2 held)⟩ }
  evolves := And.left
  keeps drift held := drift.2 held
  quiet := by
    intro store later same
    refine ⟨evolves_of_sameEvents same, ?_⟩
    rw [same.incidents]
    intro held maintenances
    rcases held maintenances with ⟨updates, row⟩
    unfold Recorded at updates row
    rw [← same.statuses] at updates row
    rw [← same.incidents] at row
    exact ⟨updates, row⟩

theorem not_canApprove {caller : Caller} (limited : caller.role.level ≤ Role.creator.level) :
    caller.role.canApprove = false := by
  unfold Role.canApprove
  rw [decide_eq_false_iff_not]
  have levels : Role.creator.level < Role.operator.level := by decide
  omega

/-- A caller who cannot approve leaves a draft a draft or cancels it. -/
theorem patch_limited {caller : Caller} {data : PatchIncidentData}
    (limited : caller.role.level ≤ Role.creator.level) (maintenance : copy.type = .maintenance)
    (allowed : prepareIncidentPatch caller copy data = none) :
    data.status = .pendingReview ∨ data.status = .cancelled := by
  have rule := (prepareIncidentPatch_none allowed).2 maintenance
  unfold allowMaintenancePatch at rule
  rw [not_canApprove limited] at rule
  simp only [Bool.false_eq_true, if_false] at rule
  split_ifs at rule with creator
  unfold allowMaintenancePatchAsCreator at rule
  split_ifs at rule with owner draft permitted
  exact permitted

section Limited

variable {assume property : DbEvent → Prop} {unaffected : Unaffected property} {id : Nat}
variable {deployment : Deployment} {activity : Activity}

/-- The checker leaves a maintenance alone that was cancelled before it was
public; at most it repeats the cancellation. -/
theorem check_inReview {incident : Incident}
    (revision : (shared (reviewing incident.id) assume property unaffected).Revision
      .checkMaintenance store incident) (review : InReview store incident.id) (now : Time) :
    incident.status = .cancelled ∧ Recorded store incident.id .cancelled ∧
      newStatusRows now incident.id incident.statuses = [] := by
  cases revision with
  | @check batchRow current copy fixed time batch before first _ kept listed type submitted later
      fetched fixes changes =>
      rcases fetched with ⟨_, reached, _, _, reading⟩
      rcases hasUpdate_reading reading with ⟨second, third, one, two, onward, loaded⟩
      rcases completes_fixMntMissedStatuses fixes with ⟨appended, rfl, _⟩
      change InReview store copy.id at review
      -- the batch showed the cancellation, so the copy loaded later has it
      have seen : Recorded batch copy.id .cancelled := by
        have earlier : InReview batch copy.id := by
          apply kept
          intro row found
          change batch.incidents.get? copy.id = some row at found
          rw [listed] at found
          cases found
          exact type
        rcases earlier.row batchRow listed with draft | ⟨_, recorded⟩
        · rw [draft] at submitted
          exact absurd rfl submitted
        · exact recorded
      have evolves : Evolves batch third := by
        have drifts : ∀ {first later : Store}, (reviewing copy.id).drift first later →
          Evolves first later := (reviewing copy.id).evolves
        exact (drifts later).trans ((drifts reached).trans ((drifts one).trans (drifts two)))
      have cancelled : currentMntStatus time copy = .cancelled :=
        if_pos ((loaded _).mpr (seen.evolves evolves))
      have absent : ∀ status, status ≠ .pendingReview → status ≠ .cancelled →
          hasUpdate copy status = false := by
        intro status notDraft notCancelled
        rw [← Bool.not_eq_true]
        intro has
        have recorded := ((loaded status).mp has).evolves ((reviewing copy.id).evolves onward)
        rcases review.updates status recorded with equal | equal
        · exact notDraft equal
        · exact notCancelled equal
      rw [cancelled] at fixes
      have untouched : copy.statuses ++ appended = copy.statuses :=
        congrArg Incident.statuses (fixMntMissedStatuses_cancelled
          (absent .reviewed (by decide) (by decide)) (absent .planned (by decide) (by decide)) fixes)
      refine ⟨cancelled, ?_, ?_⟩
      · exact (seen.evolves evolves).evolves ((reviewing copy.id).evolves onward)
      · change newStatusRows now copy.id (copy.statuses ++ appended) = []
        rw [untouched]
        exact newStatusRows_of_settled (settled_of_reading reading)

/-- Why a maintenance is in review or cancelled after a write. -/
theorem inReview_of_row {β : Type} {choice : Choice} {statement : EventWrite β} {final : Store}
    {row : IncidentRow} (found : final.incidents.get? id = some row) (review : InReview store id)
    (footprint : Footprint choice statement store final)
    (added : ∀ update ∈ statement.updates choice store.incidents.nextId, update.incidentId = id →
      update.status = .pendingReview ∨ update.status = .cancelled)
    (status : row.status = some .pendingReview ∨
      row.status = some .cancelled ∧ Recorded final id .cancelled) : InReview final id := by
  constructor
  · intro status recorded
    rcases recorded_cases footprint recorded with earlier | ⟨update, new, own, rfl⟩
    · exact review.updates status earlier
    · exact added update new own
  · intro other present
    rw [found] at present
    cases present
    exact status

/-- Requests of limited callers and checker rounds keep a maintenance in review
or cancelled. -/
theorem issued_inReview {β : Type} {statement : EventWrite β} {choice : Choice} {value : β}
    {final : Store} (limited : Limited activity)
    (issued : (shared (reviewing id) assume property unaffected).Issued deployment activity store
      statement) (commits : statement.exec choice store = .ok (value, final))
    (held : (reviewing id).invariant store) : (reviewing id).invariant final := by
  have footprint := exec_footprint commits
  have evolves := shared_evolving.issued_evolves issued commits
  intro maintenances
  have review : InReview store id := by
    apply held
    intro row found
    rcases evolves.rows id row found with ⟨later, present, type, _⟩
    exact type.symm.trans (maintenances later present)
  cases found : final.incidents.get? id with
  | none =>
    refine ⟨?_, fun row present => by rw [found] at present; cases present⟩
    intro status recorded
    rcases recorded_cases footprint recorded with earlier | ⟨update, added, own, _⟩
    · exact review.updates status earlier
    · rcases shared_evolving.stored_of_added issued commits added with ⟨row, present⟩
      rw [own, found] at present
      cases present
  | some row =>
    have maintenance := maintenances row found
    rcases shared_evolving.maintenance_cases issued commits found maintenance with
      ⟨same, untouched⟩ | ⟨_, creation⟩ |
      ⟨earlier, incident, stored, type, modifies, rfl, revision, written, updates⟩
    · refine inReview_of_row found review footprint ?_ ?_
      · exact fun update added own => absurd own (untouched update added)
      · rcases review.row row same with draft | ⟨cancelled, recorded⟩
        · exact Or.inl draft
        · exact Or.inr ⟨cancelled, recorded.evolves evolves⟩
    · rcases creation.posted with ⟨route, caller, data, prepared, rfl, prepares, kind, rfl⟩
      have status : (createdRow choice.now (regularIncident prepared caller.userID)).status =
          some .pendingReview := by
        have type : prepared.type = .maintenance := by rw [prepares.same]; exact kind
        have submitted := prepares.status kind
        rw [not_canApprove (limited caller rfl)] at submitted
        simp [createdRow, initialStatus, regularIncident, type, submitted]
      refine inReview_of_row found review footprint ?_ (Or.inl status)
      intro update added _
      have announced := creation.announced update added
      rw [status, Option.some.injEq] at announced
      exact Or.inl announced
    · cases revision with
      | @patch caller target data copy current before first _ bound fetched versioned allowed =>
        rcases fetched with ⟨_, _, _, _, reading⟩
        have kind : copy.type = .maintenance :=
          ((shared_evolving.typed_of_reading reading).row_type stored).symm.trans type
        have named := patch_limited (limited caller rfl) kind allowed
        rcases patched_updates (settled_of_reading reading) choice.now data caller.userID with
          ⟨only, shape, own, same⟩
        have status : row.status = some data.status := by rw [written, patched_status bound]
        have listed : only ∈ statement.updates choice store.incidents.nextId := by
          rw [updates, shape]
          exact List.mem_singleton.mpr rfl
        refine inReview_of_row found review footprint ?_ ?_
        · intro update added _
          rw [updates, shape, List.mem_singleton] at added
          rw [added, same]
          exact named
        · rw [status]
          rcases named with draft | cancelled
          · exact Or.inl (congrArg some draft)
          · refine Or.inr ⟨congrArg some cancelled, ?_⟩
            rw [← own, ← cancelled, ← same]
            exact recorded_of_added footprint listed
      | check kept listed kind submitted later fetched fixes changes =>
        rcases check_inReview (.check kept listed kind submitted later fetched fixes changes)
          review choice.now with ⟨cancelled, recorded, none⟩
        refine inReview_of_row found review footprint ?_ (Or.inr ⟨?_, recorded.evolves evolves⟩)
        · intro update added _
          rw [updates, none] at added
          cases added
        · rw [written, modifiedRow_status _ _ _ _ (by rw [cancelled]; decide), cancelled]

end Limited

/-- In every interleaving of requests by callers with at most the creator role
and of background rounds, a maintenance that was created in it is in review or
cancelled, and no read without the extended view shows it.  A part of an
interleaving is one too, so this holds at every point. -/
theorem pool_creators {ι : Type} [DecidableEq ι] {deployment : Deployment} {backends : Backends}
    {programs : ι → Handler Response} {store final : Store} {trace : List (ι × DbEvent)} {id : Nat}
    {row : IncidentRow} (pool : Interleaving database programs store trace final)
    (permitted : ∀ party, Permitted deployment backends (programs party))
    (quiet : Reads backends.postComponent) (fresh : store.incidents.get? id = none)
    (unrecorded : ∀ status, ¬ Recorded store id status)
    (present : final.incidents.get? id = some row) (maintenance : row.type = .maintenance) :
    (row.status = some .pendingReview ∨ row.status = some .cancelled) ∧
      ∀ (request : ReadRequest) (events : List DbEvent) (response : Response) (last : Store),
        Run database (request.program publicAccess) final events (.ok response) last →
        response.shows id = false := by
  have start : (reviewing id).invariant store := by
    refine fun _ => ⟨fun status recorded => absurd recorded (unrecorded status), ?_⟩
    intro other found
    rw [fresh] at found
    cases found
  choose activities limited acts using fun party => (permitted party).acts quiet
  have drift := (pool_guarantees pool acts (reviewing id) (fun _ _ => True) (fun _ _ => True)
    (fun _ => unaffected_of_quiet (fun _ _ _ => trivial))
    (fun party _ statement choice value current next issued commits evolves held _ =>
      ⟨⟨evolves, fun _ => issued_inReview (limited party) issued commits held⟩, trivial⟩)
    start (fun _ _ => trivial)).2
  have review : InReview final id := by
    apply drift.2 start
    intro other found
    rw [present] at found
    cases found
    exact maintenance
  have never : noPublicStatus final id = true := by
    rw [noPublicStatus_iff]
    intro status recorded
    rcases review.updates status recorded with rfl | rfl <;> rfl
  have status := review.row row present
  refine ⟨status.imp_right And.left, ?_⟩
  intro request events response last run
  apply read_conceals (concealed_of_row present maintenance _) run
  rcases status with draft | ⟨cancelled, _⟩
  · exact Or.inl draft
  · exact Or.inr (Or.inr ⟨cancelled, never⟩)

def aCreator : Caller where
  userID := some "creator"
  email := none
  role := .creator

/-- A creator submits a maintenance and cancels it while the checker runs. -/
def creatorWorkflow : Nat → Activity
  | 0 => .post .events aCreator (maintenanceRequest 100 200)
  | 1 => .patch aCreator 1 (statusPatch .cancelled 26 (some 2))
  | _ => .checkMaintenance

def creatorRun : List (Nat × DbEvent) × Store :=
  schedule database (fun party => (creatorWorkflow party).program quietDeployment)
    ((List.range 3).flatMap (fun party => List.replicate 20 (party, atTime 30))) (bareStore 1)

theorem pool_creators_cancelled :
    ∃ row, creatorRun.2.incidents.get? 1 = some row ∧
      (row.status = some .pendingReview ∨ row.status = some .cancelled) ∧
      ∀ (request : ReadRequest) (events : List DbEvent) (response : Response) (last : Store),
        Run database (request.program publicAccess) creatorRun.2 events (.ok response) last →
        response.shows 1 = false := by
  have pool : Pool quietDeployment creatorWorkflow (bareStore 1) creatorRun.1 creatorRun.2 :=
    schedule_interleaving database _ _ _
  have permitted : ∀ party, Permitted quietDeployment noBackends
      ((creatorWorkflow party).program quietDeployment) := by
    intro party
    match party with
    | 0 => exact .request (.postEvent .events (maintenanceRequest 100 200)) (by decide)
    | 1 => exact .request (.patchEvent 1 (statusPatch .cancelled 26 (some 2))) (by decide)
    | _ + 2 => exact .round rfl
  have stored : (creatorRun.2.incidents.get? 1).any (fun row => row.type == .maintenance) = true := by
    decide +kernel
  cases present : creatorRun.2.incidents.get? 1 with
  | none =>
    rw [present] at stored
    cases stored
  | some row =>
    rw [present] at stored
    exact ⟨row, rfl, pool_creators pool permitted trivial rfl
      (fun status recorded => by rcases recorded with ⟨entry, member, _⟩; cases member) present
      (by simpa using stored)⟩

/-! ## A cancelled maintenance that becomes public -/

/-- A maintenance is submitted, reviewed and cancelled; the third change is as
given; then the checker runs. -/
def cancelledWorkflow (data : PatchIncidentData) : Nat → Activity
  | 0 => .post .events aCreator (maintenanceRequest 100 200)
  | 1 => .patch anAdmin 1 (statusPatch .reviewed 25 (some 2))
  | 2 => .patch anAdmin 1 (statusPatch .cancelled 26 (some 3))
  | 3 => .patch anAdmin 1 data
  | _ => .checkMaintenance

/-- The activities of the workflow, one after another. -/
def cancelledRun (data : PatchIncidentData) : List (Nat × DbEvent) × Store :=
  schedule database (fun party => (cancelledWorkflow data party).program quietDeployment)
    ((List.range 5).flatMap (fun party => List.replicate 20 (party, atTime 30))) (bareStore 1)

theorem cancelledRun_pool (data : PatchIncidentData) :
    Pool quietDeployment (cancelledWorkflow data) (bareStore 1) (cancelledRun data).1
      (cancelledRun data).2 :=
  schedule_interleaving database _ _ _

theorem returned_of_any {outcome : Except ApiError Response} {test : Response → Bool}
    (shown : outcome.toOption.any test = true) :
    ∃ response, outcome = .ok response ∧ test response = true := by
  cases outcome with
  | error => cases shown
  | ok response => exact ⟨response, rfl, shown⟩

/-- The cancelled maintenance is taken back to `reviewed`, and the checker
publishes it while it cancels it. -/
theorem pool_unpublished_fails :
    ¬ ∀ (deployment : Deployment) (activities : Nat → Activity) (store final last : Store)
      (trace : List (Nat × DbEvent)) (id : Nat) (request : ReadRequest) (events : List DbEvent)
      (response : Response), Pool deployment activities store trace final →
      noPublicStatus store id = true → Unpublished store id →
      (∀ entry ∈ trace, Unpublished entry.2.after id) →
      (∀ row ∈ final.incidents.get? id, row.type = .maintenance) →
      Run database (request.program publicAccess) final events (.ok response) last →
      response.shows id = false := by
  intro claimed
  have shown : (((ReadRequest.event 1).program publicAccess).evaluate database (atTime 40)
      (cancelledRun (statusPatch .reviewed 27 (some 4))).2).1.toOption.any
      (fun response => response.shows 1) = true := by
    decide +kernel
  rcases returned_of_any shown with ⟨response, answer, shows⟩
  have run := Program.evaluate_run database (atTime 40) ((ReadRequest.event 1).program publicAccess)
    (cancelledRun (statusPatch .reviewed 27 (some 4))).2
  rw [answer] at run
  have hidden := claimed _ _ _ _ _ _ 1 _ _ _
    (cancelledRun_pool (statusPatch .reviewed 27 (some 4))) (by decide +kernel) (by decide +kernel)
    (by decide +kernel) (by decide +kernel) run
  rw [shows] at hidden
  cases hidden

/-- The change comes too late: its version is outdated.  The maintenance stays
cancelled, and the list does not show it. -/
theorem pool_unpublished_cancelled :
    (∀ entry ∈ (cancelledRun (statusPatch .reviewed 27 (some 3))).1, KeepsUnpublished entry.2) ∧
    (∃ row ∈ (cancelledRun (statusPatch .reviewed 27 (some 3))).2.incidents.get? 1,
      row.status = some .cancelled) ∧
    ∃ response, (((ReadRequest.events {}).program publicAccess).evaluate database (atTime 40)
      (cancelledRun (statusPatch .reviewed 27 (some 3))).2).1 = .ok response ∧
      response.shows 1 = false := by
  have keeps : ∀ entry ∈ (cancelledRun (statusPatch .reviewed 27 (some 3))).1,
      KeepsUnpublished entry.2 := by
    decide +kernel
  have answered : (((ReadRequest.events {}).program publicAccess).evaluate database (atTime 40)
      (cancelledRun (statusPatch .reviewed 27 (some 3))).2).1.toOption.any (fun _ => true) = true := by
    decide +kernel
  rcases returned_of_any answered with ⟨response, answer, _⟩
  have run := Program.evaluate_run database (atTime 40) ((ReadRequest.events {}).program publicAccess)
    (cancelledRun (statusPatch .reviewed 27 (some 3))).2
  rw [answer] at run
  exact ⟨keeps, by decide +kernel, response, answer,
    pool_unpublished (cancelledRun_pool _) (by decide +kernel) (by decide +kernel)
      (by decide +kernel) (by decide +kernel) keeps run⟩

end StatusDashboard.Properties
