import StatusDashboard.Provenance.Alone
import StatusDashboard.Provenance.Revision
import StatusDashboard.Properties.Publication

namespace StatusDashboard.Properties

open Event Storage Tables Notification Handlers Process Provenance

/-!
# Creators and the maintenances of others

A creator may change a maintenance only while it is a draft of their own.  The
handler of event PATCHes checks this.  The handler that edits the text of an
update does not look at the event at all, so it is the one way to touch any
other maintenance.
-/

/-- A maintenance the caller has created and that is in review. -/
def OwnDraft (caller : Caller) (row : IncidentRow) : Prop :=
  row.createdBy ≠ none ∧ row.createdBy = caller.userID ∧ row.status = some .pendingReview

instance (caller : Caller) (row : IncidentRow) : Decidable (OwnDraft caller row) :=
  inferInstanceAs (Decidable (_ ∧ _ ∧ _))

/-- Neither the row of an event nor its updates have changed. -/
def Untouched (store final : Store) (id : Nat) : Prop :=
  final.incidents.get? id = store.incidents.get? id ∧ final.history id = store.history id

/-- Only own drafts have changed among the maintenances that were stored. -/
def KeepsToDrafts (caller : Caller) (store final : Store) : Prop :=
  ∀ id row, store.incidents.get? id = some row → row.type = .maintenance →
    ¬ Untouched store final id → OwnDraft caller row

/-- A request to edit an existing update of a maintenance that is no own draft. -/
def EditsForeign (store : Store) : Activity → Prop
  | .patchText caller id index text => text ≠ "" ∧ index < (store.history id).length ∧
      ∃ row, store.incidents.get? id = some row ∧ row.type = .maintenance ∧ ¬ OwnDraft caller row
  | _ => False

theorem Untouched.refl (store : Store) (id : Nat) : Untouched store store id := ⟨rfl, rfl⟩

theorem keepsToDrafts_trans {caller : Caller} {first second third : Store}
    (before : KeepsToDrafts caller first second) (after : KeepsToDrafts caller second third) :
    KeepsToDrafts caller first third := by
  intro id row found maintenance touched
  by_contra foreign
  have early : Untouched first second id := by
    by_contra changed
    exact foreign (before id row found maintenance changed)
  have late : Untouched second third id := by
    by_contra changed
    exact foreign (after id row (early.1.trans found) maintenance changed)
  exact touched ⟨late.1.trans early.1, late.2.trans early.2⟩

theorem untouched_of_sameEvents {store final : Store} (same : SameEvents store final) (id : Nat) :
    Untouched store final id := by
  refine ⟨by rw [same.incidents], ?_⟩
  unfold Store.history
  rw [same.statuses]

/-! ## Edited texts -/

section Edit

variable {store final : Store} {key id : Nat} {row edited : StatusRow}

/-- Editing an update of another event leaves the history alone. -/
theorem history_of_edit (statuses : final.statuses = store.statuses.update key (fun _ => edited))
    (found : store.statuses.get? key = some row) (same : edited.incidentId = row.incidentId)
    (other : row.incidentId ≠ id) : final.history id = store.history id := by
  apply history_congr
  intro position listed own
  rw [statuses, SerialTable.get?_update]
  split_ifs with here
  · subst here
    rw [found]
    constructor
    · rintro ⟨⟩
      exact absurd (same.symm.trans own) other
    · rintro ⟨⟩
      exact absurd own other
  · exact Iff.rfl

/-- Editing an update rewrites it where it is listed. -/
theorem history_map_of_edit
    (statuses : final.statuses = store.statuses.update key (fun _ => edited))
    (found : store.statuses.get? key = some row) (same : edited.incidentId = row.incidentId) :
    final.history id = (store.history id).map
      (fun entry => if entry.1 = key then (entry.1, edited) else entry) := by
  unfold Store.history
  rw [statuses, SerialTable.rows_update, List.filter_map]
  apply congrArg
  apply List.filter_congr
  rintro ⟨position, listed⟩ member
  by_cases here : position = key
  · subst here
    have stored := SerialTable.mem_rows.mp member
    rw [found] at stored
    cases stored
    simp [same]
  · simp [here]

/-- Editing an update keeps the number of updates. -/
theorem history_length_of_edit
    (statuses : final.statuses = store.statuses.update key (fun _ => edited))
    (found : store.statuses.get? key = some row) (same : edited.incidentId = row.incidentId) :
    (final.history id).length = (store.history id).length := by
  rw [history_map_of_edit statuses found same, List.length_map]

end Edit

/-- An accepted PATCH of a maintenance by a creator changes an own draft. -/
theorem ownDraft_of_patch {caller : Caller} {copy : Incident} {row : IncidentRow}
    {data : PatchIncidentData} (creator : caller.role = .creator)
    (maintenance : copy.type = .maintenance) (author : copy.createdBy = row.createdBy)
    (status : copy.status = row.status.getD .unset)
    (allowed : prepareIncidentPatch caller copy data = none) : OwnDraft caller row := by
  have passed := (prepareIncidentPatch_none allowed).2 maintenance
  unfold allowMaintenancePatch at passed
  rw [creator] at passed
  change allowMaintenancePatchAsCreator caller copy data = none at passed
  unfold allowMaintenancePatchAsCreator at passed
  split_ifs at passed with foreign submitted kept
  rw [not_or, not_or, not_not] at foreign
  rw [not_not, status] at submitted
  refine ⟨author ▸ foreign.2.1, author ▸ foreign.2.2.symm, ?_⟩
  cases known : row.status with
  | none => simp [known] at submitted
  | some => simpa [known] using submitted

/-! ## Requests of creators -/

section Requests

variable {invariant : Store → Prop} {property : DbEvent → Prop}
variable {unaffected : Unaffected property} {deployment : Deployment} {activity : Activity}
variable {caller : Caller} {β : Type} {statement : EventWrite β} {choice : Choice} {value : β}
variable {store final : Store}

/-- An edited update belongs to the event the request names. -/
theorem edit_effect {index id : Nat} {text : String} {target updated : IncidentStatus}
    (listed : (loadedHistory store id)[index]? = some target)
    (commits : (EventWrite.modifyEventUpdate { target with text := text, modifiedBy :=
      caller.userID }).exec choice store = .ok (updated, final)) :
    index < (store.history id).length ∧ final.incidents = store.incidents ∧
      ∃ row, store.statuses.get? target.id = some row ∧ row.incidentId = id ∧
        final.statuses = store.statuses.update target.id (fun _ =>
          { row with text := text, modifiedAt := some choice.now }) := by
  unfold loadedHistory at listed
  rw [List.getElem?_map, Option.map_eq_some_iff] at listed
  rcases listed with ⟨⟨key, row⟩, position, rfl⟩
  rcases modifyEventUpdateTx_ok commits with ⟨stored, found, rfl⟩
  have member := mem_history.mp (List.mem_of_getElem? position)
  have equal := Option.some.inj (member.1.symm.trans found)
  subst equal
  exact ⟨(List.getElem?_eq_some_iff.mp position).1, rfl, row, member.1, member.2, rfl⟩

/-- A creator's write changes no maintenance but an own draft, if the request
does not edit the update of another one. -/
theorem issued_keepsToDrafts (creator : caller.role = .creator)
    (requested : requester activity = some caller) (native : ¬ EditsForeign store activity)
    (issued : (alone invariant property unaffected).Issued deployment activity store statement)
    (commits : statement.exec choice store = .ok (value, final)) :
    KeepsToDrafts caller store final := by
  have footprint := exec_footprint commits
  intro id row found maintenance touched
  by_cases target : id ∈ statement.targets
  · rcases alone_evolving.revision_of_target issued found maintenance target with
      ⟨incident, _, rfl, revision⟩
    cases revision with
    | patch bound fetched versioned allowed =>
      cases requested
      rcases fetched with ⟨_, _, _, _, reading⟩
      rcases reading.alone with ⟨_, present, shape⟩
      have same := Option.some.inj (present.symm.trans found)
      subst same
      apply ownDraft_of_patch creator (reading.type_eq.trans maintenance) _ reading.status_eq allowed
      rw [shape]
      rfl
    | check => cases requested
  · have stays := footprint.rows id row found
    rw [EventWrite.rewritten_of_not_target target] at stays
    cases edited : statement.edits with
    | none =>
      exact absurd ⟨stays.trans found.symm,
        history_of_not_target issued commits edited found target⟩ touched
    | some update =>
      cases issued with
      | editText nonempty read listed =>
        rename_i editor named index text entry seen
        have same : seen = store := read
        subst same
        cases requested
        rcases edit_effect listed commits with ⟨inside, _, updated, present, own, statuses⟩
        by_cases here : id = named
        · subst here
          by_contra foreign
          exact native ⟨nonempty, inside, row, found, maintenance, foreign⟩
        · refine absurd ⟨stays.trans found.symm, ?_⟩ touched
          exact history_of_edit statuses present rfl (fun same => here (same.symm.trans own))
      | _ => cases edited

theorem editsForeign_congr {activity : Activity} (incidents : final.incidents = store.incidents)
    (lengths : ∀ id, (final.history id).length = (store.history id).length) :
    EditsForeign final activity ↔ EditsForeign store activity := by
  cases activity with
  | patchText =>
    simp only [EditsForeign, incidents, lengths]
  | _ => exact Iff.rfl

theorem issued_native (native : ¬ EditsForeign store activity)
    (issued : (alone invariant property unaffected).Issued deployment activity store statement)
    (commits : statement.exec choice store = .ok (value, final)) :
    ¬ EditsForeign final activity := by
  cases issued with
  | editText nonempty read listed =>
    rename_i editor named index text entry seen
    have same : seen = store := read
    subst same
    rcases edit_effect listed commits with ⟨_, incidents, updated, present, own, statuses⟩
    rw [editsForeign_congr incidents
      (fun _ => history_length_of_edit statuses present rfl)]
    exact native
  | extractSave extracts => cases extracts <;> exact id
  | extract extracts => cases extracts <;> exact id
  | _ => exact id

/-- An update row with another text. -/
def retexted (now : Time) (text : String) (update : StatusRow) : StatusRow :=
  { update with text := text, modifiedAt := some now }

/-- The store with one update row rewritten. -/
def withUpdate (store : Store) (key : Nat) (update : StatusRow) : Store :=
  { store with statuses := store.statuses.update key (fun _ => update) }

/-- A text is written to the row at the place the request names, if there is one. -/
theorem evaluate_patchEventUpdateText {id index : Nat} {text : String} {row : IncidentRow}
    (faultless : choice.fault = false) (permitted : caller.role.canCreate = true)
    (nonempty : text ≠ "") (found : store.incidents.get? id = some row) :
    (patchEventUpdateText caller id index text).evaluate database choice store =
      match (store.history id)[index]? with
      | none => (.error (.notFound .updateDSNotExist), store)
      | some (key, update) =>
        (.ok (.updateText index (incidentStatusFromEnt key (retexted choice.now text update))),
          withUpdate store key (retexted choice.now text update)) := by
  have positive : id ≠ 0 := Nat.ne_of_gt (SerialTable.pos_of_get? found)
  have named : caller.role ≠ .noRole := by
    intro none
    rw [none] at permitted
    cases permitted
  have human : caller.role.isReporter ≠ true := by
    intro reporter
    rw [eq_of_beq reporter] at permitted
    cases permitted
  have listed : (loadedHistory store id)[index]? =
      (store.history id)[index]?.map (fun entry => incidentStatusFromEnt entry.1 entry.2) :=
    List.getElem?_map ..
  unfold patchEventUpdateText rbacAuthorization denyReporterScope checkEventExistence internalOnError
  rw [if_neg named, if_neg human, if_neg positive]
  simp only [Program.pure_eq_done, Program.done_bind]
  rw [Program.evaluate_bind, Program.evaluate_mapError, evaluate_getIncident faultless found]
  simp only [Except.mapError]
  rw [if_neg nonempty, Program.evaluate_bind, Program.evaluate_mapError,
    evaluate_getEventUpdates faultless]
  simp only [Except.mapError, listed]
  cases entry : (store.history id)[index]? with
  | none => rfl
  | some first =>
    rcases first with ⟨key, update⟩
    have stored := (mem_history.mp (List.mem_of_getElem? entry)).1
    have commits : commit choice ((EventWrite.modifyEventUpdate
          { incidentStatusFromEnt key update with text := text,
                                                  modifiedBy := caller.userID }).exec choice)
        store = (.ok (incidentStatusFromEnt key (retexted choice.now text update)),
          withUpdate store key (retexted choice.now text update)) := by
      simp [commit, faultless, EventWrite.exec, modifyEventUpdateTx, nonempty, stored,
        incidentStatusFromEnt, Option.filter_some, retexted, withUpdate]
    simp only [Option.map_some]
    rw [Program.evaluate_bind, Program.evaluate_mapError, evaluate_write, commits]
    rfl

theorem activity_keepsToDrafts (creator : caller.role = .creator)
    (requested : requester activity = some caller) :
    (∀ (events : List DbEvent) (outcome : Except ApiError Response) (last : Store),
      Run database (activity.program deployment) store events outcome last →
      KeepsToDrafts caller store last) ↔ ¬ EditsForeign store activity := by
  constructor
  · intro keeps foreign
    cases activity with
    | patchText editor id index text =>
      cases requested
      rcases foreign with ⟨nonempty, inside, row, found, maintenance, other⟩
      rcases entry : (store.history id)[index] with ⟨key, update⟩
      have listed : (store.history id)[index]? = some (key, update) := by
        rw [List.getElem?_eq_getElem inside, entry]
      -- a clock reading the update was not modified at
      have run := Program.evaluate_run database (atTime (update.modifiedAt.getD 0 + 1))
        (patchEventUpdateText caller id index text) store
      apply other
      apply keeps _ _ _ run id row found maintenance
      rintro ⟨_, same⟩
      have member := List.mem_of_getElem? listed
      rw [← same] at member
      have kept := (mem_history.mp member).1
      rw [evaluate_patchEventUpdateText rfl (by rw [creator]; rfl) nonempty found, listed] at kept
      dsimp only [withUpdate] at kept
      rw [SerialTable.get?_update_self, (mem_history.mp (List.mem_of_getElem? listed)).1] at kept
      have modified : some (update.modifiedAt.getD 0 + 1) = update.modifiedAt :=
        congrArg StatusRow.modifiedAt (Option.some.inj kept)
      cases known : update.modifiedAt with
      | none =>
        rw [known] at modified
        cases modified
      | some time =>
        rw [known, Option.getD_some] at modified
        exact absurd (Option.some.inj modified) (Int.ne_of_gt (Int.lt_succ time))
    | _ => exact foreign
  · intro native events outcome last run
    have unaffected : Unaffected (fun event => KeepsToDrafts caller event.before event.after) :=
      unaffected_of_quiet (fun event _ same id _ _ _ touched =>
        absurd (untouched_of_sameEvents same id) touched)
    have unconcerned : ∀ {current next : Store}, SameEvents current next →
        ¬ EditsForeign current activity → ¬ EditsForeign next activity := by
      intro current next same held
      rw [editsForeign_congr same.incidents
        (fun id => congrArg List.length (untouched_of_sameEvents same id).2)]
      exact held
    have steps := (run_guarantees unaffected unconcerned
      (fun statement choice value current next issued commits held =>
        ⟨issued_native held issued commits,
          issued_keepsToDrafts creator requested held issued commits⟩) run native).1
    apply run.2.relates _ _ steps
    · intro state id row _ _ touched
      exact absurd (Untouched.refl state id) touched
    · intro first second third
      exact keepsToDrafts_trans

/-- A request of a creator on any route changes only own drafts among the stored
maintenances, however it runs, exactly when it does not edit the text of an
existing update of another maintenance. -/
theorem creator_keepsToDrafts {backends : Backends} (creator : caller.role = .creator)
    (quiet : Reads backends.postComponent) (request : Request) :
    (∀ (events : List DbEvent) (outcome : Except ApiError Response) (last : Store),
      Run database (request.program deployment backends caller) store events outcome last →
      KeepsToDrafts caller store last) ↔
      ∀ activity ∈ request.activity caller, ¬ EditsForeign store activity := by
  rcases request.acts (by rw [creator]; decide) quiet with ⟨none, reads⟩ | ⟨activity, shape, same⟩
  · refine iff_of_true ?_ (by rw [none]; rintro _ ⟨⟩)
    intro events outcome last run id row _ _ touched
    have kept := ((reads.ensures (fun _ => True) store).run run (fun _ _ => trivial)).2
    exact absurd (kept ▸ Untouched.refl store id) touched
  · rw [same, shape, activity_keepsToDrafts creator (requester_of_activity shape)]
    exact ⟨fun native other member => Option.some.inj member ▸ native, fun all => all activity rfl⟩

end Requests

/-- A maintenance of an administrator. -/
def plannedMaintenance : Store :=
  (replay quietDeployment
    [(.post .events anAdmin (maintenanceRequest 100 200), atTime 20)] (bareStore 1)).2

/-- A creator edits the update of a maintenance that an administrator has planned. -/
theorem creator_keepsToDrafts_fails :
    ¬ ∀ (deployment : Deployment) (caller : Caller) (activity : Activity) (store last : Store)
      (events : List DbEvent) (outcome : Except ApiError Response),
      caller.role = .creator → requester activity = some caller →
      Run database (activity.program deployment) store events outcome last →
      KeepsToDrafts caller store last := by
  intro claimed
  have run := Program.evaluate_run database (atTime 30)
    ((Activity.patchText aCreator 1 0 "edited").program quietDeployment) plannedMaintenance
  have keeps := claimed _ aCreator _ _ _ _ _ rfl rfl run
  have stored : (plannedMaintenance.incidents.get? 1).any (fun row =>
      decide (row.type = .maintenance ∧ ¬ OwnDraft aCreator row)) = true := by decide +kernel
  have edited : (((Activity.patchText aCreator 1 0 "edited").program quietDeployment).evaluate
      database (atTime 30) plannedMaintenance).2.history 1 ≠ plannedMaintenance.history 1 := by
    decide +kernel
  cases present : plannedMaintenance.incidents.get? 1 with
  | none =>
    rw [present] at stored
    cases stored
  | some row =>
    rw [present] at stored
    have planned : row.type = .maintenance ∧ ¬ OwnDraft aCreator row := by simpa using stored
    exact planned.2 (keeps 1 row present planned.1 (fun untouched => edited untouched.2))

/-- A draft of the creator. -/
def draftMaintenance : Store :=
  (replay quietDeployment
    [(.post .events aCreator (maintenanceRequest 100 200), atTime 20)] (bareStore 1)).2

/-- A creator edits the update of their own draft. -/
theorem creator_keepsToDrafts_own :
    ((Request.program quietDeployment noBackends aCreator
      (.patchEventUpdateText 1 0 "edited")).evaluate database (atTime 30) draftMaintenance).2.history
        1 ≠ draftMaintenance.history 1 ∧
    ∀ (events : List DbEvent) (outcome : Except ApiError Response) (last : Store),
      Run database (Request.program quietDeployment noBackends aCreator
        (.patchEventUpdateText 1 0 "edited")) draftMaintenance events outcome last →
      KeepsToDrafts aCreator draftMaintenance last := by
  have quiet : Reads noBackends.postComponent := trivial
  refine ⟨by decide +kernel, (creator_keepsToDrafts rfl quiet _).mpr ?_⟩
  have own : ∀ row ∈ draftMaintenance.incidents.get? 1, OwnDraft aCreator row := by decide +kernel
  rintro _ ⟨⟩ ⟨_, _, row, found, _, other⟩
  exact other (own row found)

end StatusDashboard.Properties
