import StatusDashboard.Provenance.Revision
import StatusDashboard.Provenance.Shared

namespace StatusDashboard.Properties

open Event Storage Tables Handlers Process Provenance

/-!
# The audit trail

An update row names who added it and who changed its text last.  The first name
is written with the row: by a regular creation for the initial status and by a
PATCH for its message; the rows the server adds on its own carry no name.  The
second name is set on the copy that an update-text PATCH hands to the database,
and the statement that stores the new text does not write it.
-/

variable {now : Time} {id : Nat} {incident old : Incident} {choice : Choice} {setting : Setting}
variable {activity : Activity} {current store final : Store} {deployment : Deployment} {β : Type}
variable {statement : EventWrite β}

/-- Who has to stand in the rows that an operation of an activity adds. -/
def author : Activity → DbEvent → Option String
  | .post _ caller data, event =>
    if data.system ≠ some true ∧ (fromCommit EventWrite.creates event).isSome then caller.userID
    else none
  | .patch caller _ _, event =>
    if (fromCommit EventWrite.patches event).isSome then caller.userID else none
  | _, _ => none

/-- The update whose text an operation of an activity changes, and for whom. -/
def textEdit : Activity → DbEvent → Option (Nat × Option String)
  | .patchText caller _ _ _, event =>
    (fromCommit EventWrite.edits event).map (fun update => (update.id, caller.userID))
  | _, _ => none

/-- An operation adds rows in the name of their author, takes no name away and
changes no row but the one it edits. -/
structure Attributed (activity : Activity) (event : DbEvent) : Prop where
  kept : ∀ key row, event.before.statuses.get? key = some row →
    ∃ later, event.after.statuses.get? key = some later ∧ later.createdBy = row.createdBy ∧
      later.modifiedBy = row.modifiedBy ∧
      ((∀ editor, textEdit activity event ≠ some (key, editor)) → later = row)
  added : ∀ key row, event.before.statuses.get? key = none →
    event.after.statuses.get? key = some row →
    row.createdBy = author activity event ∧ row.modifiedBy = none

/-! ## The rows a transaction adds -/

/-- The rows of updates appended to a settled copy are those of the new updates. -/
theorem newStatusRows_names {statuses added : List IncidentStatus} {name : Option String}
    (settled : Settled incident) (shape : statuses = incident.statuses ++ added)
    (names : ∀ status ∈ added, status.createdBy = name ∧ status.modifiedBy = none) :
    ∀ row ∈ newStatusRows now id statuses, row.createdBy = name ∧ row.modifiedBy = none := by
  intro row member
  subst shape
  rw [newStatusRows_append, newStatusRows_of_settled settled, List.nil_append] at member
  rcases List.mem_map.mp member with ⟨status, listed, rfl⟩
  exact names status (List.mem_filter.mp listed).1

theorem released_names {timeNow : Time} {component : Component} {new : Incident} {close : Bool}
    (settled : Settled old) :
    ∀ row ∈ newStatusRows now id (movedSource timeNow component old new close).statuses,
      row.createdBy = none ∧ row.modifiedBy = none := by
  have shape : ∃ status : IncidentStatus, (status.createdBy = none ∧ status.modifiedBy = none) ∧
      (movedSource timeNow component old new close).statuses = old.statuses ++ [status] := by
    have kept : ∀ incOld, (releasedSource component incOld close).statuses = incOld.statuses := by
      intro incOld
      unfold releasedSource
      split_ifs <;> rfl
    cases close <;> refine ⟨_, ?_, (kept _).trans rfl⟩ <;> exact ⟨rfl, rfl⟩
  rcases shape with ⟨status, names, same⟩
  refine newStatusRows_names settled same ?_
  intro update member
  rw [List.mem_singleton.mp member]
  exact names

theorem received_names {timeNow : Time} {component : Component} {new : Incident}
    (settled : Settled new) :
    ∀ row ∈ newStatusRows now id (receiveComponent timeNow component old new).statuses,
      row.createdBy = none ∧ row.modifiedBy = none :=
  newStatusRows_names settled rfl (fun status member => by
    rw [List.mem_singleton.mp member]
    exact ⟨rfl, rfl⟩)

theorem completed_names {before after : Incident} (settled : Settled before)
    (completes : Completes before after) :
    ∀ row ∈ newStatusRows now id after.statuses, row.createdBy = none ∧ row.modifiedBy = none := by
  rcases completes with ⟨added, rfl, own⟩
  exact newStatusRows_names settled rfl (fun status member => (own status member).2)

/-- The update of a creation is added in the name that goes with the request. -/
theorem created_names {fresh : Nat} {publisher : Option Notification.Publisher}
    {userID : Option String} {row : StatusRow} (bare : incident.statuses = [])
    (member : row ∈ (EventWrite.createEvent publisher incident userID).updates choice fresh) :
    row.createdBy = userID ∧ row.modifiedBy = none := by
  rw [EventWrite.updates, bare] at member
  rw [List.mem_singleton.mp member]
  exact ⟨rfl, rfl⟩

/-- Taking components out of an incident is the server's doing. -/
theorem author_of_extracts {components : List Component} {impact : Int} {text : String}
    {description : Option String} {moved : List Component} {incOld : Incident}
    {value : Incident × Incident}
    (extracts : setting.Extracts activity current components old impact text description) :
    author activity (committed (.extractComponents moved incident incOld) value store final) =
      none := by
  cases extracts with
  | system => rw [author, if_neg (fun both => Bool.noConfusion both.2)]
  | request => rfl

/-- Every row a transaction adds names its author and nobody who changed it. -/
theorem added_names {fresh : Nat} {value : β} {row : StatusRow}
    (issued : setting.Issued deployment activity current statement)
    (added : row ∈ statement.updates choice fresh) :
    row.createdBy = author activity (committed statement value store final) ∧
      row.modifiedBy = none := by
  cases issued with
  | regularCreate regular =>
    have name := created_names rfl added
    rw [author, if_pos ⟨regular, rfl⟩]
    exact name
  | systemCreate names =>
    have name := created_names rfl added
    rw [author, if_neg (fun both => both.1 names.system)]
    exact name
  | extractSave | editText | reopen => cases added
  | regularMove regular valid names oldTracked newTracked oldSettled newSettled =>
      rw [author, if_neg (fun both => Bool.noConfusion both.2)]
      rcases List.mem_append.mp added with new | old
      · exact received_names newSettled row new
      · exact released_names oldSettled row old
  | systemMove names same sourceFound targetFound =>
    rcases sourceFound with ⟨_, _, _, _, sourceReading, _⟩
    rcases targetFound with ⟨_, _, _, _, targetReading, _⟩
    rw [author, if_neg (fun both => Bool.noConfusion both.2)]
    rcases List.mem_append.mp added with new | old
    · exact received_names (settled_of_reading targetReading) row new
    · exact released_names (settled_of_reading sourceReading) row old
  | systemAdd | systemRaise =>
    rw [author, if_neg (fun both => Bool.noConfusion both.2), List.mem_singleton.mp added]
    exact ⟨rfl, rfl⟩
  | extract extracts later inserted =>
    rw [author_of_extracts extracts]
    rcases List.mem_append.mp added with new | old
    · refine newStatusRows_names inserted.settled rfl ?_ row new
      intro status member
      rcases List.mem_map.mp member with ⟨component, _, rfl⟩
      exact ⟨rfl, rfl⟩
    · rw [dropIncidentComponents_fields] at old
      refine newStatusRows_names (settled_of_extracts extracts) rfl ?_ row old
      intro status member
      rcases List.mem_map.mp member with ⟨component, _, rfl⟩
      exact ⟨rfl, rfl⟩
  | systemMark type valid inserted =>
    rw [EventWrite.updates, newStatusRows_of_settled inserted.settled] at added
    cases added
  | patch bound fetched =>
    rcases fetched with ⟨_, _, _, _, reading⟩
    change row.createdBy = Caller.userID _ ∧ row.modifiedBy = none
    refine newStatusRows_names (settled_of_reading reading) rfl ?_ row added
    intro status member
    rw [List.mem_singleton.mp member]
    exact ⟨rfl, rfl⟩
  | checkMaintenance kept listed type submitted later fetched fixes =>
    rcases fetched with ⟨_, _, _, _, reading⟩
    exact completed_names (settled_of_reading reading)
      (completes_fixMntMissedStatuses fixes) row added
  | checkInfo type assumed kept reading later fixes =>
    exact completed_names (settled_of_reading reading)
      (completes_fixInfoMissedStatuses fixes) row added

/-! ## One transaction -/

/-- The update an update-text PATCH changes. -/
theorem textEdit_of_edits {update : IncidentStatus}
    (issued : setting.Issued deployment activity current statement)
    (edits : statement.edits = some update) :
    ∃ editor, ∀ value store final, textEdit activity (committed statement value store final) =
      some (update.id, editor) := by
  cases issued with
  | editText =>
    cases edits
    exact ⟨_, fun _ _ _ => rfl⟩
  | _ => cases edits

theorem attributed_of_issued {value : β}
    (issued : setting.Issued deployment activity current statement)
    (commits : statement.exec choice store = .ok (value, final)) :
    Attributed activity (committed statement value store final) := by
  cases edits : statement.edits with
  | none =>
    have grown := (exec_footprint commits).grown edits
    refine ⟨?_, ?_⟩
    · intro key row found
      refine ⟨row, ?_, rfl, rfl, fun _ => rfl⟩
      change final.statuses.get? key = some row
      rw [grown]
      exact SerialTable.get?_insertAll_of_get? _ found
    · intro key row absent found
      change final.statuses.get? key = some row at found
      rw [grown] at found
      rcases SerialTable.get?_insertAll_cases found with before | added
      · exact nomatch absent.symm.trans before
      · exact added_names issued added
  | some update =>
    rcases textEdit_of_edits issued edits with ⟨editor, edited⟩
    cases statement with
    | modifyEventUpdate =>
      cases edits
      rcases modifyEventUpdateTx_ok commits with ⟨row, found, rfl⟩
      refine ⟨?_, ?_⟩
      · intro key earlier present
        change store.statuses.get? key = some earlier at present
        by_cases here : key = update.id
        · subst here
          rw [found] at present
          cases present
          refine ⟨{ row with text := update.text, modifiedAt := some choice.now }, ?_, rfl, rfl,
            fun apart => absurd (edited _ _ _) (apart editor)⟩
          change (store.statuses.update _ _).get? _ = _
          rw [SerialTable.get?_update, if_pos rfl, found]
          rfl
        · refine ⟨earlier, ?_, rfl, rfl, fun _ => rfl⟩
          change (store.statuses.update _ _).get? _ = _
          rw [SerialTable.get?_update, if_neg here]
          exact present
      · intro key later absent present
        change store.statuses.get? key = none at absent
        change (store.statuses.update _ _).get? _ = _ at present
        rw [SerialTable.get?_update] at present
        split_ifs at present
        · rw [absent] at present
          cases present
        · rw [absent] at present
          cases present
    | _ => cases edits

/-- An operation that leaves the events alone attributes nothing. -/
theorem attributed_unaffected (activity : Activity) : Unaffected (Attributed activity) := by
  apply unaffected_of_quiet
  intro event quiet same
  refine ⟨?_, ?_⟩
  · intro key row found
    refine ⟨row, ?_, rfl, rfl, fun _ => rfl⟩
    rw [same.statuses]
    exact found
  · intro key row absent found
    rw [same.statuses, absent] at found
    cases found

/-! ## Whole runs -/

/-- Who changed the text of an update last, once an operation is done. -/
def laterEditor {ι : Type} (activities : ι → Activity) (key : Nat) (before : Option String)
    (entry : ι × DbEvent) : Option String :=
  match textEdit (activities entry.1) entry.2 with
  | some (edited, editor) => if edited = key then editor else before
  | none => before

/-- Who is stored as the last to have changed the text of an update. -/
def storedEditor (store : Store) (key : Nat) : Option String :=
  (store.statuses.get? key).bind StatusRow.modifiedBy

/-- Who changed the text of an update last in a run; before its first change
in the run, whoever is stored at its beginning. -/
def lastEditor {ι : Type} (activities : ι → Activity) (store : Store)
    (trace : List (ι × DbEvent)) (key : Nat) : Option String :=
  trace.foldl (laterEditor activities key) (storedEditor store key)

/-- No operation changes who is stored. -/
theorem Attributed.storedEditor_eq {event : DbEvent} (attributed : Attributed activity event)
    (key : Nat) :
    storedEditor event.before key = storedEditor event.after key := by
  unfold storedEditor
  cases before : event.before.statuses.get? key with
  | some row =>
    rcases attributed.kept key row before with ⟨later, found, _, same, _⟩
    rw [found]
    exact same.symm
  | none =>
    cases after : event.after.statuses.get? key with
    | none => rfl
    | some row => exact (attributed.added key row before after).2.symm

/-- Every row of a run names its author and only the edited row changes.  Who
edited it last is stored exactly if that is who was stored in the beginning. -/
theorem pool_audit {ι : Type} [DecidableEq ι] {deployment : Deployment}
    {activities : ι → Activity} {store final : Store} {trace : List (ι × DbEvent)}
    (pool : Pool deployment activities store trace final) :
    (∀ entry ∈ trace, Attributed (activities entry.1) entry.2) ∧
    ∀ key row, final.statuses.get? key = some row →
      (row.modifiedBy = lastEditor activities store trace key ↔
        lastEditor activities store trace key = storedEditor store key) := by
  have held := pool_guarantees pool (fun _ => Or.inr rfl) evolution (fun _ _ => True)
    (fun party => Attributed (activities party)) (fun party => attributed_unaffected _)
    (fun party _ statement choice value current next issued commits evolves _ _ =>
      ⟨evolves, attributed_of_issued issued commits⟩) trivial (fun _ _ => trivial)
  have attributed : ∀ entry ∈ trace, Attributed (activities entry.1) entry.2 :=
    fun entry member => (held.1 entry member).1
  refine ⟨attributed, ?_⟩
  intro key row found
  have same : storedEditor final key = storedEditor store key := by
    refine (pool.chained.invariant (fun later => storedEditor later key = storedEditor store key)
      rfl ?_).2
    intro event member before
    rcases List.mem_map.mp member with ⟨entry, listed, rfl⟩
    rw [← (attributed entry listed).storedEditor_eq key]
    exact before
  have stored : row.modifiedBy = storedEditor store key := by
    rw [← same]
    unfold storedEditor
    rw [found]
    rfl
  rw [stored]
  exact eq_comm

/-- An admin announces a maintenance; then a second request follows. -/
def announcedThen (second : Activity) (party : Nat) : Activity :=
  if party = 0 then .post .events anAdmin (maintenanceRequest 50 60) else second

def announcedRun (second : Activity) : List (Nat × DbEvent) × Store :=
  schedule database (fun party => (announcedThen second party).program quietDeployment)
    ((List.range 2).flatMap (fun party => List.replicate 20 (party, atTime 30))) (bareStore 1)

/-- The admin rewords the announcement, and no name is stored with the new text. -/
theorem pool_audit_unnamed :
    ¬ ∀ (trace : List (Nat × DbEvent)) (final : Store),
      Pool quietDeployment (announcedThen (.patchText anAdmin 1 0 "reworded")) (bareStore 1) trace
        final →
      ∀ key row, final.statuses.get? key = some row → row.modifiedBy =
        lastEditor (announcedThen (.patchText anAdmin 1 0 "reworded")) (bareStore 1) trace key := by
  intro named
  have pool := schedule_interleaving database
    (fun party => (announcedThen (.patchText anAdmin 1 0 "reworded") party).program quietDeployment)
    ((List.range 2).flatMap (fun party => List.replicate 20 (party, atTime 30))) (bareStore 1)
  have stored : ∃ row, (announcedRun (.patchText anAdmin 1 0 "reworded")).2.statuses.get? 1 =
      some row ∧ row.text = "reworded" ∧ row.modifiedBy = none ∧
      lastEditor (announcedThen (.patchText anAdmin 1 0 "reworded")) (bareStore 1)
        (announcedRun (.patchText anAdmin 1 0 "reworded")).1 1 = some "admin" :=
    ⟨_, by rfl, by decide +kernel, by decide +kernel, by decide +kernel⟩
  rcases stored with ⟨row, found, _, unnamed, editor⟩
  have equal := named _ _ pool 1 row found
  rw [unnamed] at equal
  exact nomatch equal.trans editor

/-- A cancellation: both updates carry the admin's name, and nobody edited them. -/
def cancellation : Activity :=
  .patch anAdmin 1 (statusPatch .cancelled 40 (some 2))

theorem pool_audit_cancelled :
    (announcedRun cancellation).2.statuses.rows.map (fun entry => entry.2.createdBy) =
      [some "admin", some "admin"] ∧
    ∀ entry ∈ (announcedRun cancellation).2.statuses.rows, entry.2.modifiedBy =
      lastEditor (announcedThen cancellation) (bareStore 1) (announcedRun cancellation).1
        entry.1 := by
  have pool : Pool quietDeployment (announcedThen cancellation) (bareStore 1)
      (announcedRun cancellation).1 (announcedRun cancellation).2 :=
    schedule_interleaving database _ _ _
  have unedited : ∀ entry ∈ (announcedRun cancellation).2.statuses.rows,
      lastEditor (announcedThen cancellation) (bareStore 1) (announcedRun cancellation).1 entry.1 =
        storedEditor (bareStore 1) entry.1 := by decide +kernel
  refine ⟨by decide +kernel, ?_⟩
  intro entry member
  exact ((pool_audit pool).2 entry.1 entry.2 (SerialTable.mem_rows.mp member)).mpr
    (unedited entry member)

end StatusDashboard.Properties
