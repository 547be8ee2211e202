import StatusDashboard.Process.Inversion
import StatusDashboard.Provenance.Alone
import StatusDashboard.Provenance.Revision

namespace StatusDashboard.Properties

open Event Storage Tables Handlers Process Provenance

/-!
# All or nothing

Each transaction has its whole effect or none, but a request may need several.
A creation stores the event and then moves components one by one, an extraction
stores the new incident before it moves the components, and reopening clears the
end date after the PATCH has been committed.  A request that fails in between
leaves what it has committed.
-/

/-! ## Creations -/

/-- Some event or update is stored that was not there before. -/
def Extends (start store : Store) : Prop :=
  (∃ id, start.incidents.get? id = none ∧ store.incidents.get? id ≠ none) ∨
    ∃ key, start.statuses.get? key = none ∧ store.statuses.get? key ≠ none

theorem Extends.evolves {start store later : Store} (extended : Extends start store)
    (evolves : Evolves store later) : Extends start later := by
  rcases extended with ⟨id, missing, present⟩ | ⟨key, missing, present⟩
  · rcases Option.ne_none_iff_exists'.mp present with ⟨row, found⟩
    rcases evolves.rows id row found with ⟨last, stored, _⟩
    exact Or.inl ⟨id, missing, by rw [stored]; exact Option.some_ne_none last⟩
  · rcases Option.ne_none_iff_exists'.mp present with ⟨row, found⟩
    rcases evolves.updates key row found with ⟨last, stored, _⟩
    exact Or.inr ⟨key, missing, by rw [stored]; exact Option.some_ne_none last⟩

theorem Extends.not_same {start store : Store} (extended : Extends start store) :
    ¬ SameEvents start store := by
  intro same
  rcases extended with ⟨id, missing, present⟩ | ⟨key, missing, present⟩
  · rw [same.incidents, missing] at present
    exact present rfl
  · rw [same.statuses, missing] at present
    exact present rfl

section Creation

variable {β : Type} {choice : Choice} {statement : EventWrite β} {value : β}
  {start store final : Store}

/-- What is missing later was missing before. -/
theorem missing_of_evolves {id : Nat} (evolves : Evolves start store)
    (missing : store.incidents.get? id = none) : start.incidents.get? id = none := by
  by_contra present
  rcases Option.ne_none_iff_exists'.mp present with ⟨row, found⟩
  rcases evolves.rows id row found with ⟨last, stored, _⟩
  rw [missing] at stored
  cases stored

/-- A transaction that inserts an event extends the store. -/
theorem extends_of_inserted {row : IncidentRow} (evolves : Evolves start store)
    (commits : statement.exec choice store = .ok (value, final))
    (inserted : statement.inserted choice = some row) : Extends start final := by
  have missing := SerialTable.get?_nextId store.incidents
  have stored := (exec_footprint commits).fresh _ missing
  rw [if_pos rfl, inserted] at stored
  exact Or.inl ⟨_, missing_of_evolves evolves missing, by rw [stored]; exact Option.some_ne_none row⟩

/-- So does one that adds an update. -/
theorem extends_of_updates (evolves : Evolves start store)
    (commits : statement.exec choice store = .ok (value, final)) (unedited : statement.edits = none)
    (adds : statement.updates choice store.incidents.nextId ≠ []) : Extends start final := by
  have grown := (exec_footprint commits).grown unedited
  cases added : statement.updates choice store.incidents.nextId with
  | nil => exact absurd added adds
  | cons first others =>
    have missing := SerialTable.get?_nextId store.statuses
    have stored : final.statuses.get? store.statuses.nextId = some first := by
      rw [grown, added]
      exact SerialTable.get?_insertAll_of_get? others (SerialTable.get?_insert_nextId _ first)
    refine Or.inr ⟨_, ?_, by rw [stored]; exact Option.some_ne_none first⟩
    by_contra present
    rcases Option.ne_none_iff_exists'.mp present with ⟨row, found⟩
    rcases evolves.updates _ row found with ⟨last, earlier, _⟩
    rw [missing] at earlier
    cases earlier

theorem newStatusRows_ne_nil {now : Time} {id : Nat} {statuses : List IncidentStatus}
    {status : IncidentStatus} (member : status ∈ statuses) (new : status.id = 0) :
    newStatusRows now id statuses ≠ [] := by
  unfold newStatusRows
  intro none
  have kept : status ∈ statuses.filter (fun status => status.id = 0) :=
    List.mem_filter.mpr ⟨member, by simp [new]⟩
  rw [List.map_eq_nil_iff.mp none] at kept
  cases kept

/-- Every write that a creation commits leaves something that was not there
when the request started. -/
theorem issued_extends {property : DbEvent → Prop} {unaffected : Unaffected property}
    {deployment : Deployment} {route : CreationRoute} {caller : Caller} {data : IncidentData}
    (issued : (alone (Evolves start) property unaffected).Issued deployment
      (.post route caller data) store statement)
    (commits : statement.exec choice store = .ok (value, final)) (evolves : Evolves start store) :
    Extends start final := by
  have received : ∀ (id : Nat) (timeNow : Time) (component : Component) (old new : Incident),
      newStatusRows choice.now id (receiveComponent timeNow component old new).statuses ≠ [] :=
    fun id timeNow component old new => newStatusRows_ne_nil
      (List.mem_append_right new.statuses List.mem_cons_self) rfl
  cases issued with
  | regularMove | systemMove =>
    refine extends_of_updates evolves commits rfl ?_
    rw [EventWrite.updates]
    exact List.append_ne_nil_of_left_ne_nil (received _ _ _ _ _) _
  | systemAdd | systemRaise => exact extends_of_updates evolves commits rfl (List.cons_ne_nil _ _)
  | extract extracts =>
    cases extracts with
    | system =>
      refine extends_of_updates evolves commits rfl
        (List.append_ne_nil_of_left_ne_nil ?_ _)
      exact newStatusRows_ne_nil (List.mem_append_right _ List.mem_cons_self) rfl
  | systemMark type valid inserted tracked fresh =>
    rename_i components incident timeNow description
    rcases fresh with ⟨before, reached, named⟩
    have missing := missing_of_evolves reached (SerialTable.get?_nextId before.incidents)
    rcases tracked.stored with ⟨row, found, _⟩
    have stored := (exec_footprint commits).rows incident.id row found
    refine Or.inl ⟨incident.id, by rw [named]; exact missing, ?_⟩
    rw [stored]
    exact Option.some_ne_none _
  | _ => exact extends_of_inserted evolves commits rfl

end Creation

/-- What an operation of a creation leaves, compared with the start. -/
structure Leaves (start : Store) (event : DbEvent) : Prop where
  evolves : Evolves event.before event.after
  commits : Commits event → Extends start event.after
  quiet : ¬ Commits event → SameEvents event.before event.after

theorem leaves_unaffected (start : Store) : Unaffected (Leaves start) :=
  unaffected_of_quiet fun _ quiet same =>
    ⟨evolves_of_sameEvents same, fun commits => absurd commits quiet, fun _ => same⟩

theorem creation_leaves {deployment : Deployment} {route : CreationRoute} {caller : Caller}
    {data : IncidentData} {store final : Store} {events : List DbEvent}
    {outcome : Except ApiError Response}
    (run : Run database (postEvent deployment route caller data) store events outcome final) :
    ∀ event ∈ events, Leaves store event := by
  have whole : Run database ((Activity.post route caller data).program deployment) store events
    outcome final := run
  refine (run_guarantees (leaves_unaffected store) ?_ ?_ whole (Evolves.refl store)).1
  · intro current next same evolves
    exact evolves.trans (evolves_of_sameEvents same)
  · intro β statement choice value current next issued commits evolves
    have step := alone_evolving.issued_evolves issued commits
    exact ⟨evolves.trans step, step, fun _ => issued_extends issued commits evolves,
      fun quiet => absurd trivial quiet⟩

/-- A creation that runs alone leaves the events, links and updates as they were
exactly if none of its transactions was committed.  So it is all or nothing for
an internal error that precedes its first commit, and for no other. -/
theorem creation_atomic {deployment : Deployment} {route : CreationRoute} {caller : Caller}
    {data : IncidentData} {store final : Store} {events : List DbEvent} {error : DbError}
    (run : Run database (postEvent deployment route caller data) store events
      (.error (.internal error)) final) :
    SameEvents store final ↔ ∀ event ∈ events, ¬ Commits event := by
  have held := creation_leaves run
  constructor
  · intro same event member commits
    have later := run.2.onward Evolves.refl (fun _ _ _ => Evolves.trans)
      (fun other listed => (held other listed).evolves) member
    exact (((held event member).commits commits).evolves later).not_same same
  · intro quiet
    exact run.2.relates SameEvents.refl (fun _ _ _ => SameEvents.trans)
      (fun event member => (held event member).quiet (quiet event member))

/-- An environment that fails every statement. -/
def outage : Choice := { now := 30, fault := true }

/-- A system creation for two components while the database is lost after some
operations. -/
def interruptedCreation (operations : Nat) :
    List DbEvent × Except ApiError Response × Store :=
  (postEvent quietDeployment .events anAdmin (incidentReport true [1, 2] 1)).follow database outage
    (List.replicate operations (atTime 30)) (bareStore 2)

/-- Lost between the two components, the incident of the first one stays. -/
theorem creation_atomic_fails :
    ¬ ∀ (events : List DbEvent) (error : DbError) (final : Store),
      Run database (postEvent quietDeployment .events anAdmin (incidentReport true [1, 2] 1))
        (bareStore 2) events (.error (.internal error)) final →
      SameEvents (bareStore 2) final := by
  intro atomic
  have run := Program.follow_run database outage (List.replicate 10 (atTime 30))
    (postEvent quietDeployment .events anAdmin (incidentReport true [1, 2] 1)) (bareStore 2)
  have failed : (interruptedCreation 10).2.1 = .error (.internal .driver) := by decide +kernel
  have changed : (interruptedCreation 10).2.2.incidents ≠ (bareStore 2).incidents := by
    decide +kernel
  exact changed (atomic _ _ _ (failed ▸ run)).incidents

theorem creation_atomic_refused :
    (interruptedCreation 9).2.1 = .error (.internal .driver) ∧
      ∀ event ∈ (interruptedCreation 9).1, ¬ Commits event := by
  have run := Program.follow_run database outage (List.replicate 9 (atTime 30))
    (postEvent quietDeployment .events anAdmin (incidentReport true [1, 2] 1)) (bareStore 2)
  have failed : (interruptedCreation 9).2.1 = .error (.internal .driver) := by decide +kernel
  have same : SameEvents (bareStore 2) (interruptedCreation 9).2.2 :=
    ⟨by decide +kernel, by decide +kernel, by decide +kernel, by decide +kernel⟩
  exact ⟨failed, (creation_atomic (failed ▸ run)).mp same⟩

/-! ## Single operations -/

section Operation

variable {β : Type} {store final : Store} {events : List DbEvent}

/-- A run of one transaction: it is refused and leaves the store, or commits. -/
theorem write_cases {statement : EventWrite β} {outcome : Except DbError β}
    (run : Run database (write statement) store events outcome final) :
    (∃ error, outcome = .error error ∧ events = [refused statement error store] ∧ final = store) ∨
      ∃ choice value, outcome = .ok value ∧ events = [committed statement value store final] ∧
        statement.exec choice store = .ok (value, final) := by
  rcases Run.perform_cases run with ⟨choice, later, rfl, remaining⟩
  rw [perform_write] at remaining
  unfold Machine.event
  rw [perform_write]
  rcases commit_cases choice (statement.exec choice) store with ⟨error, shape⟩ |
    ⟨value, next, commits, shape⟩
  · rw [shape] at remaining ⊢
    rcases Run.fail_cases remaining with ⟨rfl, rfl, rfl⟩
    exact Or.inl ⟨error, rfl, rfl, rfl⟩
  · rw [shape] at remaining ⊢
    rcases Run.done_cases remaining with ⟨rfl, rfl, rfl⟩
    exact Or.inr ⟨choice, value, rfl, rfl, commits⟩

theorem currentTime_cases {outcome : Except DbError Time}
    (run : Run database currentTime store events outcome final) :
    ∃ choice, outcome = .ok choice.now ∧ events = [database.event choice .now store] ∧
      final = store := by
  rcases Run.perform_cases run with ⟨choice, later, rfl, remaining⟩
  rcases Run.done_cases remaining with ⟨rfl, rfl, rfl⟩
  exact ⟨choice, rfl, rfl, rfl⟩

end Operation

/-! ## Extractions -/

/-- The whole effect of moving components into a new incident: it is stored and
open, it has the components and the old one has not, both histories tell of each
component, and nothing else is changed. -/
structure Extracted (system : Bool) (components : List Component) (old created : Nat)
    (store final : Store) : Prop where
  fresh : store.incidents.get? created = none
  opened : ∃ row, final.incidents.get? created = some row ∧ row.type = .incident ∧
    row.endDate = none ∧ row.system = system
  received : ∀ component ∈ components, component.id ≠ 0 →
    component.id ∈ final.componentIds created
  released : ∀ component ∈ components, component.id ∉ final.componentIds old
  others : ∀ id, id ≠ created → id ≠ old →
    final.incidents.get? id = store.incidents.get? id ∧
      ∀ other, other ∈ final.componentIds id ↔ other ∈ store.componentIds id
  updates : ∃ added : List StatusRow, final.statuses = store.statuses.insertAll added ∧
    added.map StatusRow.incidentId =
      components.map (fun _ => created) ++ components.map (fun _ => old)

section Extraction

variable {choice : Choice} {components : List Component} {old saved : Incident}
  {timeNow : Time} {impact : Int} {text : String} {description : Option String}
  {store middle final : Store}

/-- The updates appended to a settled history belong to its event. -/
theorem appended_owners {now : Time} {id : Nat} {statuses : List IncidentStatus}
    {appended : Component → IncidentStatus} (settled : ∀ status ∈ statuses, status.id ≠ 0)
    (new : ∀ component, (appended component).id = 0 ∧ (appended component).incidentId = id) :
    (newStatusRows now id (statuses ++ components.map appended)).map StatusRow.incidentId =
      components.map (fun _ => id) := by
  rw [newStatusRows_appended settled (fun component => (new component).1), List.map_map]
  apply List.map_congr_left
  intro component _
  change (if (appended component).incidentId = 0 then id else (appended component).incidentId) = id
  rw [(new component).2, ite_self]

/-- The two transactions of an extraction together have the whole effect. -/
theorem extracted_of_commits {copies : Incident × Incident} {saving moving : Choice}
    (present : store.incidents.get? old.id ≠ none) (settled : Settled old)
    (saves : (EventWrite.saveIncident
      (extractedIncident timeNow components impact text description)).exec saving store =
      .ok (saved, middle))
    (moves : (extractStatement timeNow components old saved).exec moving middle =
      .ok (copies, final)) :
    Extracted false components old.id saved.id store final := by
  have first := exec_footprint saves
  have second := exec_footprint moves
  have missing := SerialTable.get?_nextId store.incidents
  rcases saved_row saves with ⟨named, _, _, _, sameComponents, storedRow⟩
  rcases saveIncidentTx_ok saves with ⟨inserted, statuses, savedSettled, shape⟩
  have apart : old.id ≠ saved.id := by
    intro same
    rw [same, named] at present
    exact present missing
  have settledSaved : ∀ status ∈ saved.statuses, status.id ≠ 0 := by
    rw [shape]
    exact savedSettled
  have source : (extractedSource timeNow components old saved).id = old.id :=
    dropIncidentComponents_id _ _
  have givesUp : (extractionSource timeNow components
    (extractionTarget timeNow components old saved) old).id = old.id := rfl
  have takes : (extractionTarget timeNow components old saved).id = saved.id := rfl
  refine ⟨by rw [named]; exact missing, ⟨_, second.rows _ _ storedRow, ?_⟩, ?_, ?_, ?_, ?_⟩
  · rw [EventWrite.rewritten, ← takes, writtenRow_first (by rw [source]; exact apart), shape]
    exact ⟨rfl, rfl, rfl⟩
  · intro component member nonzero
    rw [second.linked, EventWrite.links, givesUp, takes, if_neg (Ne.symm apart), if_pos rfl,
      mem_wantedIds]
    refine ⟨?_, nonzero⟩
    change component.id ∈ saved.components.map Component.id
    rw [sameComponents]
    exact List.mem_map_of_mem member
  · intro component member
    rw [second.linked, EventWrite.links, givesUp, if_pos rfl, mem_dropIncidentComponents]
    exact fun held => held.2 (List.mem_map_of_mem member)
  · intro id notNew notOld
    have untouched : id ∉ EventWrite.targets (extractStatement timeNow components old saved) := by
      simp [EventWrite.targets, extractionTarget, extractionSource, notNew, notOld]
    constructor
    · cases found : store.incidents.get? id with
      | none =>
        have between := first.fresh id found
        rw [if_neg (named ▸ notNew)] at between
        rw [second.fresh id between]
        split_ifs <;> rfl
      | some row =>
        rw [second.rows id row (first.rows id row found),
          EventWrite.rewritten_of_not_target untouched]
    · intro other
      rw [second.linked, EventWrite.links, givesUp, takes, if_neg notOld, if_neg notNew,
        inserted.linked]
      constructor
      · rintro (stored | ⟨same, _⟩)
        · exact stored
        · exact absurd (same.trans named.symm) notNew
      · exact Or.inl
  · have nothing : newStatusRows saving.now store.incidents.nextId
        (extractedIncident timeNow components impact text description).statuses = [] := rfl
    have grown := second.grown rfl
    rw [inserted.statuses, nothing] at grown
    refine ⟨_, grown, ?_⟩
    rw [EventWrite.updates, List.map_append]
    refine congrArg₂ _ (appended_owners settledSaved fun _ => ⟨rfl, rfl⟩) ?_
    rw [dropIncidentComponents_fields]
    exact appended_owners settled fun _ => ⟨rfl, rfl⟩

/-- Marking the new incident adds the flag to that effect. -/
theorem extracted_of_mark {created marked : Incident}
    (extracted : Extracted false components old.id created.id store middle)
    (type : created.type = .incident) (ongoing : created.endDate = none) (settled : Settled created)
    (marks : (EventWrite.modifyIncident { created with system := true }).exec choice middle =
      .ok (marked, final)) : Extracted true components old.id created.id store final := by
  have footprint := exec_footprint marks
  rcases extracted.opened with ⟨row, found, _, ongoingRow, _⟩
  have links : ∀ id other, other ∈ final.componentIds id ↔ other ∈ middle.componentIds id :=
    fun id other => footprint.linked id other
  have untouched : ∀ id, id ≠ created.id → final.incidents.get? id = middle.incidents.get? id := by
    intro id different
    cases present : middle.incidents.get? id with
    | none =>
      rw [footprint.fresh id present]
      split_ifs <;> rfl
    | some other =>
      rw [footprint.rows id other present]
      exact congrArg some (if_neg different)
  refine ⟨extracted.fresh, ⟨_, footprint.rows _ row found, ?_⟩, ?_, ?_, ?_, ?_⟩
  · have written := rewritten_of_modifies
      (show (EventWrite.modifyIncident { created with system := true }).modifies = some _ from rfl)
      choice row
    rw [written]
    refine ⟨type, ?_, rfl⟩
    change created.endDate.or row.endDate = none
    rw [ongoing, ongoingRow]
    rfl
  · intro component member nonzero
    rw [links]
    exact extracted.received component member nonzero
  · intro component member
    rw [links]
    exact extracted.released component member
  · intro id notNew notOld
    rcases extracted.others id notNew notOld with ⟨same, held⟩
    exact ⟨(untouched id notNew).trans same, fun other => (links id other).trans (held other)⟩
  · rcases extracted.updates with ⟨added, grown, owners⟩
    refine ⟨added, ?_, owners⟩
    have nothing : newStatusRows choice.now created.id created.statuses = [] :=
      newStatusRows_of_settled settled
    rw [footprint.grown rfl, grown, EventWrite.updates]
    exact congrArg (SerialTable.insertAll _) nothing

end Extraction

/-- A run either has an effect or ends with an error; the error leaves the events
as they were exactly if nothing was committed. -/
def AllOrNothing (effect : Incident → Prop) (store final : Store) (events : List DbEvent) :
    Except DbError Incident → Prop
  | .ok incident => effect incident
  | .error _ => SameEvents store final ↔ ∀ event ∈ events, ¬ Commits event

section Runs

variable {components : List Component} {old : Incident} {impact : Int} {text : String}
  {description : Option String} {store final : Store} {events : List DbEvent}

variable {outcome : Except DbError Incident}

theorem allOrNothing_of_commit {effect : Incident → Prop} {event : DbEvent}
    (changed : ¬ SameEvents store final) (member : event ∈ events) (commits : Commits event)
    (succeeds : ∀ incident, outcome = .ok incident → effect incident) :
    AllOrNothing effect store final events outcome := by
  cases outcome with
  | ok incident => exact succeeds incident rfl
  | error =>
    exact ⟨fun same => absurd same changed, fun quiet => absurd commits (quiet event member)⟩

/-- How a run of an extraction can end: before its first commit, between its two
transactions, or with both. -/
theorem extraction_cases (present : store.incidents.get? old.id ≠ none) (settled : Settled old)
    (run : Run database (extractComponentsToNewIncident components old impact text description)
      store events outcome final) :
    (∃ error, outcome = .error error ∧ final = store ∧ ∀ event ∈ events, ¬ Commits event) ∨
    (∃ error, outcome = .error error ∧ Extends store final ∧ ∃ event ∈ events, Commits event) ∨
    ∃ created, outcome = .ok created ∧ Extracted false components old.id created.id store final ∧
      created.type = .incident ∧ created.endDate = none ∧ Settled created ∧
      ∃ event ∈ events, Commits event := by
  unfold extractComponentsToNewIncident at run
  split_ifs at run with none
  · rcases Run.fail_cases run with ⟨rfl, rfl, rfl⟩
    exact Or.inl ⟨_, rfl, rfl, List.forall_mem_nil _⟩
  · rcases Run.bind_cases run with ⟨error, _, timed⟩ |
      ⟨timeNow, before, rest, clocked, rfl, timed, saveRun⟩
    · rcases currentTime_cases timed with ⟨_, impossible, _⟩
      cases impossible
    rcases currentTime_cases timed with ⟨clock, _, rfl, rfl⟩
    rcases Run.bind_cases saveRun with ⟨error, rfl, saving⟩ |
      ⟨saved, first, second, middle, rfl, saving, moveRun⟩
    · rcases write_cases saving with ⟨_, same, rfl, rfl⟩ | ⟨_, _, impossible, _⟩
      · refine Or.inl ⟨error, rfl, rfl, ?_⟩
        intro event member
        simp only [List.cons_append, List.nil_append, List.mem_cons, List.not_mem_nil,
          or_false] at member
        rcases member with rfl | rfl <;> exact id
      · cases impossible
    rcases write_cases saving with ⟨_, impossible, _⟩ | ⟨savingChoice, _, same, rfl, saves⟩
    · cases impossible
    cases same
    have extended : Extends clocked middle :=
      extends_of_inserted (Evolves.refl clocked) saves rfl
    have listed : ∀ others, committed (EventWrite.saveIncident
        (extractedIncident timeNow components impact text description)) saved clocked middle ∈
        [database.event clock .now clocked] ++ ([committed (EventWrite.saveIncident
          (extractedIncident timeNow components impact text description)) saved clocked middle] ++
          others) := fun others => List.mem_cons_of_mem _ List.mem_cons_self
    rcases Run.bind_cases moveRun with ⟨error, rfl, moving⟩ |
      ⟨copies, third, fourth, moved, rfl, moving, finish⟩
    · rcases write_cases moving with ⟨_, _, rfl, rfl⟩ | ⟨_, _, impossible, _⟩
      · exact Or.inr (Or.inl ⟨error, rfl, extended, _, listed _, trivial⟩)
      · cases impossible
    rcases write_cases moving with ⟨_, impossible, _⟩ | ⟨movingChoice, _, same, rfl, moves⟩
    · cases impossible
    cases same
    rcases Run.done_cases finish with ⟨rfl, rfl, rfl⟩
    rcases saveIncidentTx_ok saves with ⟨_, _, _, savedShape⟩
    rcases extractComponentsTx_ok moves with ⟨_, statuses, newSettled, shape⟩
    have extracted := extracted_of_commits present settled saves moves
    refine Or.inr (Or.inr ⟨copies.2, rfl, ?_, ?_, ?_, ?_, _, listed _, trivial⟩)
    · rw [shape]
      exact extracted
    · rw [shape, savedShape]
      rfl
    · rw [shape, savedShape]
      rfl
    · rw [shape]
      exact newSettled

/-- An incident that is stored, as a request loads it. -/
theorem settled_storedCopy {id : Nat} {row : IncidentRow}
    (found : store.incidents.get? id = some row) : Settled (storedCopy store (id, row)) :=
  have reading : Reading Eq linkedComponents (storedCopy store (id, row)) row store store :=
    ⟨found, store, store, rfl, rfl, rfl, rfl⟩
  settled_of_reading reading

theorem Extracted.changed {system : Bool} {holder created : Nat}
    (extracted : Extracted system components holder created store final) :
    ¬ SameEvents store final := by
  intro same
  rcases extracted.opened with ⟨row, found, _⟩
  rw [same.incidents, extracted.fresh] at found
  cases found

theorem extraction_allOrNothing (present : store.incidents.get? old.id ≠ none)
    (settled : Settled old)
    (run : Run database (extractComponentsToNewIncident components old impact text description)
      store events outcome final) :
    AllOrNothing (fun created => Extracted false components old.id created.id store final)
      store final events outcome := by
  rcases extraction_cases present settled run with ⟨error, rfl, rfl, quiet⟩ |
    ⟨error, rfl, extended, event, member, commits⟩ |
    ⟨created, rfl, extracted, _⟩
  · exact ⟨fun _ => quiet, fun _ => SameEvents.refl final⟩
  · exact allOrNothing_of_commit extended.not_same member commits (fun _ ok => by cases ok)
  · exact extracted

theorem systemExtraction_allOrNothing (present : store.incidents.get? old.id ≠ none)
    (settled : Settled old)
    (run : Run database (extractToSystemIncident components old impact text description)
      store events outcome final) :
    AllOrNothing (fun created => Extracted true components old.id created.id store final)
      store final events outcome := by
  rcases Run.bind_cases run with ⟨error, rfl, failed⟩ |
    ⟨created, first, second, middle, rfl, passed, marking⟩
  · exact extraction_allOrNothing present settled failed
  · rcases extraction_cases present settled passed with ⟨_, impossible, _⟩ |
      ⟨_, impossible, _⟩ | ⟨_, same, extracted, type, ongoing, settledNew, event, member, commits⟩
    · cases impossible
    · cases impossible
    cases same
    have listed : event ∈ first ++ second := List.mem_append_left second member
    rcases write_cases marking with ⟨error, rfl, rfl, rfl⟩ | ⟨choice, marked, rfl, rfl, marks⟩
    · exact allOrNothing_of_commit extracted.changed listed commits (fun _ ok => by cases ok)
    · rcases modifyIncident_ok marks with ⟨_, _, _, _, shape⟩
      have sameId : marked.id = created.id := by rw [shape]
      have effect := extracted_of_mark extracted type ongoing settledNew marks
      rw [← sameId] at effect
      exact effect

end Runs

variable {id : Nat} {store final : Store} {events : List DbEvent} {deployment : Deployment}
variable {caller : Caller} {data : PatchIncidentData}

/-- An extraction from a stored incident, on request or by the system path,
has its whole effect when it succeeds.  When it fails, the events, links and
updates are as before exactly if none of its transactions was committed. -/
theorem extraction_atomic {components : List Component} {impact : Int} {text : String}
    {description : Option String} {store : Store} {id : Nat} {row : IncidentRow}
    (found : store.incidents.get? id = some row) :
    (∀ (events : List DbEvent) (outcome : Except DbError Incident) (final : Store),
      Run database (extractComponentsToNewIncident components (storedCopy store (id, row)) impact
        text description) store events outcome final →
      AllOrNothing (fun created => Extracted false components id created.id store final)
        store final events outcome) ∧
    (∀ (events : List DbEvent) (outcome : Except DbError Incident) (final : Store),
      Run database (extractToSystemIncident components (storedCopy store (id, row)) impact
        text description) store events outcome final →
      AllOrNothing (fun created => Extracted true components id created.id store final)
        store final events outcome) := by
  have present : store.incidents.get? (storedCopy store (id, row)).id ≠ none := by
    change store.incidents.get? id ≠ none
    rw [found]
    exact Option.some_ne_none row
  have settled := settled_storedCopy found
  exact ⟨fun events outcome final run => extraction_allOrNothing present settled run,
    fun events outcome final run => systemExtraction_allOrNothing present settled run⟩

/-- An open incident of two components. -/
def pairedStore : Store :=
  (replay quietDeployment [(.post .events anAdmin (incidentReport false [1, 2] 1), atTime 10)]
    (bareStore 2)).2

/-- Extracting the second component while the database is lost after some
operations. -/
def interruptedExtraction (row : IncidentRow) (operations : Nat) :
    List DbEvent × Except DbError Incident × Store :=
  (extractComponentsToNewIncident [{ id := 2, name := "component", attrs := [] }]
    (storedCopy pairedStore (1, row)) 1 "Incident" none).follow database outage
    (List.replicate operations (atTime 30)) pairedStore

/-- Lost between the two transactions, the component is in both incidents. -/
theorem extraction_atomic_fails :
    ¬ ∀ row ∈ pairedStore.incidents.get? 1,
      ∀ (events : List DbEvent) (error : DbError) (final : Store),
      Run database (extractComponentsToNewIncident [{ id := 2, name := "component", attrs := [] }]
        (storedCopy pairedStore (1, row)) 1 "Incident" none) pairedStore events (.error error)
        final →
      SameEvents pairedStore final ∧ ¬ (2 ∈ final.componentIds 1 ∧ 2 ∈ final.componentIds 2) := by
  intro atomic
  have halfway : ∃ row ∈ pairedStore.incidents.get? 1,
      (interruptedExtraction row 2).2.1 = .error .driver ∧
        2 ∈ (interruptedExtraction row 2).2.2.componentIds 1 ∧
        2 ∈ (interruptedExtraction row 2).2.2.componentIds 2 := by
    decide +kernel
  rcases halfway with ⟨row, found, failed, inOld, inNew⟩
  have run := Program.follow_run database outage (List.replicate 2 (atTime 30))
    (extractComponentsToNewIncident [{ id := 2, name := "component", attrs := [] }]
      (storedCopy pairedStore (1, row)) 1 "Incident" none) pairedStore
  exact (atomic row found _ _ _ (failed ▸ run)).2 ⟨inOld, inNew⟩

theorem extraction_atomic_completed :
    ∃ row created, pairedStore.incidents.get? 1 = some row ∧
      (interruptedExtraction row 3).2.1 = .ok created ∧
      Extracted false [{ id := 2, name := "component", attrs := [] }] 1 created.id pairedStore
        (interruptedExtraction row 3).2.2 := by
  have completed : ∃ row ∈ pairedStore.incidents.get? 1,
      (interruptedExtraction row 3).2.1.toOption.isSome = true := by
    decide +kernel
  rcases completed with ⟨row, found, succeeds⟩
  have run := Program.follow_run database outage (List.replicate 3 (atTime 30))
    (extractComponentsToNewIncident [{ id := 2, name := "component", attrs := [] }]
      (storedCopy pairedStore (1, row)) 1 "Incident" none) pairedStore
  cases outcome : (interruptedExtraction row 3).2.1 with
  | error =>
    rw [outcome] at succeeds
    cases succeeds
  | ok created =>
    have atomic := (extraction_atomic found).1 _ _ _ run
    have reached : (interruptedExtraction row 3).2.1 = .ok created := outcome
    unfold interruptedExtraction at reached
    rw [reached] at atomic
    exact ⟨row, created, found, outcome, atomic⟩

/-! ## Changes -/

/-- Everything a PATCH does before it reads the event for its answer. -/
def patchBeforeRead (deployment : Deployment) (caller : Caller) (id : Nat)
    (data : PatchIncidentData) : Handler Incident := do
  rbacAuthorization caller
  denyReporterScope caller
  let stored ← checkEventExistence id
  if data.bound = false then
    .fail (.badRequest .invalidBody)
  else if stored.type = .maintenance ∧ data.version = none then
    .fail (.badRequest .versionRequired)
  else
    match prepareIncidentPatch caller stored data with
    | some error => .fail error
    | none =>
      let _ ← persistIncidentPatch deployment (patchedIncident data caller.userID stored)
        stored.status caller.userID
      reopenIncident stored data.status
      pure stored

theorem patchEvent_eq (deployment : Deployment) (caller : Caller) (id : Nat)
    (data : PatchIncidentData) :
    patchEvent deployment caller id data = (do
      let stored ← patchBeforeRead deployment caller id data
      let incident ← internalOnError (getIncident stored.id)
      pure (.event incident)) := by
  unfold patchEvent patchBeforeRead patchIncidentHandler
  simp only [Program.bind_assoc]
  congr 1
  funext _
  congr 1
  funext _
  congr 1
  funext stored
  split_ifs
  · rfl
  · rfl
  · cases prepareIncidentPatch caller stored data with
    | some => rfl
    | none =>
      simp only [Program.bind_assoc]
      rfl

/-- Reading with nobody else around: nothing is attempted but reads. -/
def readingAlone : Discipline where
  rely := Eq
  assume _ := True
  guarantee event := event.operation.silent = true ∧ event.after = event.before
  always _ := True
  preorder := eq_preorder
  keeps _ _ := trivial
  steps _ _ _ _ _ _ := trivial
  silent choice _ store silent := ⟨silent, perform_silent choice silent store⟩

theorem checkEventExistence_cases {outcome : Except ApiError Incident}
    (run : Run database (checkEventExistence id) store events outcome final) :
    store = final ∧ (∀ event ∈ events, event.operation.silent = true) ∧
      ∀ copy, outcome = .ok copy → ∃ row, store.incidents.get? id = some row ∧
        copy = storedCopy store (id, row) := by
  have yields : readingAlone.Yields
      (fun copy later => ∃ row first, readingAlone.Fetched id copy row store first later)
      (checkEventExistence id) store := by
    unfold checkEventExistence
    split_ifs
    · exact Regime.yields_fail _
    · exact (readingAlone.yields_getIncident id store).mapError
  have held := (yields trivial).run run (fun _ _ => trivial)
  have same : store = final := run.2.relates (fun _ => rfl) (fun _ _ _ => Eq.trans)
    (fun event member => (held.1 event member).2.symm)
  refine ⟨same, fun event member => (held.1 event member).1, ?_⟩
  intro copy succeeds
  rcases held.2.2 copy succeeds with ⟨row, first, rfl, _, _, _, reading⟩
  rcases reading.alone with ⟨_, found, shape⟩
  subst same
  exact ⟨row, found, shape⟩

theorem unless_cases {condition : Prop} [Decidable condition] {error : ApiError}
    {outcome : Except ApiError Unit}
    (run : Run database (if condition then .fail error else pure ()) store events outcome final) :
    events = [] ∧ store = final := by
  split_ifs at run
  · rcases Run.fail_cases run with ⟨none, _, same⟩
    exact ⟨none, same.symm⟩
  · rcases Run.done_cases run with ⟨none, _, same⟩
    exact ⟨none, same.symm⟩

theorem not_commits_of_silent {event : DbEvent} (silent : event.operation.silent = true) :
    ¬ Commits event := by
  rcases event with ⟨operation, result, before, after⟩
  cases operation with
  | write => cases silent
  | _ => exact id

/-- A committed PATCH stores an update that was not there before. -/
theorem extends_of_patch {row : IncidentRow} {choice : Choice} {patched : Incident}
    (found : store.incidents.get? id = some row)
    (commits : (EventWrite.persistPatch deployment.publisher
      (patchedIncident data caller.userID (storedCopy store (id, row)))
      (storedCopy store (id, row)).status caller.userID).exec choice store = .ok (patched, final)) :
    Extends store final := by
  apply extends_of_updates (Evolves.refl store) commits rfl
  rcases patched_updates (settled_storedCopy found) choice.now data caller.userID with
    ⟨update, added, _⟩
  rw [EventWrite.updates, added]
  exact List.cons_ne_nil update []

/-- How a PATCH fails before its last read: with nothing committed, or, when it
reopens an incident, with the patch committed and the end date still there. -/
theorem patch_failure {error : ApiError}
    (run : Run database (patchBeforeRead deployment caller id data) store events (.error error)
      final) :
    (final = store ∧ ∀ event ∈ events, ¬ Commits event) ∨
      (data.status = .reopened ∧ Extends store final ∧ ∃ event ∈ events, Commits event) := by
  have silentEvents : ∀ {reads : List DbEvent},
      (∀ event ∈ reads, event.operation.silent = true) → ∀ event ∈ reads, ¬ Commits event :=
    fun silent event member => not_commits_of_silent (silent event member)
  rcases Run.bind_cases run with ⟨_, _, failed⟩ | ⟨_, _, _, _, rfl, passed, scopeRun⟩
  · rcases unless_cases failed with ⟨rfl, rfl⟩
    exact Or.inl ⟨rfl, List.forall_mem_nil _⟩
  rcases unless_cases passed with ⟨rfl, rfl⟩
  rcases Run.bind_cases scopeRun with ⟨_, _, failed⟩ | ⟨_, _, _, _, rfl, admitted, loadRun⟩
  · rcases unless_cases failed with ⟨rfl, rfl⟩
    exact Or.inl ⟨rfl, List.forall_mem_nil _⟩
  rcases unless_cases admitted with ⟨rfl, rfl⟩
  rcases Run.bind_cases loadRun with ⟨_, _, failed⟩ | ⟨stored, reads, rest, _, rfl, loaded, changeRun⟩
  · rcases checkEventExistence_cases failed with ⟨rfl, silent, _⟩
    exact Or.inl ⟨rfl, silentEvents silent⟩
  rcases checkEventExistence_cases loaded with ⟨rfl, silent, copies⟩
  rcases copies stored rfl with ⟨row, found, rfl⟩
  have refusal : ∀ {other : ApiError}, Run database (.fail other : Handler Incident) store rest
      (.error error) final →
      final = store ∧ ∀ event ∈ reads ++ rest, ¬ Commits event := by
    intro other stopped
    rcases Run.fail_cases stopped with ⟨rfl, _, rfl⟩
    rw [List.append_nil]
    exact ⟨rfl, silentEvents silent⟩
  split_ifs at changeRun
  · exact Or.inl (refusal changeRun)
  · exact Or.inl (refusal changeRun)
  cases allowed : prepareIncidentPatch caller (storedCopy store (id, row)) data with
  | some =>
    rw [allowed] at changeRun
    exact Or.inl (refusal changeRun)
  | none =>
    rw [allowed] at changeRun
    rcases Run.bind_cases changeRun with ⟨_, _, failed⟩ |
      ⟨patched, first, second, middle, rfl, persisted, reopenRun⟩
    · rcases Run.mapError_cases failed with ⟨inner, renamed, writing⟩
      rcases write_cases writing with ⟨_, rfl, rfl, rfl⟩ | ⟨_, _, rfl, _⟩
      · refine Or.inl ⟨rfl, ?_⟩
        intro event member
        rw [List.nil_append, List.nil_append] at member
        rcases List.mem_append.mp member with read | refusedWrite
        · exact silentEvents silent event read
        · rw [List.mem_singleton.mp refusedWrite]
          exact fun impossible => impossible
      · cases renamed
    rcases Run.mapError_cases persisted with ⟨inner, renamed, writing⟩
    rcases write_cases writing with ⟨_, rfl, _⟩ | ⟨choice, value, rfl, rfl, commits⟩
    · cases renamed
    rcases Run.bind_cases reopenRun with ⟨_, _, failed⟩ | ⟨_, _, _, _, _, _, finish⟩
    · unfold reopenIncident at failed
      split_ifs at failed with reopened
      · rcases Run.mapError_cases failed with ⟨inner, other, clearing⟩
        rcases write_cases clearing with ⟨_, rfl, rfl, rfl⟩ | ⟨_, _, rfl, _⟩
        · refine Or.inr ⟨reopened, extends_of_patch found commits, _,
            List.mem_append_right reads List.mem_cons_self, trivial⟩
        · cases other
      · rcases Run.done_cases failed with ⟨_, impossible, _⟩
        cases impossible
    · rcases Run.done_cases finish with ⟨_, impossible, _⟩
      cases impossible

/-- No event has the status of a reopened incident together with an end date. -/
def NoneHalfOpen (store : Store) : Prop :=
  ∀ entry ∈ store.incidents.rows, entry.2.status = some .reopened → entry.2.endDate = none

instance (store : Store) : Decidable (NoneHalfOpen store) :=
  inferInstanceAs (Decidable (∀ entry ∈ store.incidents.rows, _))

theorem noneHalfOpen_iff :
    NoneHalfOpen store ↔ ∀ id row, store.incidents.get? id = some row →
      row.status = some .reopened → row.endDate = none := by
  constructor
  · intro none id row found
    exact none (id, row) (SerialTable.mem_rows.mpr found)
  · rintro none ⟨id, row⟩ member
    exact none id row (SerialTable.mem_rows.mp member)

theorem noneHalfOpen_of_sameEvents (same : SameEvents store final) (none : NoneHalfOpen store) :
    NoneHalfOpen final := by
  unfold NoneHalfOpen
  rw [same.incidents]
  exact none

/-- A PATCH with another status than reopened leaves no event half open. -/
theorem patch_noneHalfOpen {outcome : Except ApiError Response} (plain : data.status ≠ .reopened)
    (run : Run database (patchEvent deployment caller id data) store events outcome final)
    (start : NoneHalfOpen store) : ∀ event ∈ events, NoneHalfOpen event.after := by
  have whole : Run database ((Activity.patch caller id data).program deployment) store events
    outcome final := run
  have unaffected : Unaffected (fun event => NoneHalfOpen event.before →
      NoneHalfOpen event.after) :=
    unaffected_of_quiet fun _ _ same => noneHalfOpen_of_sameEvents same
  have steps : ∀ event ∈ events, NoneHalfOpen event.before → NoneHalfOpen event.after := by
    refine (run_guarantees unaffected noneHalfOpen_of_sameEvents ?_ whole start).1
    intro β statement choice value current next issued commits held
    have kept : NoneHalfOpen next := by
      have footprint := exec_footprint commits
      cases issued with
      | patch bound fetched versioned allowed =>
        rename_i copy row before first
        rw [noneHalfOpen_iff] at held ⊢
        intro other last present reopened
        cases found : current.incidents.get? other with
        | none =>
          rw [footprint.fresh other found] at present
          split_ifs at present
          cases present
        | some old =>
          rw [footprint.rows other old found] at present
          cases present
          by_cases here : other = (patchedIncident data caller.userID copy).id
          · subst here
            rw [rewritten_of_modifies rfl, patched_status bound] at reopened
            exact absurd (Option.some.inj reopened) plain
          · have untouched : other ∉ EventWrite.targets (.persistPatch deployment.publisher
                (patchedIncident data caller.userID copy) copy.status caller.userID) := by
              simpa [EventWrite.targets] using here
            rw [EventWrite.rewritten_of_not_target untouched] at reopened ⊢
            exact held other old found reopened
      | reopen status => exact absurd status plain
      | extractSave extracts => cases extracts
      | extract extracts => cases extracts
    exact ⟨kept, fun _ => kept⟩
  exact fun event member => ((run.2.invariant NoneHalfOpen start steps).1 event member).2

/-- A PATCH that fails before its last read leaves the store as it was, unless it
reopens an incident and its first transaction was committed.  With any other
status it also never passes through a state with a half open event. -/
theorem patch_atomic (deployment : Deployment) (caller : Caller) (id : Nat)
    (data : PatchIncidentData) (store : Store) :
    (∀ (events : List DbEvent) (error : ApiError) (final : Store),
      Run database (patchBeforeRead deployment caller id data) store events (.error error) final →
      Run database (patchEvent deployment caller id data) store events (.error error) final ∧
        (final = store ↔ data.status ≠ .reopened ∨ ∀ event ∈ events, ¬ Commits event)) ∧
    (data.status ≠ .reopened → NoneHalfOpen store →
      ∀ (events : List DbEvent) (outcome : Except ApiError Response) (final : Store),
        Run database (patchEvent deployment caller id data) store events outcome final →
        ∀ event ∈ events, NoneHalfOpen event.after) := by
  constructor
  · intro events error final run
    refine ⟨by rw [patchEvent_eq]; exact run.bind_error _, ?_⟩
    rcases patch_failure run with ⟨same, quiet⟩ | ⟨reopened, extended, event, member, commits⟩
    · exact ⟨fun _ => Or.inr quiet, fun _ => same⟩
    · constructor
      · rintro rfl
        exact absurd (SameEvents.refl final) extended.not_same
      · rintro (plain | quiet)
        · exact absurd reopened plain
        · exact absurd commits (quiet event member)
  · intro plain start events outcome final run
    exact patch_noneHalfOpen plain run start

/-- An incident that was resolved. -/
def resolvedStore : Store :=
  (replay quietDeployment
    [(.post .events anAdmin (incidentReport false [1] 1), atTime 10),
     (.patch anAdmin 1 (statusPatch .resolved 20 none), atTime 20)] (bareStore 1)).2

/-- A PATCH of it while the database is lost after some operations. -/
def interruptedPatch (status : Status) (operations : Nat) :
    List DbEvent × Except ApiError Incident × Store :=
  (patchBeforeRead quietDeployment anAdmin 1 (statusPatch status 30 none)).follow database outage
    (List.replicate operations (atTime 30)) resolvedStore

/-- Lost before the end date is cleared, the incident is reopened and has ended. -/
theorem patch_atomic_fails :
    ¬ ∀ (events : List DbEvent) (error : ApiError) (final : Store),
      Run database (patchBeforeRead quietDeployment anAdmin 1 (statusPatch .reopened 30 none))
        resolvedStore events (.error error) final → final = resolvedStore ∧ NoneHalfOpen final := by
  intro atomic
  have run := Program.follow_run database outage (List.replicate 4 (atTime 30))
    (patchBeforeRead quietDeployment anAdmin 1 (statusPatch .reopened 30 none)) resolvedStore
  have failed : (interruptedPatch .reopened 4).2.1 = .error (.internal .driver) := by
    decide +kernel
  have halfOpen : ¬ NoneHalfOpen (interruptedPatch .reopened 4).2.2 := by decide +kernel
  exact halfOpen (atomic _ _ _ (failed ▸ run)).2

theorem patch_atomic_refused :
    (interruptedPatch .changed 3).2.1 = .error (.internal .driver) ∧
      (interruptedPatch .changed 3).2.2 = resolvedStore := by
  have run := Program.follow_run database outage (List.replicate 3 (atTime 30))
    (patchBeforeRead quietDeployment anAdmin 1 (statusPatch .changed 30 none)) resolvedStore
  have failed : (interruptedPatch .changed 3).2.1 = .error (.internal .driver) := by decide +kernel
  have atomic := (patch_atomic quietDeployment anAdmin 1 (statusPatch .changed 30 none)
    resolvedStore).1 _ _ _ (failed ▸ run)
  exact ⟨failed, atomic.2.mpr (Or.inl (by decide))⟩

end StatusDashboard.Properties
