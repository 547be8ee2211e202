import StatusDashboard.Properties.Atomicity
import StatusDashboard.Properties.Relocation
import StatusDashboard.Sequence.Change

namespace StatusDashboard.Properties

open Event Storage Tables Notification Handlers Process Provenance Sequence

/-!
# Extractions conserve components and history

`POST /v2/events/:eventID/extract` looks the requested components up in a copy
of the incident, stores a new incident with them and then writes both incidents
back as a whole.  Whatever the size of the list, the components of the incident
are split between the two, each of the two histories grows by one row for each
moved component, and no other event changes.
-/

/-- The history of an event grew by one row of the server for each component of a
list; the earlier rows stand unchanged in front. -/
def GainsOnePer (moved : List Component) (text : Component → String) (id : Nat)
    (store final : Store) : Prop :=
  ∃ entries : List (Nat × StatusRow), final.history id = store.history id ++ entries ∧
    entries.map (fun entry => (entry.2.status, entry.2.text)) =
      moved.map (fun component => (Status.outDatedSystem, text component))

/-- The components `moved` of the incident `id` are now those of a new one. -/
structure Redistributed (id : Nat) (moved : List Component) (old new : IncidentRow)
    (store final : Store) : Prop where
  stored : store.incidents.get? id = some old
  created : final.incidents.get? store.incidents.nextId = some new
  proper : moved ≠ [] ∧ (moved.map Component.id).Nodup ∧
    (∀ component ∈ moved, component ∈ linkedComponents store id) ∧
    ∃ kept ∈ store.componentIds id, kept ∉ moved.map Component.id
  source : ∀ other, other ∈ final.componentIds id ↔
    other ∈ store.componentIds id ∧ other ∉ moved.map Component.id
  target : ∀ other, other ∈ final.componentIds store.incidents.nextId ↔
    other ∈ moved.map Component.id
  columns : new.type = .incident ∧ new.impact = old.impact ∧ new.text = old.text ∧
    new.description = old.description ∧ new.endDate = none
  sourceHistory : GainsOnePer moved
    (fun component => movedToText component (storedCopy final (store.incidents.nextId, new))) id
    store final
  targetHistory : GainsOnePer moved
    (fun component => movedFromText component (storedCopy store (id, old)))
    store.incidents.nextId store final
  others : ∀ other, other ≠ id → other ≠ store.incidents.nextId →
    final.incidents.get? other = store.incidents.get? other ∧
    (∀ component, component ∈ final.componentIds other ↔ component ∈ store.componentIds other) ∧
    final.history other = store.history other

/-! ## The request -/

/-- An accepted request names components, none of them twice. -/
theorem yields_distinct {reading : Clock} (caller : Caller) (id : Nat)
    (components : List Nat) (store : Store) :
    (solo reading).Yields (fun _ _ => components ≠ [] ∧ components.Nodup)
      (extractEvent caller id components) store := by
  apply yields_guarded
  intro stored row found copied
  apply (Solo.yields_reads (reads_validateComponents components) store).bind
  intro _ validated _ _
  unfold postIncidentExtractHandler
  split_ifs with role type body
  · exact Regime.yields_fail _
  · exact Regime.yields_fail _
  · exact Regime.yields_fail _
  · rw [not_or, not_not] at body
    split
    · exact Regime.yields_fail _
    · apply (yields_extraction _ _ _ _ _ validated).mapError.bind
      intro _ _ _ _
      exact Regime.yields_pure (fun _ _ _ => body)

/-- Distinct components that are fewer or more than those of a list, and all of
them in it, leave one out. -/
theorem exists_kept {stored moved : List Nat} (distinct : moved.Nodup)
    (members : ∀ id ∈ moved, id ∈ stored) (length : moved.length ≠ stored.length)
    (storedDistinct : stored.Nodup) : ∃ kept ∈ stored, kept ∉ moved := by
  by_contra all
  push Not at all
  have same : moved.Perm stored := (List.perm_ext_iff_of_nodup distinct storedDistinct).mpr
    fun id => ⟨members id, all id⟩
  exact length same.length_eq

/-! ## The two transactions -/

section Transactions

variable {saving moving : Choice} {components : List Component} {old saved : Incident}
  {impact : Int} {text : String} {description : Option String} {timeNow : Time}
  {copies : Incident × Incident} {store middle final : Store}

/-- The update the server adds for one component. -/
def serverUpdate (id : Nat) (timeNow : Time) (content : Component → String)
    (component : Component) : IncidentStatus where
  incidentId := id
  status := .outDatedSystem
  text := content component
  timestamp := timeNow

/-- The rows appended to a settled history are the server's, and the event's own. -/
theorem appended_rows {statuses : List IncidentStatus} (now timeNow : Time) (id : Nat)
    (content : Component → String) (components : List Component)
    (settled : ∀ status ∈ statuses, status.id ≠ 0) :
    (∀ row ∈ newStatusRows now id
        (statuses ++ components.map (serverUpdate id timeNow content)), row.incidentId = id) ∧
    (newStatusRows now id (statuses ++ components.map (serverUpdate id timeNow content))).map
        (fun row => (row.status, row.text)) =
      components.map (fun component => (Status.outDatedSystem, content component)) := by
  rw [newStatusRows_appended settled (fun _ => rfl)]
  constructor
  · intro row member
    rcases List.mem_map.mp member with ⟨component, _, rfl⟩
    exact ite_self id
  · rw [List.map_map]
    rfl

variable (saves : (EventWrite.saveIncident (extractedIncident timeNow components impact text
    description)).exec saving store = .ok (saved, middle))
  (moves : (extractStatement timeNow components old saved).exec moving middle =
    .ok (copies, final))

include saves moves

/-- What an extraction adds to the updates: the rows of the new incident, then
those of the old one. -/
theorem extraction_updates (oldSettled : Settled old) :
    ∃ gained given : List StatusRow,
      final.statuses = store.statuses.insertAll (gained ++ given) ∧
      (∀ row ∈ gained, row.incidentId = saved.id) ∧ (∀ row ∈ given, row.incidentId = old.id) ∧
      gained.map (fun row => (row.status, row.text)) =
        components.map (fun component => (Status.outDatedSystem, movedFromText component old)) ∧
      given.map (fun row => (row.status, row.text)) = components.map (fun component =>
        (Status.outDatedSystem,
          movedToText component (extractionTarget timeNow components old saved))) := by
  rcases saveIncidentTx_ok saves with ⟨inserted, statuses, settled, shape⟩
  have savedSettled : ∀ status ∈ saved.statuses, status.id ≠ 0 := by
    rw [shape]
    exact settled
  have nothing : newStatusRows saving.now store.incidents.nextId
      (extractedIncident timeNow components impact text description).statuses = [] := rfl
  have grown := (exec_footprint moves).grown rfl
  rw [inserted.statuses, nothing] at grown
  have gained := appended_rows moving.now timeNow saved.id
    (fun component => movedFromText component old) components savedSettled
  have given := appended_rows moving.now timeNow old.id
    (fun component => movedToText component (extractionTarget timeNow components old saved))
    components oldSettled
  refine ⟨_, _, ?_, gained.1, given.1, gained.2, given.2⟩
  rw [EventWrite.updates, dropIncidentComponents_fields] at grown
  exact grown

/-- The row the new incident ends with shows what it was created with. -/
theorem extraction_row (apart : old.id ≠ saved.id) :
    ∃ new, final.incidents.get? saved.id = some new ∧ new.type = .incident ∧
      new.impact = impact ∧ new.text = text ∧ new.description = description ∧
      new.endDate = none := by
  have stored := (saved_row saves).stored
  rcases saveIncidentTx_ok saves with ⟨_, statuses, _, shape⟩
  have source : (extractedSource timeNow components old saved).id = old.id :=
    dropIncidentComponents_id _ _
  have takes : (extractionTarget timeNow components old saved).id = saved.id := rfl
  refine ⟨_, (exec_footprint moves).rows _ _ stored, ?_⟩
  rw [EventWrite.rewritten, ← takes, writtenRow_first (by rw [source]; exact apart), shape]
  exact ⟨rfl, rfl, rfl, rfl, rfl⟩

end Transactions

section Histories

variable {store final : Store} {gained given : List StatusRow} {source target : Nat}

theorem filter_own {rows : List StatusRow} {holder : Nat}
    (own : ∀ row ∈ rows, row.incidentId = holder) :
    rows.filter (fun row => row.incidentId = holder) = rows := by
  apply List.filter_eq_self.mpr
  intro row member
  exact decide_eq_true (own row member)

theorem filter_foreign {rows : List StatusRow} {holder id : Nat}
    (own : ∀ row ∈ rows, row.incidentId = holder) (different : id ≠ holder) :
    rows.filter (fun row => row.incidentId = id) = [] := by
  apply List.filter_eq_nil_iff.mpr
  intro row member
  rw [own row member]
  simpa using Ne.symm different

theorem gainsOnePer_of_rows {added rows : List StatusRow} {moved : List Component}
    {text : Component → String} {id : Nat}
    (grown : final.statuses = store.statuses.insertAll added)
    (own : added.filter (fun row => row.incidentId = id) = rows)
    (content : rows.map (fun row => (row.status, row.text)) =
      moved.map (fun component => (Status.outDatedSystem, text component))) :
    GainsOnePer moved text id store final := by
  obtain ⟨entries, shape, values⟩ := history_insertAll id grown
  refine ⟨entries, shape, ?_⟩
  rw [← content, ← own, ← values, List.map_map]
  rfl

/-- Rows of two events are behind the histories of these two and of no other. -/
theorem histories_of_pair (grown : final.statuses = store.statuses.insertAll (gained ++ given))
    (gainedOwn : ∀ row ∈ gained, row.incidentId = target)
    (givenOwn : ∀ row ∈ given, row.incidentId = source) (apart : source ≠ target)
    {moved : List Component} {gainedText givenText : Component → String}
    (gainedContent : gained.map (fun row => (row.status, row.text)) =
      moved.map (fun component => (Status.outDatedSystem, gainedText component)))
    (givenContent : given.map (fun row => (row.status, row.text)) =
      moved.map (fun component => (Status.outDatedSystem, givenText component))) :
    GainsOnePer moved givenText source store final ∧
      GainsOnePer moved gainedText target store final ∧
      ∀ id, id ≠ source → id ≠ target → final.history id = store.history id := by
  refine ⟨gainsOnePer_of_rows grown ?_ givenContent, gainsOnePer_of_rows grown ?_ gainedContent, ?_⟩
  · rw [List.filter_append, filter_foreign gainedOwn apart, filter_own givenOwn, List.nil_append]
  · rw [List.filter_append, filter_own gainedOwn, filter_foreign givenOwn (Ne.symm apart),
      List.append_nil]
  · intro id notSource notTarget
    obtain ⟨entries, shape, values⟩ := history_insertAll id grown
    rw [List.filter_append, filter_foreign gainedOwn notTarget, filter_foreign givenOwn notSource]
      at values
    rw [shape, List.map_eq_nil_iff.mp values, List.append_nil]

end Histories

/-! ## The whole request -/

/-- What an extraction that succeeds alone does. -/
theorem redistributed_of_extracted {reading : Clock} {id : Nat}
    {requested : List Nat} {store final : Store} (distinct : requested ≠ [] ∧ requested.Nodup)
    (extracted : ExtractedFrom reading id requested store final) :
    ∃ moved old new, moved.map Component.id = requested ∧
      Redistributed id moved old new store final := by
  rcases extracted with ⟨found, copied, type, chosen, extraction⟩
  rename_i row stored result moved
  cases extraction with
  | @intro timeNow saving moving saved copies middle final nonempty clock saves moves =>
    have sameId : stored.id = id := by rw [copied]; rfl
    have shape : stored = storedCopy store (stored.id, row) := by rw [sameId, ← copied]
    have present : store.incidents.get? stored.id = some row := sameId ▸ found
    have incident : stored.type = .incident := by rw [copied]; exact type
    have settled : Settled stored := copied ▸ settled_storedCopy found
    have savedId := (saved_row saves).id
    rcases Setting.getComponentsToExtract_ok chosen with ⟨ids, members, length⟩
    have relocated := extraction_relocated (inSync_stored present shape) incident saves moves
    rcases extraction_row saves moves relocated.apart with
      ⟨new, created, newType, impact, text, description, ending⟩
    rcases extraction_updates saves moves settled with
      ⟨gained, given, grown, gainedOwn, givenOwn, gainedContent, givenContent⟩
    rcases histories_of_pair grown gainedOwn givenOwn relocated.apart gainedContent
      givenContent with ⟨sourceHistory, targetHistory, otherHistories⟩
    have linked : ∀ component ∈ moved, component ∈ linkedComponents store id := by
      intro component member
      have held := members component member
      rw [copied] at held
      exact held
    have held : ∀ other ∈ moved.map Component.id, other ∈ store.componentIds id := by
      intro other member
      rcases List.mem_map.mp member with ⟨component, listed, rfl⟩
      rw [← linkedComponents_ids]
      exact List.mem_map_of_mem (linked component listed)
    rw [sameId] at relocated sourceHistory otherHistories
    rw [savedId] at relocated targetHistory otherHistories created
    have storedLength : stored.components.length = (store.componentIds id).length := by
      rw [copied, ← linkedComponents_ids, List.length_map]
      rfl
    refine ⟨moved, row, new, ids, ?_⟩
    constructor
    case stored => exact found
    case created => exact created
    case proper =>
      refine ⟨nonempty, ids ▸ distinct.2, linked, exists_kept (ids ▸ distinct.2) held ?_
        (JoinTable.right_nodup _ _)⟩
      rw [List.length_map, ← storedLength]
      exact length
    case source => exact relocated.released
    case target =>
      intro other
      rw [relocated.received]
      refine and_iff_left_of_imp fun member => ?_
      exact Store.pos_of_mem_componentIds (held other member)
    case columns =>
      rw [impact, text, description, copied]
      exact ⟨newType, rfl, rfl, rfl, ending⟩
    case sourceHistory =>
      have link : (extractionTarget timeNow moved stored saved).link =
          (storedCopy final (store.incidents.nextId, new)).link := by
        rcases saveIncidentTx_ok saves with ⟨_, statuses, _, savedShape⟩
        change _ = (incidentFromEnt _ new _ _).link
        unfold Incident.link incidentFromEnt
        rw [savedShape, text]
        rfl
      unfold movedToText at sourceHistory ⊢
      rw [link] at sourceHistory
      exact sourceHistory
    case targetHistory =>
      rw [copied] at targetHistory
      exact targetHistory
    case others =>
      intro other notSource notTarget
      refine ⟨?_, relocated.elsewhere other notSource notTarget,
        otherHistories other notSource notTarget⟩
      have extracted := extracted_of_commits (by rw [present]; simp) settled saves moves
      exact (extracted.others other (savedId ▸ notTarget) (sameId ▸ notSource)).1

/-- An extraction that is accepted and completes alone splits the components of the
incident, adds one row of the server for each moved component to both histories and
leaves every other event as it is. -/
theorem extract_redistributes {deployment : Deployment} {caller : Caller} {id : Nat}
    {requested : List Nat} {store final : Store} {events : List DbEvent} {response : Response}
    (run : Run database ((Activity.extract caller id requested).program deployment) store events
      (.ok response) final) :
    ∃ moved old new, moved.map Component.id = requested ∧
      Redistributed id moved old new store final := by
  have clock : ∀ event ∈ events, Ticks (clockOf events) event :=
    fun event member => ticks_clockOf member
  have distinct := Solo.run (yields_distinct caller id requested store) run clock
  have extracted := Solo.run (yields_extracted caller id requested store) run clock
  exact redistributed_of_extracted distinct extracted

/-- A database with one open incident of two components. -/
def pairReported : Store :=
  (replay quietDeployment [(.post .events anAdmin (incidentReport false [1, 2] 1), atTime 20)]
    (bareStore 2)).2

theorem extract_redistributes_pair :
    ∃ moved old new, moved.map Component.id = [2] ∧ Redistributed 1 moved old new pairReported
      (((Activity.extract anAdmin 1 [2]).program quietDeployment).evaluate database (atTime 30)
        pairReported).2 := by
  have run := Program.evaluate_run database (atTime 30)
    ((Activity.extract anAdmin 1 [2]).program quietDeployment) pairReported
  have answered : (((Activity.extract anAdmin 1 [2]).program quietDeployment).evaluate database
      (atTime 30) pairReported).1.isOk = true := by decide +kernel
  cases known : (((Activity.extract anAdmin 1 [2]).program quietDeployment).evaluate database
      (atTime 30) pairReported).1 with
  | error error =>
    rw [known] at answered
    cases answered
  | ok response =>
    rw [known] at run
    exact extract_redistributes run

end StatusDashboard.Properties
