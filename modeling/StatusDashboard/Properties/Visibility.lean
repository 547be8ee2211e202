import StatusDashboard.Handlers.Activity
import StatusDashboard.Storage.Load

namespace StatusDashboard.Properties

open Event Storage Tables Handlers Process

/-!
# What callers without the extended view see

The rule that hides a maintenance is written three times: as conditions of the
lists, as conditions of the region feed, and as code on a loaded copy.  The
first two treat a missing status as unknown and hide the event, the third one
reads it as the empty text and shows it.  On all other rows the three agree.
-/

/-! ## Reads that nobody disturbs -/

/-- A read that is run alone, of which nothing is asked. -/
def undisturbed : Discipline where
  rely := Eq
  assume _ := True
  guarantee _ := True
  always _ := True
  preorder := eq_preorder
  keeps _ _ := trivial
  steps _ _ _ _ _ _ := trivial
  silent _ _ _ _ := trivial

section Undisturbed

variable {ε α : Type} {program : Program Op ε α} {store final : Store} {events : List DbEvent}

theorem returned_of_yields {post : α → Store → Prop} {value : α}
    (yields : undisturbed.Yields post program store)
    (run : Run database program store events (.ok value) final) : post value final :=
  ((yields trivial).run run (fun _ _ => trivial)).2.2 value rfl

/-- Nothing is owed, so every program meets the empty postcondition. -/
theorem undisturbed_yields (program : Program Op ε α) (store : Store) :
    undisturbed.Yields (fun _ _ => True) program store := by
  induction program generalizing store with
  | done => exact Regime.yields_done (fun _ _ _ => trivial)
  | fail error => exact Regime.yields_fail error
  | perform operation next ih =>
    apply Regime.yields_perform
    · exact fun _ _ _ _ _ => trivial
    · exact fun later choice _ _ _ _ => ih _ _

theorem yields_asked {β : Type} (query : Query β) (store : Store) :
    undisturbed.Yields (fun value later => store = later ∧ ∃ rank, query.eval rank store = .ok value)
      (read query) store := by
  apply (undisturbed.yields_read query store).mono
  rintro value later _ ⟨seen, rfl, _, ⟨choice, _, answer⟩, rfl⟩
  exact ⟨rfl, choice.rank, answer⟩

end Undisturbed

variable {store : Store} {id : Nat} {row : IncidentRow}

/-- A query asked alone fails with the database, or is answered in the store. -/
theorem ensures_read_bind {α β : Type} {query : Query β} {next : β → DbProgram α}
    {post : Except DbError α → Store → Prop} (faulted : post (.error .driver) store)
    (failed : ∀ rank error, query.eval rank store = .error error → post (.error error) store)
    (answered : ∀ rank value, query.eval rank store = .ok value →
      Ensures database Eq (fun _ => True) (fun _ => True) post (next value) store) :
    Ensures database Eq (fun _ => True) (fun _ => True) post (read query >>= next) store := by
  rintro later rfl choice -
  refine ⟨trivial, ?_⟩
  rw [perform_read]
  cases fault : choice.fault with
  | true =>
    rw [if_pos rfl]
    rintro later rfl
    exact faulted
  | false =>
    rw [if_neg (by simp)]
    cases answer : query.eval choice.rank store with
    | error error =>
      rintro later rfl
      exact failed choice.rank error answer
    | ok value => exact answered choice.rank value answer

theorem ensures_statusesByIncident (id : Nat) (store : Store) :
    Ensures database Eq (fun _ => True) (fun _ => True)
      (fun outcome final => final = store ∧ (outcome = .error .driver ∨
        ∃ rows, outcome = .ok rows ∧ statusesOf id rows = loadedHistory store id))
      (statusesByIncident [id]) store := by
  change Ensures database Eq _ _ _ (read (.statuses [id]) >>= fun rows => pure (rows ++ [])) store
  apply ensures_read_bind ⟨rfl, Or.inl rfl⟩ (fun _ _ failed => by cases failed)
  intro rank rows histories
  rintro later rfl
  refine ⟨rfl, Or.inr ⟨_, rfl, ?_⟩⟩
  rw [List.append_nil, statusesOf_read histories id, if_pos (List.mem_singleton.mpr rfl)]

/-- The outcomes of loading one event alone. -/
theorem ensures_getIncident (id : Nat) (store : Store) :
    Ensures database Eq (fun _ => True) (fun _ => True)
      (fun outcome final => final = store ∧ (outcome = .error .driver ∨
        outcome = match store.incidents.get? id with
          | none => .error .incidentDSNotExist
          | some row => .ok (storedCopy store (id, row))))
      (getIncident id) store := by
  unfold getIncident
  apply ensures_read_bind ⟨rfl, Or.inl rfl⟩
  · intro rank error answer
    refine ⟨rfl, Or.inr ?_⟩
    simp only [Query.eval] at answer
    split at answer
    · cases answer
    · rename_i missing
      cases answer
      rw [missing]
  · intro rank row answer
    have found := incident_eval answer
    unfold loadComponents
    rw [if_neg (List.cons_ne_nil _ _)]
    apply ensures_read_bind ⟨rfl, Or.inl rfl⟩ (fun _ _ failed => by cases failed)
    intro rank components loaded
    apply (ensures_statusesByIncident id store).bind
    · rintro statuses later ⟨rfl, failed | ⟨rows, returned, history⟩⟩
      · cases failed
      · cases returned
        rintro last rfl
        refine ⟨rfl, Or.inr ?_⟩
        rw [found, componentsOf_read loaded (List.mem_singleton.mpr rfl), history]
        rfl
    · rintro error later ⟨rfl, failed | ⟨rows, returned, history⟩⟩
      · cases failed
        exact ⟨rfl, Or.inl rfl⟩
      · cases returned

/-! ## The three rules -/

/-- The rule of the lists. -/
def Visible (store : Store) (id : Nat) (row : IncidentRow) : Prop :=
  (publicEventPredicates store id row).all Truth.selects = true

instance (store : Store) (id : Nat) (row : IncidentRow) : Decidable (Visible store id row) :=
  inferInstanceAs (Decidable (_ = true))

/-- The rule of the region feed. -/
def VisibleInFeed (store : Store) (id : Nat) (row : IncidentRow) : Prop :=
  (attrQueryConditions store id row).all Truth.selects = true

/-- The rule of the single event. -/
def Withheld (incident : Incident) : Prop :=
  isUnderReview incident = true ∨ isCancelledWithoutPublicStatus incident = true

instance (incident : Incident) : Decidable (Withheld incident) :=
  inferInstanceAs (Decidable (_ ∨ _))

theorem visibleInFeed_iff (store : Store) (id : Nat) (row : IncidentRow) :
    VisibleInFeed store id row ↔ Visible store id row := by
  unfold VisibleInFeed Visible attrQueryConditions publicEventPredicates statusIn Truth.compare
  by_cases maintenance : row.type = .maintenance
  · cases row.status <;> cases noPublicStatus store id <;> simp [maintenance]
  · have other : (row.type == .maintenance) = false := beq_eq_false_iff_ne.mpr maintenance
    simp [other]

/-- The copy of an event shows whether it was ever public. -/
theorem storedCopy_noPublicStatus (store : Store) (id : Nat) (row : IncidentRow) :
    (storedCopy store (id, row)).statuses.all
        (fun status => !isPublicMaintenanceStatus status.status) = noPublicStatus store id := by
  change (loadedHistory store id).all _ = _
  unfold loadedHistory Store.history noPublicStatus
  rw [List.all_map, List.all_filter]
  congr 1
  funext entry
  by_cases same : entry.2.incidentId = id <;> simp [same, incidentStatusFromEnt]

/-- With a status in its column, an event is listed exactly when it is not
withheld.  Without one a maintenance is neither listed nor withheld. -/
theorem visible_iff_not_withheld (store : Store) (id : Nat) (row : IncidentRow) :
    (Visible store id row ↔ ¬ Withheld (storedCopy store (id, row))) ↔
      (row.type = .maintenance → row.status ≠ none) := by
  have history := storedCopy_noPublicStatus store id row
  unfold Withheld isCancelledWithoutPublicStatus
  rw [history]
  unfold Visible publicEventPredicates statusIn Truth.compare isUnderReview
  change (_ ↔ ¬ ((row.type == .maintenance && (row.status.getD .unset == .pendingReview ||
    row.status.getD .unset == .reviewed)) = true ∨ (row.type == .maintenance &&
    row.status.getD .unset == .cancelled && noPublicStatus store id) = true)) ↔ _
  by_cases maintenance : row.type = .maintenance
  · cases row.status <;> cases noPublicStatus store id <;> simp [maintenance]
  · have other : (row.type == .maintenance) = false := beq_eq_false_iff_ne.mpr maintenance
    simp [other, maintenance]

/-- The middleware loads a stored event as it is, or the database fails. -/
theorem ensures_checkEventExistence (found : store.incidents.get? id = some row) :
    Ensures database Eq (fun _ => True) (fun _ => True)
      (fun outcome _ => outcome = .error (.internal .driver) ∨
        outcome = .ok (storedCopy store (id, row)))
      (checkEventExistence id) store := by
  have given : ¬ id = 0 := Nat.ne_of_gt (SerialTable.pos_of_get? found)
  unfold checkEventExistence
  rw [if_neg given, ensures_mapError]
  apply (ensures_getIncident id store).mono
  rintro outcome final ⟨-, failed | loaded⟩
  · rw [failed]
    exact Or.inl rfl
  · rw [loaded, found]
    exact Or.inr rfl

/-- The public reader of a single event is refused the withheld ones. -/
theorem getIncidentHandler_public (id : Nat) :
    getIncidentHandler publicAccess id = (do
      let incident ← checkEventExistence id
      if Withheld incident then .fail (.notFound .incidentDSNotExist)
      else pure (.event incident)) := by
  have rest : ∀ incident : Incident,
      (if (!publicAccess && isUnderReview incident) = true then
          (.fail (.notFound .incidentDSNotExist) : Handler Response)
        else if (!publicAccess && isCancelledWithoutPublicStatus incident) = true then
          .fail (.notFound .incidentDSNotExist)
        else pure (.event incident)) =
        if Withheld incident then .fail (.notFound .incidentDSNotExist)
        else pure (.event incident) := by
    intro incident
    unfold Withheld publicAccess
    by_cases review : isUnderReview incident = true
    · simp [review]
    · simp [review]
  unfold getIncidentHandler
  exact congrArg (fun body => checkEventExistence id >>= body) (funext rest)

/-- How `GET /v2/events/:id` answers for a stored event when it is run alone. -/
theorem getIncidentHandler_outcome {final : Store} {events : List DbEvent}
    {outcome : Except ApiError Response} (found : store.incidents.get? id = some row)
    (run : Run database (getIncidentHandler false id) store events outcome final) :
    outcome = .error (.internal .driver) ∨
      outcome = if Withheld (storedCopy store (id, row)) then .error (.notFound .incidentDSNotExist)
        else .ok (.event (storedCopy store (id, row))) := by
  have answers : Ensures database Eq (fun _ => True) (fun _ => True)
      (fun outcome _ => outcome = .error (.internal .driver) ∨
        outcome = if Withheld (storedCopy store (id, row)) then
          .error (.notFound .incidentDSNotExist)
          else .ok (.event (storedCopy store (id, row))))
      (getIncidentHandler publicAccess id) store := by
    rw [getIncidentHandler_public]
    apply (ensures_checkEventExistence found).bind
    · rintro incident later (failed | loaded)
      · cases failed
      · cases loaded
        split_ifs
        · exact fun _ _ => Or.inr rfl
        · exact fun _ _ => Or.inr rfl
    · rintro error later (failed | loaded)
      · cases failed
        exact Or.inl rfl
      · cases loaded
  exact (answers.run run (fun _ _ => trivial)).2

/-- The three rules agree on a stored event exactly when it is no maintenance
without a status: whether the lists select it, whether the region feed selects
it, and whether `GET /v2/events/:id` answers otherwise than 404, in every run
of it that the database lets finish. -/
theorem visibility_agrees {store final : Store} {id : Nat} {row : IncidentRow}
    {events : List DbEvent} {outcome : Except ApiError Response}
    (found : store.incidents.get? id = some row)
    (run : Run database (getIncidentHandler false id) store events outcome final)
    (served : outcome ≠ .error (.internal .driver)) :
    ((Visible store id row ↔ outcome ≠ .error (.notFound .incidentDSNotExist)) ∧
      (Visible store id row ↔ VisibleInFeed store id row)) ↔
      (row.type = .maintenance → row.status ≠ none) := by
  have answered : outcome ≠ .error (.notFound .incidentDSNotExist) ↔
      ¬ Withheld (storedCopy store (id, row)) := by
    rcases getIncidentHandler_outcome found run with failed | shape
    · exact absurd failed served
    · rw [shape]
      split_ifs with withheld
      · simp [withheld]
      · simp [withheld]
  rw [visibleInFeed_iff, answered, visible_iff_not_withheld]
  simp

/-! ## What reads return -/

/-- An event that none of the rules lets through. -/
def Concealed (store : Store) (id : Nat) : Prop :=
  ∀ row ∈ store.incidents.get? id,
    ¬ Visible store id row ∧ Withheld (storedCopy store (id, row))

/-- A maintenance under review, or cancelled and never public, is concealed. -/
theorem concealed_of_row (found : store.incidents.get? id = some row)
    (maintenance : row.type = .maintenance)
    (status : row.status = some .pendingReview ∨ row.status = some .reviewed ∨
      row.status = some .cancelled ∧ noPublicStatus store id = true) : Concealed store id := by
  intro stored present
  rw [found] at present
  cases present
  have set : row.status ≠ none := by
    rcases status with review | reviewed | ⟨cancelled, _⟩ <;> simp [*]
  have agree := (visible_iff_not_withheld store id row).mpr (fun _ => set)
  have hidden : ¬ Visible store id row := by
    unfold Visible publicEventPredicates statusIn Truth.compare
    rcases status with review | reviewed | ⟨cancelled, never⟩
    · simp [maintenance, review]
    · simp [maintenance, reviewed]
    · simp [maintenance, cancelled, never]
  exact ⟨hidden, not_not.mp (fun shown => hidden (agree.mpr shown))⟩

theorem eventsCondition_visible {params : IncidentsParams}
    (listed : eventsCondition params publicAccess store id row) :
    Visible store id row := by
  rcases listed with ⟨time, conditions⟩
  unfold applyEventsFilters at conditions
  rw [List.all_append] at conditions
  exact (Bool.and_eq_true_iff.mp conditions).2

theorem componentCondition_visible {component : Nat} {params : IncidentsParams}
    (listed : componentCondition component params store id row) :
    Visible store id row := by
  rcases listed with ⟨time, conditions⟩
  unfold componentEventConditions at conditions
  simp only [List.all_append, Bool.and_eq_true] at conditions
  exact conditions.1.1.2

/-- Copies of events that the lists may show. -/
def AllVisible (store : Store) (copies : List Incident) : Prop :=
  ∀ copy ∈ copies, ∃ row, store.incidents.get? copy.id = some row ∧ Visible store copy.id row

theorem allVisible_of_listed {load : Store → Nat → List Component}
    {condition : Store → Nat → IncidentRow → Prop} {copies : List Incident} {later : Store}
    (visible : ∀ first id row, condition first id row → Visible first id row)
    (listed : undisturbed.Listed load condition copies store later) : AllVisible store copies := by
  rcases listed with ⟨first, reached, _, _, _, readings⟩
  change store = first at reached
  subst reached
  intro copy member
  rcases readings copy member with ⟨row, meets, reading⟩
  exact ⟨row, reading.found, visible _ _ _ meets⟩

theorem yields_getEvents (params : IncidentsParams) (store : Store) :
    undisturbed.Yields (fun result _ => AllVisible store result.1)
      (getEventsWithCount publicAccess params) store :=
  (undisturbed.yields_getEventsWithCount publicAccess params store).mono
    (fun _ _ _ listed => allVisible_of_listed (fun _ _ _ => eventsCondition_visible) listed)

/-- The events of a region: the ids are selected first, their rows after. -/
theorem yields_getIncidentsByComponentAttr (attr : ComponentAttr) (lastCount : Nat) (store : Store) :
    undisturbed.Yields (fun copies _ => AllVisible store copies)
      (getIncidentsByComponentAttr attr lastCount) store := by
  apply (undisturbed.yields_read (.incidentsByComponentAttr attr lastCount) store).bind
  intro ids later _ answered
  rcases answered with ⟨seen, reached, _, ⟨choice, _, answer⟩, onward⟩
  change store = seen at reached
  subst reached
  have matched : ∀ id ∈ ids, id ∈ attrMatches store attr := by
    intro id member
    simp only [Query.eval] at answer
    split_ifs at answer
    · cases answer
      exact member
    · cases answer
      exact List.mem_reverse.mp (List.mem_of_mem_take member)
  apply (undisturbed_yields _ later).bind
  intro loaded middle _ _
  apply (undisturbed_yields _ middle).bind
  intro statuses last _ _
  apply Regime.yields_pure
  intro final _ _ copy member
  rcases List.mem_map.mp member with ⟨entry, ordered, rfl⟩
  rcases List.mem_filterMap.mp ordered with ⟨id, listed, found⟩
  have same : entry.1 = id := by simpa using List.find?_some found
  have selected := matched id listed
  unfold attrMatches at selected
  rcases List.mem_flatMap.mp selected with ⟨⟨stored, row⟩, shown, mentioned⟩
  rcases List.mem_flatMap.mp mentioned with ⟨component, _, repeated⟩
  rcases List.mem_map.mp repeated with ⟨_, _, equal⟩
  rcases mem_selectRows.mp shown with ⟨present, visible⟩
  change stored = id at equal
  refine ⟨row, ?_, ?_⟩
  · change store.incidents.get? entry.1 = _
    rw [same, ← equal]
    exact present
  · change Visible store entry.1 row
    rw [same, ← equal]
    exact (visibleInFeed_iff store stored row).mp visible

theorem yields_getIncidents (region componentName : String) (store : Store) :
    undisturbed.Yields (fun copies _ => AllVisible store copies) (getIncidents region componentName)
      store := by
  unfold getIncidents
  split_ifs
  · apply (yields_asked _ store).bind
    rintro component later _ ⟨rfl, _⟩
    apply (undisturbed.yields_getEventsByComponentID component.id _ store).mono
    exact fun _ _ _ listed => allVisible_of_listed (fun _ _ _ => componentCondition_visible) listed
  · exact yields_getIncidentsByComponentAttr _ _ store
  · apply (yields_getEvents _ store).bind
    intro result later _ visible
    exact Regime.yields_pure (fun _ _ _ => visible)

/-- A list that is answered to the public shows visible events only. -/
def ShowsVisible (store : Store) (response : Response) : Prop :=
  ∃ copies total, response = .events copies total ∧ AllVisible store copies

theorem yields_getEventsHandler (params : IncidentsParams) (store : Store) :
    undisturbed.Yields (fun response _ => ShowsVisible store response)
      (getEventsHandler publicAccess params) store := by
  apply (yields_getEvents params store).mapError.bind
  intro result later _ visible
  exact Regime.yields_pure (fun _ _ _ => ⟨_, _, rfl, visible⟩)

theorem yields_handleRSS (region componentName : String) (store : Store) :
    undisturbed.Yields (fun response _ => ShowsVisible store response)
      (handleRSS region componentName) store := by
  unfold handleRSS
  split_ifs
  · exact Regime.yields_fail _
  · exact Regime.yields_fail _
  · exact Regime.yields_fail _
  · apply (yields_getIncidents region componentName store).mapError.bind
    intro copies later _ visible
    exact Regime.yields_pure (fun _ _ _ => ⟨_, _, rfl, visible⟩)

theorem yields_getIncidentHandler (id : Nat) (store : Store) :
    undisturbed.Yields
      (fun response _ => ∃ row, store.incidents.get? id = some row ∧
        ¬ Withheld (storedCopy store (id, row)) ∧ response = .event (storedCopy store (id, row)))
      (getIncidentHandler publicAccess id) store := by
  unfold getIncidentHandler checkEventExistence
  split_ifs
  · exact Regime.yields_fail _
  · apply (undisturbed.yields_getIncident id store).mapError.bind
    rintro copy later - ⟨row, first, rfl, reached, _, _, reading⟩
    change store = first at reached
    subst reached
    rcases reading.alone with ⟨rfl, found, equal⟩
    have stored : copy = storedCopy store (copy.id, row) := equal
    split_ifs with review cancelled
    · exact Regime.yields_fail _
    · exact Regime.yields_fail _
    · refine Regime.yields_pure (fun _ _ _ => ⟨row, found, ?_, by rw [← stored]⟩)
      rw [← stored]
      simp only [publicAccess, Bool.not_false, Bool.true_and] at review cancelled
      exact not_or.mpr ⟨review, cancelled⟩

/-- No read without the extended view shows a concealed event. -/
theorem read_conceals {request : ReadRequest} {final : Store} {events : List DbEvent}
    {response : Response} (concealed : Concealed store id)
    (run : Run database (request.program publicAccess) store events (.ok response) final) :
    response.shows id = false := by
  have lists : ShowsVisible store response → response.shows id = false := by
    rintro ⟨copies, total, rfl, visible⟩
    unfold Response.shows
    rw [List.any_eq_false]
    intro copy member same
    rcases visible copy member with ⟨row, found, shown⟩
    rw [beq_iff_eq] at same
    subst same
    exact (concealed row found).1 shown
  cases request with
  | events | incidents => exact lists (returned_of_yields (yields_getEventsHandler _ store) run)
  | feed => exact lists (returned_of_yields (yields_handleRSS _ _ store) run)
  | event asked =>
    rcases returned_of_yields (yields_getIncidentHandler asked store) run with
      ⟨row, found, shown, rfl⟩
    unfold Response.shows
    rw [beq_eq_false_iff_ne]
    intro same
    change asked = id at same
    subst same
    exact shown (concealed row found).2

/-! ## A maintenance without a status -/

/-- A maintenance whose status column is as given. -/
def maintenanceRow (status : Option Status) : IncidentRow where
  text := "Maintenance"
  description := none
  startDate := 100
  endDate := some 200
  impact := 0
  system := false
  type := .maintenance
  status := status
  createdAt := none
  modifiedAt := none
  deletedAt := none
  createdBy := none
  contactEmail := none
  version := 1

/-- A database with one maintenance. -/
def maintenanceStore (status : Option Status) : Store :=
  Store.empty.insertIncident (maintenanceRow status)

/-- A maintenance without a status is not listed, but it can be fetched. -/
theorem visibility_agrees_fails :
    ¬ ∀ (store final : Store) (id : Nat) (row : IncidentRow) (events : List DbEvent)
      (outcome : Except ApiError Response), store.incidents.get? id = some row →
      Run database (getIncidentHandler false id) store events outcome final →
      outcome ≠ .error (.internal .driver) →
      (Visible store id row ↔ outcome ≠ .error (.notFound .incidentDSNotExist)) := by
  intro claimed
  have answered : ∀ error, ((getIncidentHandler false 1).evaluate database (atTime 0)
      (maintenanceStore none)).1 ≠ .error error := by
    have returned : ((getIncidentHandler false 1).evaluate database (atTime 0)
        (maintenanceStore none)).1.isOk = true := by
      decide +kernel
    intro error failed
    rw [failed] at returned
    cases returned
  have visible := (claimed _ _ 1 (maintenanceRow none) _ _ rfl
    (Program.evaluate_run database (atTime 0) (getIncidentHandler false 1) (maintenanceStore none))
    (answered _)).mpr (answered _)
  exact absurd visible (by decide +kernel)

/-- A draft is neither listed nor fetched. -/
theorem visibility_agrees_draft :
    ((Visible (maintenanceStore (some .pendingReview)) 1 (maintenanceRow (some .pendingReview)) ↔
        ((getIncidentHandler false 1).evaluate database (atTime 0)
          (maintenanceStore (some .pendingReview))).1 ≠ .error (.notFound .incidentDSNotExist)) ∧
      (Visible (maintenanceStore (some .pendingReview)) 1 (maintenanceRow (some .pendingReview)) ↔
        VisibleInFeed (maintenanceStore (some .pendingReview)) 1
          (maintenanceRow (some .pendingReview)))) ∧
    ¬ Visible (maintenanceStore (some .pendingReview)) 1 (maintenanceRow (some .pendingReview)) := by
  refine ⟨?_, by decide +kernel⟩
  rw [visibility_agrees rfl (Program.evaluate_run database (atTime 0) (getIncidentHandler false 1)
    (maintenanceStore (some .pendingReview))) (by decide +kernel)]
  exact fun _ missing => by cases missing

end StatusDashboard.Properties
