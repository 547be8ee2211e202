import StatusDashboard.Checker.Maintenance
import StatusDashboard.Handlers.Render
import StatusDashboard.Process.Inversion
import StatusDashboard.Process.Monitor
import StatusDashboard.Properties.Visibility
import StatusDashboard.Storage.Footprint
import StatusDashboard.Storage.Reads

namespace StatusDashboard.Properties

open Event Storage Tables Handlers Process Checker

/-!
# Rendering events

Renderers meet columns that may be missing.  Only the second feed dereferences
one of them, the end of a planned or running maintenance; all other views show
every stored event.
-/

variable {copy : Incident} {copies : List Incident} {row : IncidentRow} {store : Store}

/-- The second feed formats the end of a planned or running maintenance. -/
structure FeedHazard (copy : Incident) : Prop where
  maintenance : copy.type = .maintenance
  endless : copy.endDate = none
  announced : hasUpdate copy .planned = true ∨ hasUpdate copy .inProgress = true

/-! ## Renderers -/

theorem mapM_eq_none_iff {α β : Type} {compute : α → Option β} {values : List α} :
    values.mapM compute = none ↔ ∃ value ∈ values, compute value = none := by
  induction values with
  | nil => simp
  | cons value values ih =>
    rw [List.mapM_cons, List.exists_mem_cons_iff, ← ih]
    cases compute value with
    | none => simp
    | some =>
      cases values.mapM compute with
      | none | some => simp

theorem bind_pure_eq_none_iff {α β : Type} {value : Option α} {finish : α → β} :
    (value >>= fun found => pure (finish found)) = none ↔ value = none := by
  cases value <;> simp

/-- What every copy of a stored event has. -/
structure Filled (copy : Incident) : Prop where
  text : copy.text.isSome = true
  startDate : copy.startDate.isSome = true
  impact : copy.impact.isSome = true

theorem filled_attach {rows : List (Nat × IncidentRow)} {components : List (Nat × Component)}
    {statuses : List (Nat × StatusRow)} {inc : Incident}
    (member : inc ∈ attach rows components statuses) : Filled inc := by
  rcases List.mem_map.mp member with ⟨entry, _, rfl⟩
  exact ⟨rfl, rfl, rfl⟩

theorem Filled.toApiEvent (filled : Filled copy) (isAuth : Bool) :
    toApiEvent copy isAuth ≠ none := by
  rcases Option.isSome_iff_exists.mp filled.text with ⟨text, hasText⟩
  rcases Option.isSome_iff_exists.mp filled.startDate with ⟨startDate, hasStart⟩
  unfold Handlers.toApiEvent
  rw [hasText, hasStart]
  simp

theorem Filled.createFeedItem (filled : Filled copy) (format : String → Time → String)
    (baseURL : String) :
    createFeedItem format baseURL copy ≠ none := by
  rcases Option.isSome_iff_exists.mp filled.text with ⟨text, hasText⟩
  rcases Option.isSome_iff_exists.mp filled.startDate with ⟨startDate, hasStart⟩
  rcases Option.isSome_iff_exists.mp filled.impact with ⟨impact, hasImpact⟩
  unfold Handlers.createFeedItem createFeedContent
  rw [hasText, hasStart, hasImpact]
  simp

theorem maintenanceTexts_eq_none_iff (filled : Filled copy) (format : String → Time → String)
    (s : IncidentStatus) :
    maintenanceTexts format copy s = none ↔
      copy.endDate = none ∧ (s.status = .planned ∨ s.status = .inProgress) := by
  rcases Option.isSome_iff_exists.mp filled.startDate with ⟨startDate, hasStart⟩
  unfold maintenanceTexts
  rw [hasStart]
  cases s.status <;> cases copy.endDate <;> simp

theorem createMaintenanceFeedItems_eq_none_iff (filled : Filled copy)
    (format : String → Time → String) (baseURL : String) :
    createMaintenanceFeedItems format baseURL copy = none ↔
      copy.endDate = none ∧ (hasUpdate copy .planned = true ∨ hasUpdate copy .inProgress = true) := by
  have shown : createMaintenanceFeedItems format baseURL copy = none ↔
      ∃ s ∈ copy.statuses, maintenanceTexts format copy s = none := by
    unfold createMaintenanceFeedItems
    rw [bind_pure_eq_none_iff, mapM_eq_none_iff]
    simp only [bind_pure_eq_none_iff]
  rw [shown]
  simp only [maintenanceTexts_eq_none_iff filled, hasUpdate, List.any_eq_true, beq_iff_eq]
  constructor
  · rintro ⟨s, member, endless, planned | running⟩
    · exact ⟨endless, Or.inl ⟨s, member, planned⟩⟩
    · exact ⟨endless, Or.inr ⟨s, member, running⟩⟩
  · rintro ⟨endless, ⟨s, member, planned⟩ | ⟨s, member, running⟩⟩
    · exact ⟨s, member, endless, Or.inl planned⟩
    · exact ⟨s, member, endless, Or.inr running⟩

theorem Filled.createIncidentFeedItems (filled : Filled copy) (format : String → Time → String)
    (baseURL : String) :
    createIncidentFeedItems format baseURL copy ≠ none := by
  rcases Option.isSome_iff_exists.mp filled.text with ⟨text, hasText⟩
  rcases Option.isSome_iff_exists.mp filled.startDate with ⟨startDate, hasStart⟩
  rcases Option.isSome_iff_exists.mp filled.impact with ⟨impact, hasImpact⟩
  intro missing
  have updates : (copy.statuses.filter (fun s => s.status ≠ .detected)).mapM
      (updateItem format baseURL copy) = none := by
    unfold Handlers.createIncidentFeedItems at missing
    rw [hasImpact, hasStart] at missing
    exact bind_pure_eq_none_iff.mp missing
  rcases mapM_eq_none_iff.mp updates with ⟨s, _, failed⟩
  unfold updateItem at failed
  rw [hasText] at failed
  cases failed

/-- The second feed fails on exactly the hazards. -/
theorem createFeedItems_eq_none_iff (filled : Filled copy) (format : String → Time → String)
    (baseURL : String) :
    createFeedItems format baseURL copy = none ↔ FeedHazard copy := by
  unfold createFeedItems
  cases type : copy.type with
  | maintenance =>
    dsimp only
    rw [createMaintenanceFeedItems_eq_none_iff filled]
    constructor
    · rintro ⟨endless, announced⟩
      exact ⟨type, endless, announced⟩
    · intro hazard
      exact ⟨hazard.endless, hazard.announced⟩
  | information =>
    constructor
    · intro missing
      cases missing
    · intro hazard
      exact absurd (type.symm.trans hazard.maintenance) (by decide)
  | incident =>
    constructor
    · intro missing
      exact absurd missing (filled.createIncidentFeedItems format baseURL)
    · intro hazard
      exact absurd (type.symm.trans hazard.maintenance) (by decide)

theorem sortByDate_ne_none {date : Incident → Option Time}
    (dated : ∀ copy ∈ copies, (date copy).isSome = true) : sortByDate date copies ≠ none := by
  unfold sortByDate
  rw [if_pos (Or.inr (List.all_eq_true.mpr dated))]
  simp

theorem sortIncidents_perm {sorted : List Incident} (returned : sortIncidents copies = some sorted) :
    sorted.Perm copies := by
  have byDate : ∀ (date : Incident → Option Time) (items listed : List Incident),
      sortByDate date items = some listed → listed.Perm items := by
    intro date items listed result
    unfold sortByDate at result
    split_ifs at result
    cases result
    exact List.perm_insertionSort _ _
  unfold sortIncidents at returned
  simp only [Option.bind_eq_bind, Option.pure_def, Option.bind_eq_some_iff, Option.some.injEq]
    at returned
  rcases returned with ⟨active, openSorted, closed, closedSorted, rfl⟩
  refine ((byDate _ _ _ openSorted).append (byDate _ _ _ closedSorted)).trans ?_
  have split := List.filter_append_perm (fun copy : Incident => copy.endDate.isNone) copies
  have negated : copies.filter (fun copy => !copy.endDate.isNone) =
      copies.filter (fun copy => copy.endDate.isSome) := by
    apply List.filter_congr
    intro copy _
    cases copy.endDate <;> rfl
  rwa [negated] at split

theorem sortIncidents_ne_none (filled : ∀ copy ∈ copies, Filled copy) :
    sortIncidents copies ≠ none := by
  have starts : ∀ copy ∈ copies.filter (fun copy => copy.endDate.isNone),
      copy.startDate.isSome = true :=
    fun copy member => (filled copy (List.mem_of_mem_filter member)).startDate
  have ends : ∀ copy ∈ copies.filter (fun copy => copy.endDate.isSome),
      copy.endDate.isSome = true :=
    fun copy member => by simpa using (List.mem_filter.mp member).2
  rcases Option.ne_none_iff_exists'.mp (sortByDate_ne_none starts) with ⟨active, openSorted⟩
  rcases Option.ne_none_iff_exists'.mp (sortByDate_ne_none ends) with ⟨closed, closedSorted⟩
  unfold sortIncidents
  rw [openSorted, closedSorted]
  simp

/-- A feed is rendered unless the second one meets a hazard. -/
theorem renderFeed_ne_none (filled : ∀ copy ∈ copies, Filled copy)
    (safe : ∀ copy ∈ copies, ¬ FeedHazard copy) (format : String → Time → String)
    (request : FeedRequest) (created : Time) :
    renderFeed format request created copies ≠ none := by
  rcases Option.ne_none_iff_exists'.mp (sortIncidents_ne_none filled) with ⟨sorted, returned⟩
  have listed : ∀ copy ∈ sorted, copy ∈ copies := fun copy member =>
    (sortIncidents_perm returned).mem_iff.mp member
  have items : feedItems format request sorted ≠ none := by
    unfold feedItems
    cases request.version with
    | rss =>
      intro missing
      rcases mapM_eq_none_iff.mp missing with ⟨copy, member, failed⟩
      exact (filled copy (listed copy member)).createFeedItem format request.baseURL failed
    | v2Rss =>
      intro missing
      rcases mapM_eq_none_iff.mp (Option.map_eq_none_iff.mp missing) with ⟨copy, member, failed⟩
      exact safe copy (listed copy member)
        ((createFeedItems_eq_none_iff (filled copy (listed copy member)) format
          request.baseURL).mp failed)
  rcases Option.ne_none_iff_exists'.mp items with ⟨shown, rendered⟩
  unfold renderFeed
  rw [returned]
  simp only [Option.bind_eq_bind, Option.bind_some, rendered]
  simp

/-! ## What the readers load -/

/-- A copy whose fields are those of a stored event and whose updates are some of
its updates. -/
structure Drawn (store : Store) (copy : Incident) (row : IncidentRow) : Prop where
  found : store.incidents.get? copy.id = some row
  text : copy.text = some row.text
  startDate : copy.startDate = some row.startDate
  endDate : copy.endDate = optTimePtr row.endDate
  impact : copy.impact = some row.impact
  type : copy.type = row.type
  statuses : ∀ s ∈ copy.statuses, s ∈ loadedHistory store copy.id

theorem drawn_of_reading {load : Store → Nat → List Component} {later : Store}
    (reading : Reading Eq load copy row store later) :
    Drawn store copy row := by
  rcases reading.alone with ⟨rfl, found, shape⟩
  refine ⟨found, ?_, ?_, ?_, ?_, ?_, ?_⟩
  · rw [shape]
    rfl
  · rw [shape]
    rfl
  · rw [shape]
    rfl
  · rw [shape]
    rfl
  · rw [shape]
    rfl
  · intro s member
    rw [shape] at member
    exact member

theorem Drawn.filled (drawn : Drawn store copy row) : Filled copy :=
  ⟨by rw [drawn.text]; rfl, by rw [drawn.startDate]; rfl, by rw [drawn.impact]; rfl⟩

/-- A hazard of a copy is one of the stored event. -/
theorem Drawn.hazard (drawn : Drawn store copy row) (hazard : FeedHazard copy) :
    FeedHazard (storedCopy store (copy.id, row)) := by
  have update : ∀ status, hasUpdate copy status = true →
      hasUpdate (storedCopy store (copy.id, row)) status = true := by
    intro status has
    rcases List.any_eq_true.mp has with ⟨s, member, same⟩
    exact List.any_eq_true.mpr ⟨s, drawn.statuses s member, same⟩
  refine ⟨drawn.type.symm.trans hazard.maintenance, drawn.endDate.symm.trans hazard.endless, ?_⟩
  exact hazard.announced.imp (update _) (update _)

theorem statusesOf_subset {rows : List (Nat × StatusRow)} {id : Nat}
    (stored : ∀ entry ∈ rows, store.statuses.get? entry.1 = some entry.2) :
    ∀ s ∈ statusesOf id rows, s ∈ loadedHistory store id := by
  intro s member
  rcases List.mem_map.mp member with ⟨⟨key, row⟩, listed, rfl⟩
  rcases List.mem_filter.mp listed with ⟨inside, own⟩
  exact List.mem_map.mpr ⟨(key, row),
    mem_history.mpr ⟨stored _ inside, of_decide_eq_true own⟩, rfl⟩

theorem yields_loadStatuses (chunks : List (List Nat)) (store : Store) :
    undisturbed.Yields (fun rows later => store = later ∧
        ∀ entry ∈ rows, store.statuses.get? entry.1 = some entry.2)
      (loadStatuses chunks) store := by
  induction chunks with
  | nil =>
    apply Regime.yields_pure
    rintro later same _
    exact ⟨same, List.forall_mem_nil _⟩
  | cons chunk chunks ih =>
    apply (yields_asked (.statuses chunk) store).bind
    rintro rows later _ ⟨rfl, rank, answer⟩
    apply ih.bind
    rintro others later _ ⟨rfl, stored⟩
    apply Regime.yields_pure
    rintro later same _
    cases answer
    refine ⟨same, List.forall_mem_append.mpr ⟨?_, stored⟩⟩
    exact fun entry here => SerialTable.mem_rows.mp (List.mem_of_mem_filter here)

theorem yields_loadIncidentRows (chunks : List (List Nat)) (store : Store) :
    undisturbed.Yields (fun loaded later => store = later ∧
        ∀ entry ∈ loaded.1, store.incidents.get? entry.1 = some entry.2)
      (loadIncidentRows chunks) store := by
  induction chunks with
  | nil =>
    apply Regime.yields_pure
    rintro later same _
    exact ⟨same, List.forall_mem_nil _⟩
  | cons chunk chunks ih =>
    apply (yields_asked (.incidentsByIDs chunk) store).bind
    rintro rows later _ ⟨rfl, rank, answer⟩
    apply (undisturbed.yields_loadComponents (rows.map Prod.fst) store).bind
    rintro components later _ ⟨seen, reached, onward, _⟩
    change store = seen at reached
    change seen = later at onward
    subst reached onward
    apply ih.bind
    rintro others later _ ⟨rfl, stored⟩
    apply Regime.yields_pure
    rintro later same _
    cases answer
    refine ⟨same, List.forall_mem_append.mpr ⟨?_, stored⟩⟩
    exact fun entry here => SerialTable.mem_rows.mp (List.mem_of_mem_filter here)

def AllDrawn (store : Store) (copies : List Incident) : Prop :=
  ∀ copy ∈ copies, ∃ row, Drawn store copy row

theorem allDrawn_of_listed {load : Store → Nat → List Component}
    {condition : Store → Nat → IncidentRow → Prop} {later : Store}
    (listed : undisturbed.Listed load condition copies store later) : AllDrawn store copies := by
  rcases listed with ⟨first, reached, _, _, _, readings⟩
  change store = first at reached
  subst reached
  intro copy member
  rcases readings copy member with ⟨row, _, reading⟩
  exact ⟨row, drawn_of_reading reading⟩

theorem yields_incidentsByIDs_drawn (ids : List Nat) (store : Store) :
    undisturbed.Yields (fun copies _ => AllDrawn store copies) (incidentsByIDs ids) store := by
  apply (yields_loadIncidentRows _ store).bind
  rintro loaded later _ ⟨rfl, rows⟩
  apply (yields_loadStatuses _ store).bind
  rintro statuses later _ ⟨rfl, updates⟩
  apply Regime.yields_pure
  intro later _ _ copy member
  rcases List.mem_map.mp member with ⟨entry, ordered, rfl⟩
  rcases List.mem_filterMap.mp ordered with ⟨id, _, found⟩
  exact ⟨entry.2, rows entry (List.mem_of_find?_eq_some found), rfl, rfl, rfl, rfl, rfl,
    statusesOf_subset updates⟩

theorem yields_getIncidents_drawn (region componentName : String) (store : Store) :
    undisturbed.Yields (fun copies _ => AllDrawn store copies) (getIncidents region componentName)
      store := by
  unfold getIncidents
  split_ifs
  · apply (yields_asked _ store).bind
    rintro component later _ ⟨rfl, _⟩
    apply (undisturbed.yields_getEventsByComponentID component.id _ store).mono
    exact fun _ _ _ listed => allDrawn_of_listed listed
  · apply (yields_asked _ store).bind
    rintro ids later _ ⟨rfl, _⟩
    exact yields_incidentsByIDs_drawn ids store
  · apply (undisturbed.yields_getEventsWithCount publicAccess _ store).bind
    intro result later _ listed
    exact Regime.yields_pure (fun _ _ _ => allDrawn_of_listed listed)

/-- The events an answer carries. -/
def carried : Response → List Incident
  | .event copy => [copy]
  | .events copies _ => copies
  | _ => []

theorem yields_getIncidentHandler_drawn (isAuth : Bool) (id : Nat) (store : Store) :
    undisturbed.Yields (fun response _ => AllDrawn store (carried response))
      (getIncidentHandler isAuth id) store := by
  unfold getIncidentHandler checkEventExistence
  split_ifs
  · exact Regime.yields_fail _
  · apply (undisturbed.yields_getIncident id store).mapError.bind
    rintro copy later - ⟨row, first, rfl, reached, _, _, reading⟩
    change store = first at reached
    subst reached
    split_ifs
    · exact Regime.yields_fail _
    · exact Regime.yields_fail _
    · apply Regime.yields_pure
      intro _ _ _ shown member
      cases List.mem_singleton.mp member
      exact ⟨row, drawn_of_reading reading⟩

/-- Every answer carries copies of stored events. -/
theorem yields_readRequest_drawn (request : ReadRequest) (isAuth : Bool) (store : Store) :
    undisturbed.Yields (fun response _ => AllDrawn store (carried response))
      (request.program isAuth) store := by
  have lists : ∀ params, undisturbed.Yields (fun response _ => AllDrawn store (carried response))
      (getEventsHandler isAuth params) store := by
    intro params
    apply (undisturbed.yields_getEventsWithCount isAuth params store).mapError.bind
    intro result later _ listed
    exact Regime.yields_pure (fun _ _ _ => allDrawn_of_listed listed)
  cases request with
  | events params => exact lists params
  | incidents => exact lists _
  | event id => exact yields_getIncidentHandler_drawn isAuth id store
  | feed region componentName =>
    change undisturbed.Yields _ (handleRSS region componentName) store
    unfold handleRSS
    split_ifs
    · exact Regime.yields_fail _
    · exact Regime.yields_fail _
    · exact Regime.yields_fail _
    · apply (yields_getIncidents_drawn region componentName store).mapError.bind
      intro copies later _ drawn
      exact Regime.yields_pure (fun _ _ _ => drawn)

/-! ## Statements do not dereference -/

section Intact

/-- The program stops at no missing value of its own. -/
abbrev Intact {α : Type} (program : DbProgram α) : Prop :=
  program.Avoids database .nilDereference

theorem intact_pure {α : Type} (value : α) : Intact (pure value) := trivial

theorem intact_currentTime : Intact currentTime := fun _ _ => trivial

theorem paginate_intact (params : IncidentsParams) (rows : List (Nat × IncidentRow)) :
    paginate params rows ≠ .error .nilDereference := by
  unfold paginate
  split <;> split_ifs <;> exact nofun

theorem eval_intact {β : Type} (query : Query β) (rank : Nat → Nat) (store : Store) :
    query.eval rank store ≠ .error .nilDereference := by
  cases query with
  | events => exact paginate_intact _ _
  | _ =>
    intro failed
    simp only [Query.eval] at failed
    first
      | cases failed
      | (split at failed <;> cases failed)

theorem intact_read {β : Type} (query : Query β) : Intact (read query) := by
  apply Program.avoids_callExcept
  intro choice store
  rw [perform_read]
  dsimp only
  split_ifs
  · exact nofun
  · exact eval_intact query choice.rank store

theorem intact_loadStatuses (chunks : List (List Nat)) : Intact (loadStatuses chunks) := by
  induction chunks with
  | nil => exact intact_pure []
  | cons chunk chunks ih =>
    exact Program.avoids_bind (intact_read _) (fun _ =>
      Program.avoids_bind ih (fun _ => intact_pure _))

theorem intact_loadComponents (ids : List Nat) : Intact (loadComponents ids) := by
  unfold loadComponents
  split_ifs
  · exact intact_pure []
  · exact intact_read _

theorem intact_loadEvents (rows : List (Nat × IncidentRow)) : Intact (loadEvents rows) :=
  Program.avoids_bind (intact_loadComponents _) (fun _ =>
    Program.avoids_bind (intact_loadStatuses _) (fun _ => intact_pure _))

theorem intact_filterTime (params : IncidentsParams) : Intact (filterTime params) := by
  unfold filterTime
  split_ifs
  · exact intact_currentTime
  · exact intact_pure _

theorem intact_getEventsWithCount (isAuth : Bool) (params : IncidentsParams) :
    Intact (getEventsWithCount isAuth params) := by
  unfold getEventsWithCount
  split_ifs
  · exact nofun
  · exact Program.avoids_bind (intact_filterTime _) (fun _ =>
      Program.avoids_bind (intact_read _) (fun _ => Program.avoids_bind (intact_read _) (fun _ =>
        Program.avoids_bind (intact_loadEvents _) (fun _ => intact_pure _))))

theorem intact_getIncident (id : Nat) : Intact (getIncident id) :=
  Program.avoids_bind (intact_read _) (fun _ =>
    Program.avoids_bind (intact_loadComponents _) (fun _ =>
      Program.avoids_bind (intact_loadStatuses _) (fun _ => intact_pure _)))

theorem intact_getEventsByType (type : EventType) (descending : Bool) :
    Intact (getEventsByType type descending) :=
  Program.avoids_bind (intact_read _) (fun _ =>
    Program.avoids_bind (intact_loadStatuses _) (fun _ => intact_pure _))

theorem intact_loadIncidentRows (chunks : List (List Nat)) : Intact (loadIncidentRows chunks) := by
  induction chunks with
  | nil => exact intact_pure _
  | cons chunk chunks ih =>
    exact Program.avoids_bind (intact_read _) (fun _ =>
      Program.avoids_bind (intact_loadComponents _) (fun _ =>
        Program.avoids_bind ih (fun _ => intact_pure _)))

theorem intact_getIncidents (region componentName : String) :
    Intact (getIncidents region componentName) := by
  unfold getIncidents
  split_ifs
  · exact Program.avoids_bind (intact_read _) (fun _ =>
      Program.avoids_bind (intact_filterTime _) (fun _ =>
        Program.avoids_bind (intact_read _) (fun _ => intact_loadEvents _)))
  · exact Program.avoids_bind (intact_read _) (fun _ =>
      Program.avoids_bind (intact_loadIncidentRows _) (fun _ =>
        Program.avoids_bind (intact_loadStatuses _) (fun _ => intact_pure _)))
  · exact Program.avoids_bind (intact_getEventsWithCount _ _) (fun _ => intact_pure _)

/-- A request stops at a missing value only in what it makes of the answer. -/
theorem readRequest_intact (request : ReadRequest) (isAuth : Bool) :
    (request.program isAuth).Avoids database (.internal .nilDereference) := by
  have lists : ∀ params,
      (getEventsHandler isAuth params).Avoids database (.internal .nilDereference) := by
    intro params
    apply Program.avoids_bind
    · exact Program.avoids_mapError (intact_getEventsWithCount isAuth params)
        (fun _ same => ApiError.internal.inj same)
    · exact fun _ => trivial
  cases request with
  | events params => exact lists params
  | incidents => exact lists _
  | event id =>
    change (getIncidentHandler isAuth id).Avoids database _
    unfold getIncidentHandler checkEventExistence
    apply Program.avoids_bind
    · split_ifs
      · exact nofun
      · apply Program.avoids_mapError (intact_getIncident id)
        intro error same
        split_ifs at same
        exact ApiError.internal.inj same
    · intro copy
      split_ifs
      · exact nofun
      · exact nofun
      · trivial
  | feed region componentName =>
    change (handleRSS region componentName).Avoids database _
    unfold handleRSS
    split_ifs
    · exact nofun
    · exact nofun
    · exact nofun
    · apply Program.avoids_bind
      · apply Program.avoids_mapError (intact_getIncidents region componentName)
        intro error same
        unfold feedError at same
        split_ifs at same
        exact ApiError.internal.inj same
      · exact fun _ => trivial

end Intact

/-! ## Read requests -/

variable {response : Response}

theorem dereference_intact {α : Type} {value : Option α} (present : value ≠ none) :
    (dereference value).Avoids database (.internal .nilDereference) := by
  cases value with
  | none => exact absurd rfl present
  | some => trivial

theorem mapM_toApiEvent_ne_none (filled : ∀ copy ∈ copies, Filled copy) (isAuth : Bool) :
    copies.mapM (fun copy => toApiEvent copy isAuth) ≠ none := by
  intro missing
  rcases mapM_eq_none_iff.mp missing with ⟨copy, member, failed⟩
  exact (filled copy member).toApiEvent isAuth failed

theorem renderEvents_ne_none (filled : ∀ copy ∈ carried response, Filled copy) (isAuth : Bool)
    (params : IncidentsParams) :
    renderEvents isAuth params response ≠ none := by
  unfold renderEvents
  split
  · split_ifs
    · exact nofun
    · exact fun missing =>
        mapM_toApiEvent_ne_none filled isAuth (bind_pure_eq_none_iff.mp missing)
  · exact nofun

theorem renderIncidents_ne_none (filled : ∀ copy ∈ carried response, Filled copy) (isAuth : Bool) :
    renderIncidents isAuth response ≠ none := by
  unfold renderIncidents
  split
  · exact fun missing => mapM_toApiEvent_ne_none filled isAuth (bind_pure_eq_none_iff.mp missing)
  · exact nofun

theorem renderEvent_ne_none (filled : ∀ copy ∈ carried response, Filled copy) (isAuth : Bool) :
    renderEvent isAuth response ≠ none := by
  unfold renderEvent
  split
  · exact fun missing => (filled _ (List.mem_singleton.mpr rfl)).toApiEvent isAuth
      (bind_pure_eq_none_iff.mp missing)
  · exact nofun

theorem answered_survives {read : ReadRequest} {isAuth : Bool} {rest : Response → Handler View}
    {final : Store} {events : List DbEvent} {outcome : Except ApiError View}
    (run : Run database (read.program isAuth >>= rest) store events outcome final)
    (continues : ∀ first response middle,
      Run database (read.program isAuth) store first (.ok response) middle →
      (∀ copy ∈ carried response, Filled copy) →
      (rest response).Avoids database (.internal .nilDereference)) :
    outcome ≠ .error (.internal .nilDereference) := by
  rcases run.bind_cases with ⟨error, rfl, failed⟩ | ⟨response, first, second, middle, _, read, rest⟩
  · intro same
    cases same
    exact (readRequest_intact _ isAuth).run failed rfl
  · have drawn := returned_of_yields (yields_readRequest_drawn _ isAuth store) read
    apply (continues first response middle read ?_).run rest
    intro copy member
    rcases drawn copy member with ⟨row, own⟩
    exact own.filled

/-- Without a hazard among the visible events no read request dereferences a
missing value. -/
theorem viewRequest_survives
    (safe : ∀ id row, store.incidents.get? id = some row → Visible store id row →
      ¬ FeedHazard (storedCopy store (id, row))) {request : ViewRequest}
    {format : String → Time → String} {isAuth : Bool} {events : List DbEvent}
    {outcome : Except ApiError View} {final : Store}
    (run : Run database (request.program format isAuth) store events outcome final) :
    outcome ≠ .error (.internal .nilDereference) := by
  cases request with
  | events params =>
    exact answered_survives run (fun _ response _ _ filled =>
      dereference_intact (renderEvents_ne_none filled isAuth params))
  | incidents =>
    exact answered_survives run (fun _ response _ _ filled =>
      dereference_intact (renderIncidents_ne_none filled isAuth))
  | event =>
    exact answered_survives run (fun _ response _ _ filled =>
      dereference_intact (renderEvent_ne_none filled isAuth))
  | feed =>
    apply answered_survives run
    intro first response middle read filled
    have drawn := returned_of_yields (yields_readRequest_drawn _ isAuth store) read
    rcases returned_of_yields (yields_handleRSS _ _ store) read with ⟨copies, total, rfl, visible⟩
    apply Program.avoids_bind
    · exact Program.avoids_mapError intact_currentTime (fun _ same => ApiError.internal.inj same)
    · intro created
      apply Program.avoids_bind
      · apply dereference_intact
        apply renderFeed_ne_none filled
        intro copy member hazard
        rcases drawn copy member with ⟨row, own⟩
        rcases visible copy member with ⟨other, found, shown⟩
        cases Option.some.inj (own.found.symm.trans found)
        exact safe copy.id row found shown (own.hazard hazard)
      · exact fun _ => trivial

end StatusDashboard.Properties
