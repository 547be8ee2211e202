import StatusDashboard.Properties.Priority
import StatusDashboard.Properties.Redistribution

namespace StatusDashboard.Properties

open Event Storage Tables Notification Handlers Process Provenance Sequence

/-!
# System creations answer truthfully

A system creation fixes its answer component by component, and while it goes on
it moves components, closes incidents, raises and splits them.  What it takes
components from is always a system incident below the requested impact, and
what it has named before never is one: no later step can take an answer back.
-/

/-- Active for the events of a component: no end date, or between the dates with a
status that is not a final one. -/
def Active (now : Time) (row : IncidentRow) : Prop :=
  Truth.selects (activeCondition now [.resolved, .completed, .cancelled, .completed, .cancelled]
    row) = true

/-- A stored event that answers for a component: an active incident which contains it
and is non-system or has at least the requested impact. -/
structure Covers (now : Time) (impact : Int) (component id : Nat) (store : Store) : Prop where
  stored : ∃ row, store.incidents.get? id = some row ∧ row.type = .incident ∧ Active now row ∧
    (row.system = false ∨ impact ≤ row.impact)
  linked : component ∈ store.componentIds id

/-! ## Activity -/

/-- With fewer final statuses more events are active. -/
theorem active_subset {time : Time} {wider narrower : List Status} {row : IncidentRow}
    (subset : ∀ status ∈ narrower, status ∈ wider)
    (active : Truth.selects (activeCondition time wider row) = true) :
    Truth.selects (activeCondition time narrower row) = true := by
  cases ended : row.endDate with
  | none => exact open_active ended
  | some date =>
    cases known : row.status with
    | none => simp [activeCondition, ended, statusIn, known, Truth.compare] at active
    | some status =>
      simp only [activeCondition, ended, statusIn, known, Truth.compare] at active ⊢
      by_cases begun : row.startDate ≤ time
      · by_cases due : time ≤ date
        · simp [begun, due] at active ⊢
          exact fun final => active (subset status final)
        · simp [due] at active
      · simp [begun] at active

/-- An active event that is written back from a copy is active. -/
theorem active_written {time : Time} {finished : List Status} {row later : IncidentRow}
    (start : later.startDate = row.startDate) (ending : later.endDate = optTimePtr row.endDate)
    (status : later.status = some (row.status.getD .unset))
    (active : Truth.selects (activeCondition time finished row) = true) :
    Truth.selects (activeCondition time finished later) = true := by
  rcases optTimePtr_cases row.endDate with none | same
  · exact open_active (ending.trans none)
  · cases ended : row.endDate with
    | none => exact open_active (by rw [ending, ended]; rfl)
    | some =>
      cases known : row.status with
      | none => simp [activeCondition, ended, statusIn, known, Truth.compare] at active
      | some =>
        rw [same] at ending
        rw [known, Option.getD_some] at status
        unfold activeCondition statusIn at active ⊢
        rw [start, ending, status, ← known]
        exact active

/-! ## Earlier answers -/

section Kept

variable {now : Time} {impact : Int} {component id : Nat} {store final : Store}

/-- An answer stands when its event is rewritten without what matters to it. -/
theorem Covers.mono (covers : Covers now impact component id store)
    (rows : ∀ row, store.incidents.get? id = some row → ∃ later,
      final.incidents.get? id = some later ∧ later.type = row.type ∧
        (Active now row → Active now later) ∧ later.system = row.system ∧
        later.impact = row.impact)
    (links : component ∈ store.componentIds id → component ∈ final.componentIds id) :
    Covers now impact component id final := by
  rcases covers.stored with ⟨row, found, type, active, enough⟩
  rcases rows row found with ⟨later, present, sameType, stays, sameSystem, sameImpact⟩
  refine ⟨⟨later, present, sameType.trans type, stays active, ?_⟩, links covers.linked⟩
  rw [sameSystem, sameImpact]
  exact enough

theorem Covers.unchanged (covers : Covers now impact component id store)
    (row : final.incidents.get? id = store.incidents.get? id)
    (links : ∀ other, other ∈ final.componentIds id ↔ other ∈ store.componentIds id) :
    Covers now impact component id final :=
  covers.mono (fun earlier found => ⟨earlier, row.trans found, rfl, fun active => active, rfl, rfl⟩)
    (links component).mpr

end Kept

section Steps

variable {now : Time} {data : IncidentData} {component : Component} {source target : Incident}
  {store final : Store}

variable {other id : Nat}

/-- What components are taken from answers for nothing. -/
theorem Covers.not_source (covers : Covers now data.impact other id store)
    (outranked : Outranked (atInstant now) data component source store) : id ≠ source.id := by
  rintro rfl
  rcases outranked.source with ⟨_, row, _, found, _, shape, _, system⟩
  rcases outranked with ⟨_, _, _, lower⟩
  rcases covers.stored with ⟨stored, present, _, _, enough⟩
  cases found.symm.trans present
  rw [shape] at system lower
  rcases enough with regular | high
  · exact absurd (system.symm.trans regular) (by decide)
  · exact absurd lower (not_lt.mpr high)

/-- The target of a move keeps its columns. -/
theorem moved_target_row {named : Component} {timeNow : Time} {close : Bool} {choice : Choice}
    {copies : Incident × Incident} {row : IncidentRow}
    (found : store.incidents.get? target.id = some row)
    (shape : target = storedCopy store (target.id, row)) (apart : source.id ≠ target.id)
    (commits : (moveStatement timeNow named source target close).exec choice store =
      .ok (copies, final)) :
    ∃ later, final.incidents.get? target.id = some later ∧ later.type = row.type ∧
      (Active now row → Active now later) ∧ later.system = row.system ∧
      later.impact = row.impact := by
  have released := movedSource_id timeNow named source target close
  have takes : (receiveComponent timeNow named source target).id = target.id := rfl
  have stored := (exec_footprint commits).rows _ _ found
  rw [EventWrite.rewritten, ← takes, writtenRow_first (by rw [released]; exact apart)] at stored
  refine ⟨_, stored, ?_⟩
  rw [shape]
  exact ⟨rfl, active_written rfl rfl rfl, rfl, rfl⟩

/-- No step takes an earlier answer back. -/
theorem systemStep_covers {entry : ProcessComponentResp}
    (step : SystemStep (atInstant now) data component store entry final)
    (covers : Covers now data.impact other id store) :
    Covers now data.impact other id final := by
  cases step with
  | kept => exact covers
  | @added target updated status choice final unused level commits =>
    have footprint := exec_footprint commits
    refine covers.mono ?_ (fun linked => (footprint.linked id other).mpr (Or.inl linked))
    intro row found
    refine ⟨_, footprint.rows id row found, ?_⟩
    rw [EventWrite.rewritten]
    split_ifs <;> exact ⟨rfl, fun active => active, rfl, rfl⟩
  | @created created choice final unused level commits =>
    have footprint := exec_footprint commits
    refine covers.mono ?_ (fun linked => (footprint.linked id other).mpr (Or.inl linked))
    intro row found
    exact ⟨row, footprint.rows id row found, rfl, fun active => active, rfl, rfl⟩
  | @moved source target named timeNow copies choice final outranked level clock same commits =>
    have notSource := covers.not_source outranked
    rcases outranked.source with ⟨_, sourceRow, _, sourceFound, _, sourceShape, _⟩
    rcases level.target with ⟨_, targetRow, _, targetFound, _, targetShape, _⟩
    have sourceSettled : Settled source := sourceShape ▸ settled_storedCopy sourceFound
    have targetSettled : Settled target := targetShape ▸ settled_storedCopy targetFound
    by_cases here : id = target.id
    · subst here
      refine covers.mono ?_ ?_
      · intro row found
        cases targetFound.symm.trans found
        exact moved_target_row targetFound targetShape (outranked.apart level) commits
      · intro linked
        have held := ((inSync_stored targetFound targetShape).linked other).mp linked
        have takes : (receiveComponent timeNow named source target).id = target.id := rfl
        rw [(exec_footprint commits).linked, EventWrite.links, releaseComponent_id,
          if_neg notSource, takes, if_pos rfl, mem_wantedIds]
        rw [mem_wantedIds] at held
        unfold Incident.componentIds receiveComponent
        rw [List.map_append, List.mem_append]
        exact ⟨Or.inl held.1, held.2⟩
    · have unchanged := moved_unchanged sourceSettled targetSettled commits notSource here
      exact covers.unchanged unchanged.row unchanged.linked
  | @raised source timeNow choice final outranked level clock commits =>
    have notSource := covers.not_source outranked
    have footprint := exec_footprint commits
    refine covers.mono ?_ (footprint.linked id other).mpr
    intro row found
    refine ⟨_, footprint.rows id row found, ?_⟩
    rw [EventWrite.rewritten,
      if_neg (show id ≠ (raisedIncident timeNow source data.impact).id from notSource)]
    exact ⟨rfl, fun active => active, rfl, rfl⟩
  | @split source result marked choice middle final outranked level extraction commits =>
    have notSource := covers.not_source outranked
    rcases outranked.source with ⟨_, row, _, found, _, shape, _⟩
    have settled : Settled source := shape ▸ settled_storedCopy found
    cases extraction with
    | @intro timeNow saving moving saved copies between middle nonempty clock saves moves =>
      have extracted := extracted_of_commits (by rw [found]; simp) settled saves moves
      rcases covers.stored with ⟨earlier, present, _⟩
      have notNew : id ≠ saved.id := by
        rw [(saved_row saves).id]
        exact Nat.ne_of_lt (SerialTable.lt_nextId_of_get? present)
      rcases extracted.others id notNew notSource with ⟨sameRow, sameLinks⟩
      rcases extractComponentsTx_ok moves with ⟨_, statuses, _, copied⟩
      have resultId : copies.2.id = saved.id := by rw [copied]; rfl
      have footprint := exec_footprint commits
      refine (covers.unchanged sameRow sameLinks).mono ?_ (footprint.linked id other).mpr
      intro row found
      refine ⟨_, footprint.rows id row found, ?_⟩
      rw [EventWrite.rewritten, if_neg (show id ≠ copies.2.id from resultId ▸ notNew)]
      exact ⟨rfl, fun active => active, rfl, rfl⟩

theorem systemSteps_covers {components : List Component} {entries : List ProcessComponentResp}
    (steps : SystemSteps (atInstant now) data components store entries final)
    (covers : Covers now data.impact other id store) : Covers now data.impact other id final := by
  induction steps with
  | done => exact covers
  | step first rest ih => exact ih (systemStep_covers first covers)

end Steps

/-! ## New answers -/

section New

variable {now : Time} {data : IncidentData} {component : Component} {store final : Store}

variable {target source : Incident} {choice : Choice} {timeNow : Time}

/-- A listed event that is left as it is answers for the component. -/
theorem covers_listed {events : List Incident} {event : Incident} {impact : Int}
    (listed : ListsOf (atInstant now) component.id store events) (member : event ∈ events)
    (type : event.type ≠ .maintenance)
    (enough : event.system = false ∨ impact ≤ event.impact.getD 0) :
    Covers now impact component.id event.id store := by
  rcases listed with ⟨time, rfl, lists⟩
  rcases lists.sound event member with ⟨row, found, selected, shape⟩
  rcases componentParams_selects ⟨_, selected⟩ with ⟨linked, types⟩
  rw [shape] at type enough
  exact ⟨⟨row, found, types.resolve_right type, active_of_component rfl selected, enough⟩, linked⟩

/-- The incident found on the level of the request, once it has the component. -/
theorem covers_target (level : OnLevel (atInstant now) data.impact store
      (some target)) (rows : ∀ row, store.incidents.get? target.id = some row →
      target = storedCopy store (target.id, row) → ∃ later,
      final.incidents.get? target.id = some later ∧ later.type = row.type ∧
        (Active now row → Active now later) ∧ later.system = row.system ∧
        later.impact = row.impact) (linked : component.id ∈ final.componentIds target.id) :
    Covers now data.impact component.id target.id final := by
  rcases level.target with ⟨time, row, rfl, found, selected, shape, impact⟩
  have active : Active time row := by
    refine active_subset ?_ (active_of_filters rfl selected)
    intro status member
    simp only [List.mem_cons, List.not_mem_nil, or_false] at member ⊢
    rcases member with same | same | same | same | same <;> simp [same]
  rcases rows row found shape with ⟨later, present, type, stays, _, sameImpact⟩
  refine ⟨⟨later, present, ?_, stays active, Or.inr ?_⟩, linked⟩
  · exact type.trans (systemParams_selects ⟨_, selected⟩).1
  · rw [shape] at impact
    rw [sameImpact]
    exact (Option.some.inj impact).ge

theorem covers_added {updated : Incident} {status : IncidentStatus} (nonzero : component.id ≠ 0)
    (level : OnLevel (atInstant now) data.impact store (some target))
    (commits : (EventWrite.addComponent target component status).exec choice store =
      .ok (updated, final)) : Covers now data.impact component.id target.id final := by
  have footprint := exec_footprint commits
  refine covers_target level ?_ ((footprint.linked _ _).mpr (Or.inr ⟨rfl, rfl, nonzero⟩))
  intro row found _
  refine ⟨_, footprint.rows _ row found, ?_⟩
  rw [EventWrite.rewritten, if_pos rfl]
  exact ⟨rfl, fun active => active, rfl, rfl⟩

theorem covers_created {created : Incident} (nonzero : component.id ≠ 0)
    (type : data.type = .incident) (ongoing : data.endDate = none)
    (commits : (EventWrite.createEvent none (systemIncident data component) none).exec choice
      store = .ok (created, final)) :
    Covers now data.impact component.id created.id final := by
  rcases created_row commits with ⟨newId, _, _, _, _, stored⟩
  refine ⟨⟨_, stored, type, open_active ongoing, Or.inr (le_refl _)⟩, ?_⟩
  refine ((exec_footprint commits).linked _ _).mpr (Or.inr ⟨newId, ?_⟩)
  exact mem_wantedIds.mpr ⟨List.mem_singleton.mpr rfl, nonzero⟩

theorem covers_moved {named : Component} {close : Bool} {copies : Incident × Incident}
    (nonzero : component.id ≠ 0) (outranked : Outranked (atInstant now) data component source store)
    (level : OnLevel (atInstant now) data.impact store (some target))
    (same : named.id = component.id)
    (commits : (moveStatement timeNow named source target close).exec choice store =
      .ok (copies, final)) : Covers now data.impact component.id copies.2.id final := by
  have apart := outranked.apart level
  rw [(moved_target commits).1]
  refine covers_target level ?_ ?_
  · intro row found shape
    exact moved_target_row found shape apart commits
  · have takes : (receiveComponent timeNow named source target).id = target.id := rfl
    rw [(exec_footprint commits).linked, EventWrite.links, releaseComponent_id,
      if_neg (Ne.symm apart), takes, if_pos rfl, mem_wantedIds]
    unfold Incident.componentIds receiveComponent
    rw [List.map_append, List.mem_append]
    exact ⟨Or.inr (List.mem_singleton.mpr same.symm), nonzero⟩

/-- Raising an incident changes neither its dates nor its status. -/
theorem active_raised {row : IncidentRow} {impact : Int}
    (shape : source = storedCopy store (source.id, row)) (active : Active now row) :
    Active now (raisedRow timeNow (raisedIncident timeNow source impact) row) := by
  have ending : source.endDate.or row.endDate = row.endDate := by
    rw [shape]
    change (optTimePtr row.endDate).or row.endDate = row.endDate
    rcases optTimePtr_cases row.endDate with none | same
    · rw [none, Option.none_or]
    · rw [same, Option.or_self]
  have status : (if source.status = .unset then row.status else some source.status) =
      row.status := by
    rw [shape]
    change (if row.status.getD .unset = .unset then row.status
      else some (row.status.getD .unset)) = row.status
    cases known : row.status with
    | none => rfl
    | some => exact ite_self _
  have start : source.startDate.getD row.startDate = row.startDate := by
    rw [shape]
    rfl
  unfold Active activeCondition statusIn raisedRow raisedIncident at *
  dsimp only
  rw [ending, status, start]
  exact active

theorem covers_raised (outranked : Outranked (atInstant now) data component source store)
    (commits : (EventWrite.increaseImpact timeNow (raisedIncident timeNow source data.impact)
      (impactChangedStatus timeNow source data.impact)).exec choice store = .ok ((), final)) :
    Covers now data.impact component.id source.id final := by
  rcases outranked.source with ⟨time, row, rfl, found, selected, shape, type, _⟩
  have footprint := exec_footprint commits
  have stored := footprint.rows _ row found
  have raises : (raisedIncident timeNow source data.impact).id = source.id := rfl
  rw [EventWrite.rewritten, raises, if_pos rfl] at stored
  refine ⟨⟨_, stored, type, active_raised shape (active_of_component rfl selected),
    Or.inr (le_refl _)⟩, ?_⟩
  exact (footprint.linked _ _).mpr (componentParams_selects ⟨_, selected⟩).1

theorem covers_split {result marked : Incident} {middle : Store} (nonzero : component.id ≠ 0)
    (outranked : Outranked (atInstant now) data component source store)
    (extraction : Extraction (atInstant now) [component] source data.impact data.title
      (some data.description) store result middle)
    (commits : (EventWrite.modifyIncident { result with system := true }).exec choice middle =
      .ok (marked, final)) : Covers now data.impact component.id marked.id final := by
  rcases outranked.source with ⟨_, row, _, found, _, shape, type, _⟩
  cases extraction with
  | @intro timeNow saving moving saved copies between middle nonempty clock saves moves =>
    have relocated := extraction_relocated (inSync_stored found shape) type saves moves
    rcases extraction_row saves moves relocated.apart with
      ⟨new, created, newType, impact, _, _, ending⟩
    rcases extractComponentsTx_ok moves with ⟨_, statuses, _, copied⟩
    rcases saveIncidentTx_ok saves with ⟨_, savedStatuses, _, savedShape⟩
    rcases modifyIncident_ok commits with ⟨version, _, _, _, markedShape⟩
    have resultId : copies.2.id = saved.id := by rw [copied]; rfl
    have markedId : marked.id = saved.id := by rw [markedShape]; exact resultId
    have footprint := exec_footprint commits
    have stored := footprint.rows _ new created
    rw [EventWrite.rewritten, if_pos (show saved.id = copies.2.id from resultId.symm)] at stored
    rw [markedId]
    refine ⟨⟨_, stored, ?_, open_active ?_, Or.inr ?_⟩, ?_⟩
    · change copies.2.type = .incident
      rw [copied, savedShape]
      rfl
    · change copies.2.endDate.or new.endDate = none
      rw [copied, savedShape, ending]
      rfl
    · change data.impact ≤ copies.2.impact.getD new.impact
      rw [copied, savedShape]
      exact le_refl _
    · refine (footprint.linked _ _).mpr ((relocated.received _).mpr ⟨?_, nonzero⟩)
      exact List.mem_singleton.mpr rfl

/-- A regular incident that a scan ends at is one of those scanned. -/
theorem scanEvents_regular {events : List Incident} {event : Incident}
    (scanned : scanEvents none events = .regular event) :
    event ∈ events ∧ event.type ≠ .maintenance ∧ event.system = false := by
  rw [scanEvents_eq] at scanned
  cases found : events.find? decisive with
  | none =>
    rw [found] at scanned
    cases head : events.head? with
    | none | some =>
      rw [head] at scanned
      cases scanned
  | some =>
    rw [found] at scanned
    dsimp only [settledBy] at scanned
    split_ifs at scanned with type
    cases scanned
    exact ⟨List.mem_of_find?_eq_some found, type,
      regular_of_decisive (List.find?_some found) type⟩

/-- What the answer for one component says in a store. -/
def Answers (now : Time) (impact : Int) (entry : ProcessComponentResp) (store : Store) : Prop :=
  entry.error = none → Covers now impact entry.componentId entry.incidentId store

theorem systemStep_answers {entry : ProcessComponentResp} (nonzero : component.id ≠ 0)
    (type : data.type = .incident) (ongoing : data.endDate = none)
    (step : SystemStep (atInstant now) data component store entry final) :
    entry.componentId = component.id ∧ Answers now data.impact entry final := by
  cases step with
  | kept listed settled =>
    refine ⟨rfl, fun unflawed => ?_⟩
    rcases settled unflawed with scanned | ⟨scanned, enough⟩
    · rcases scanEvents_regular scanned with ⟨member, incident, regular⟩
      exact covers_listed listed member incident (Or.inl regular)
    · rcases Setting.scanEvents_system scanned with impossible | ⟨member, incident, _⟩
      · cases impossible
      · exact covers_listed listed member incident (Or.inr enough)
  | added unused level commits =>
    rw [(addComponentTx_ok commits).2]
    exact ⟨rfl, fun _ => covers_added nonzero level commits⟩
  | created unused level commits =>
    exact ⟨rfl, fun _ => covers_created nonzero type ongoing commits⟩
  | moved outranked level clock same commits =>
    exact ⟨rfl, fun _ => covers_moved nonzero outranked level same commits⟩
  | raised outranked level clock commits => exact ⟨rfl, fun _ => covers_raised outranked commits⟩
  | split outranked level extraction commits =>
    exact ⟨rfl, fun _ => covers_split nonzero outranked extraction commits⟩

/-- The loop over the components: one entry each, and the later steps leave the
earlier entries true. -/
theorem systemSteps_answer {components : List Component} {entries : List ProcessComponentResp}
    (nonzero : ∀ component ∈ components, component.id ≠ 0) (type : data.type = .incident)
    (ongoing : data.endDate = none)
    (steps : SystemSteps (atInstant now) data components store entries final) :
    entries.map ProcessComponentResp.componentId = components.map Component.id ∧
      ∀ entry ∈ entries, Answers now data.impact entry final := by
  induction steps with
  | done => exact ⟨rfl, List.forall_mem_nil _⟩
  | step first rest ih =>
    rcases List.forall_mem_cons.mp nonzero with ⟨here, others⟩
    rcases systemStep_answers here type ongoing first with ⟨named, answers⟩
    rcases ih others with ⟨names, truthful⟩
    refine ⟨by rw [List.map_cons, List.map_cons, named, names], List.forall_mem_cons.mpr ?_⟩
    exact ⟨fun unflawed => systemSteps_covers rest (answers unflawed), truthful⟩

end New

/-! ## The theorem -/

/-- A system creation that succeeds alone and at one instant has one entry for each
requested component, in order, and after the whole request every entry without
an error names an active incident that contains the component and is non-system
or has at least the requested impact. -/
theorem system_answers_truthfully {deployment : Deployment} {route : CreationRoute}
    {caller : Caller} {data : IncidentData} {now : Time} {store final : Store}
    {events : List DbEvent} {response : Response} (system : data.system = some true)
    (run : Run database ((Activity.post route caller data).program deployment) store events
      (.ok response) final)
    (constant : ∀ time ∈ clockReadings events, time = now) :
    ∃ result conflict, response = .created result conflict ∧
      result.map ProcessComponentResp.componentId = data.components ∧
      ∀ entry ∈ result, entry.error = none →
        Covers now data.impact entry.componentId entry.incidentId final := by
  have clock := ticks_atInstant constant
  have creation := Solo.run (yields_created deployment route caller data store) run clock
  cases creation with
  | regular regular => exact absurd system regular
  | system flag type valid steps fetched =>
    have described : (withDefaultDescription data).impact = data.impact ∧
        (withDefaultDescription data).type = .incident ∧
        (withDefaultDescription data).endDate = none := by
      unfold withDefaultDescription
      split_ifs <;> exact ⟨rfl, type, valid.ongoing type⟩
    rcases described with ⟨impact, incident, ongoing⟩
    rcases systemSteps_answer (fun component member => valid.nonzero _ (fetched ▸
      List.mem_map_of_mem member)) incident ongoing steps with ⟨named, truthful⟩
    rw [impact] at truthful
    exact ⟨_, _, rfl, named.trans fetched, truthful⟩

/-- A system incident of two components. -/
def systemPair : Store :=
  (replay quietDeployment [(.post .events anAdmin (incidentReport true [1, 2] 1), atTime 20)]
    (bareStore 2)).2

/-- A report of a higher impact splits the incident, then closes what is left of it. -/
theorem system_answers_truthfully_split :
    Covers 30 2 1 2 (((Activity.post .events anAdmin (incidentReport true [1, 2, 1] 2)).program
      quietDeployment).evaluate database (atTime 30) systemPair).2 ∧
    Covers 30 2 2 2 (((Activity.post .events anAdmin (incidentReport true [1, 2, 1] 2)).program
      quietDeployment).evaluate database (atTime 30) systemPair).2 := by
  have run := Program.evaluate_run database (atTime 30)
    ((Activity.post .events anAdmin (incidentReport true [1, 2, 1] 2)).program quietDeployment)
    systemPair
  have answered : (((Activity.post .events anAdmin (incidentReport true [1, 2, 1] 2)).program
      quietDeployment).evaluate database (atTime 30) systemPair).1 =
      .ok (.created (entriesFor 2 [1, 2, 1]) false) := by decide +kernel
  rw [answered] at run
  rcases system_answers_truthfully rfl run (by decide +kernel : ∀ time ∈ clockReadings _,
    time = 30) with ⟨result, conflict, same, _, truthful⟩
  cases same
  exact ⟨truthful ⟨1, 2, none⟩ (by decide) rfl, truthful ⟨2, 2, none⟩ (by decide) rfl⟩

end StatusDashboard.Properties
