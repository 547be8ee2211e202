import StatusDashboard.Storage.Load
import StatusDashboard.Storage.Reads

namespace StatusDashboard.Storage

open Event Tables Process

/-!
# Programs that run alone

The discipline of a program that nobody disturbs.  What a read returns is what
is stored at that moment, a list without a limit holds every stored event that
meets its conditions, and a transaction that commits acts on the store it was
called in.  What may be assumed about the readings of the clock is a parameter.
-/

/-- What is assumed about the instants of a run: how a reading of the clock fits
the store of its moment, and at which instants events are listed. -/
structure Clock where
  shows : Time → Store → Prop
  lists : Time → Prop := fun _ => True

instance : CoeFun Clock (fun _ => Time → Store → Prop) := ⟨Clock.shows⟩

/-- The instant at which a statement lists the events. -/
def Query.listingTime : {β : Type} → Query β → Option Time
  | _, .events _ _ time => some time
  | _, _ => none

/-- The instant of an event is as the clock is assumed to be. -/
def Ticks (reading : Clock) (event : DbEvent) : Prop :=
  match event with
  | { operation := .now, result := time, before := store, .. } => reading time store
  | { operation := .read query, .. } => ∀ time ∈ query.listingTime, reading.lists time
  | _ => True

instance (reading : Clock) [∀ time store, Decidable (reading time store)]
    [DecidablePred reading.lists] : DecidablePred (Ticks reading) := fun event =>
  match event with
  | { operation := .now, result := time, before := store, .. } =>
    inferInstanceAs (Decidable (reading time store))
  | { operation := .read query, .. } =>
    inferInstanceAs (Decidable (∀ time ∈ query.listingTime, reading.lists time))
  | { operation := .write _, .. } => isTrue trivial
  | { operation := .deliver _, .. } => isTrue trivial
  | { operation := .send _ _, .. } => isTrue trivial
  | { operation := .backoff _, .. } => isTrue trivial

/-- The instants at which a run reads the clock. -/
def clockReadings (events : List DbEvent) : List Time :=
  events.filterMap (fun event =>
    match event with
    | { operation := .now, result := time, .. } => some time
    | _ => none)

/-- The instants at which a run lists the events. -/
def listingTimes (events : List DbEvent) : List Time :=
  events.filterMap (fun event =>
    match event with
    | { operation := .read query, .. } => query.listingTime
    | _ => none)

/-- The clock of a run. -/
def clockOf (events : List DbEvent) : Clock where
  shows time _ := time ∈ clockReadings events
  lists time := time ∈ listingTimes events

theorem ticks_clockOf {events : List DbEvent} {event : DbEvent} (member : event ∈ events) :
    Ticks (clockOf events) event := by
  rcases event with ⟨operation, result, before, after⟩
  cases operation with
  | now => exact List.mem_filterMap.mpr ⟨_, member, rfl⟩
  | read => exact fun time listed => List.mem_filterMap.mpr ⟨_, member, listed⟩
  | _ => trivial

/-- An evaluation reads the same instant every time. -/
theorem clockReadings_trail {ε α : Type} (choice : Choice) (program : Program Op ε α)
    (store : Store) :
    ∀ time ∈ clockReadings (program.trail database choice store), time = choice.now := by
  induction program generalizing store with
  | done | fail => exact nofun
  | perform operation next ih =>
    intro time read
    rcases List.mem_filterMap.mp read with ⟨event, member, shown⟩
    rcases List.mem_cons.mp member with rfl | later
    · cases operation with
      | now => exact (Option.some.inj shown).symm
      | _ => cases shown
    · exact ih _ _ time (List.mem_filterMap.mpr ⟨event, later, shown⟩)

/-- The instant is the only one that is read. -/
def atInstant (now : Time) : Clock where
  shows time _ := time = now

theorem ticks_atInstant {now : Time} {events : List DbEvent}
    (constant : ∀ time ∈ clockReadings events, time = now) :
    ∀ event ∈ events, Ticks (atInstant now) event := by
  intro event member
  have read := ticks_clockOf member
  rcases event with ⟨operation, result, before, after⟩
  cases operation with
  | now => exact constant _ read
  | read => exact fun _ _ => trivial
  | _ => trivial

/-- The clock shows a time after the zero time.  This matters because a stored
zero time is read back as a missing one. -/
def afterZero : Clock where
  shows time _ := zeroTime < time

instance (time : Time) (store : Store) : Decidable (afterZero time store) :=
  inferInstanceAs (Decidable (zeroTime < time))

instance : DecidablePred afterZero.lists := fun _ => isTrue trivial

def ClockRuns : DbEvent → Prop :=
  Ticks afterZero

instance : DecidablePred ClockRuns :=
  inferInstanceAs (DecidablePred (Ticks afterZero))

def solo (reading : Clock) : Discipline where
  rely := Eq
  assume := Ticks reading
  guarantee _ := True
  always _ := True
  preorder := eq_preorder
  keeps _ _ := trivial
  steps _ _ _ _ _ _ := trivial
  silent _ _ _ _ := trivial

namespace Solo

variable {reading : Clock} {α β : Type} {store : Store}

/-- What a program yields alone holds after a run that succeeds. -/
theorem run {ε : Type} {program : Program Op ε α} {post : α → Store → Prop}
    {events : List DbEvent} {value : α} {final : Store}
    (yields : (solo reading).Yields post program store)
    (run : Run database program store events (.ok value) final)
    (clocked : ∀ event ∈ events, Ticks reading event) : post value final :=
  ((yields trivial).run run clocked).2.2 value rfl

theorem yields_pure {ε : Type} {post : α → Store → Prop} {value : α} (holds : post value store) :
    (solo reading).Yields post (pure value : Program Op ε α) store := by
  apply Regime.yields_pure
  rintro later same _
  exact same ▸ holds

theorem yields_currentTime (store : Store) :
    (solo reading).Yields (fun time later => store = later ∧ reading time store) currentTime store := by
  apply Regime.yields_perform
  · intro later choice _ _ _
    trivial
  · intro later choice same _ clocked _
    apply Regime.yields_done
    intro further onward _
    refine ⟨same.trans onward, ?_⟩
    rw [same]
    exact clocked

theorem yields_read (query : Query β) (store : Store) :
    (solo reading).Yields (fun value later => store = later ∧ ∃ rank, query.eval rank store = .ok value)
      (read query) store := by
  apply ((solo reading).yields_read query store).mono
  rintro value later _ ⟨seen, rfl, _, ⟨choice, _, answer⟩, rfl⟩
  exact ⟨rfl, choice.rank, answer⟩

theorem yields_write (statement : EventWrite β) (store : Store) :
    (solo reading).Yields (fun value later => ∃ choice, statement.exec choice store = .ok (value, later))
      (write statement) store := by
  apply ((solo reading).yields_write (fun _ _ _ _ _ => trivial)).mono
  rintro value later _ ⟨before, after, rfl, _, ⟨choice, commits, _⟩, rfl⟩
  exact ⟨choice, commits⟩

/-- A program that only reads leaves the store as it is. -/
theorem yields_reads {ε : Type} {program : Program Op ε α} (reads : Reads program)
    (store : Store) : (solo reading).Yields (fun _ later => store = later) program store := by
  intro _
  apply (reads.ensures (Ticks reading) store).mono
  intro outcome final same
  exact ⟨trivial, fun _ _ => same⟩

/-! ## Lists -/

/-- Copies of exactly the stored events that meet a condition, each listed once. -/
structure Lists (store : Store) (condition : Nat → IncidentRow → Prop)
    (copies : List Incident) : Prop where
  distinct : (copies.map Incident.id).Nodup
  sound : ∀ copy ∈ copies, ∃ row, store.incidents.get? copy.id = some row ∧
    condition copy.id row ∧ copy = storedCopy store (copy.id, row)
  complete : ∀ id row, store.incidents.get? id = some row → condition id row →
    storedCopy store (id, row) ∈ copies

/-- Lists for conditions that stored events meet together have the same copies. -/
theorem Lists.mem_iff {first second : Nat → IncidentRow → Prop} {copies others : List Incident}
    (listed : Lists store first copies) (other : Lists store second others)
    (same : ∀ id row, store.incidents.get? id = some row → (first id row ↔ second id row))
    (copy : Incident) : copy ∈ copies ↔ copy ∈ others := by
  constructor
  · intro member
    rcases listed.sound copy member with ⟨row, found, meets, shape⟩
    exact shape ▸ other.complete copy.id row found ((same copy.id row found).mp meets)
  · intro member
    rcases other.sound copy member with ⟨row, found, meets, shape⟩
    exact shape ▸ listed.complete copy.id row found ((same copy.id row found).mpr meets)

theorem yields_loadEvents {rows : List (Nat × IncidentRow)} {condition : Nat → IncidentRow → Prop}
    (distinct : (rows.map Prod.fst).Nodup)
    (stored : ∀ id row, (id, row) ∈ rows ↔
      store.incidents.get? id = some row ∧ condition id row) :
    (solo reading).Yields (fun copies later => store = later ∧ Lists store condition copies)
      (loadEvents rows) store := by
  apply ((solo reading).yields_loadEvents distinct (fun entry member =>
    ((stored entry.1 entry.2).mp member).1) rfl).mono
  rintro copies later _ ⟨same, ids, readings⟩
  have here : store = later := same
  subst here
  have sound : ∀ copy ∈ copies, ∃ row, store.incidents.get? copy.id = some row ∧
      condition copy.id row ∧ copy = storedCopy store (copy.id, row) := by
    intro copy member
    rcases readings copy member with ⟨row, listed, reading⟩
    rcases reading.alone with ⟨_, found, shape⟩
    exact ⟨row, found, ((stored copy.id row).mp listed).2, shape⟩
  refine ⟨rfl, ids ▸ distinct, sound, ?_⟩
  intro id row found meets
  have listed : id ∈ copies.map Incident.id := by
    rw [ids]
    exact List.mem_map_of_mem ((stored id row).mpr ⟨found, meets⟩)
  rcases List.mem_map.mp listed with ⟨copy, member, rfl⟩
  rcases sound copy member with ⟨other, present, _, shape⟩
  have same := Option.some.inj (present.symm.trans found)
  subst same
  exact shape ▸ member

theorem yields_filterTime {params : IncidentsParams} (active : params.isActive = some true)
    (store : Store) :
    (solo reading).Yields (fun time later => store = later ∧ reading time store) (filterTime params) store := by
  unfold filterTime
  rw [if_pos active]
  exact yields_currentTime store

/-- The active events that meet the other filters, all of them. -/
theorem yields_getEventsWithCount {params : IncidentsParams} {isAuth : Bool}
    (active : params.isActive = some true)
    (unlimited : params.limit = none ∧ params.lastCount = 0) (store : Store) :
    (solo reading).Yields (fun result later => store = later ∧
        ∃ time, (reading time store ∧ reading.lists time) ∧ Lists store (fun id row =>
          (applyEventsFilters params isAuth time store id row).all Truth.selects = true) result.1)
      (getEventsWithCount isAuth params) store := by
  have pages : ∀ rows, paginate params rows = .ok rows := by
    intro rows
    unfold paginate
    rw [unlimited.1, unlimited.2]
    rfl
  unfold getEventsWithCount
  rw [if_neg (by rw [active]; decide)]
  apply (yields_filterTime active store).bind
  rintro time later _ ⟨rfl, clock⟩
  apply (yields_read (.countEvents params isAuth time) store).bind
  rintro total later _ ⟨rfl, _⟩
  apply ((solo reading).yields_read (.events params isAuth time) store).bind
  rintro rows later _ ⟨seen, rfl, _, ⟨choice, listing, answer⟩, rfl⟩
  have whole : (selectRows store (applyEventsFilters params isAuth time store)).insertionSort
      (startsBefore choice.rank) = rows := Except.ok.inj ((pages _).symm.trans answer)
  have sorted := List.perm_insertionSort (startsBefore choice.rank)
    (selectRows store (applyEventsFilters params isAuth time store))
  rw [whole] at sorted
  apply (yields_loadEvents (events_eval answer).1 (fun id row =>
    sorted.mem_iff.trans mem_selectRows)).bind
  rintro copies later _ ⟨rfl, lists⟩
  exact yields_pure ⟨rfl, time, ⟨clock, listing time rfl⟩, lists⟩

theorem yields_getEvents {params : IncidentsParams} {isAuth : Bool}
    (active : params.isActive = some true)
    (unlimited : params.limit = none ∧ params.lastCount = 0) (store : Store) :
    (solo reading).Yields (fun copies later => store = later ∧
        ∃ time, (reading time store ∧ reading.lists time) ∧ Lists store (fun id row =>
          (applyEventsFilters params isAuth time store id row).all Truth.selects = true) copies)
      (getEvents isAuth params) store := by
  apply (yields_getEventsWithCount active unlimited store).bind
  rintro result later _ ⟨rfl, held⟩
  exact yields_pure ⟨rfl, held⟩

/-- The active events of a component, all of them. -/
theorem yields_getEventsByComponentID {params : IncidentsParams} {componentID : Nat}
    (active : params.isActive = some true) (unlimited : params.lastCount = 0) (store : Store) :
    (solo reading).Yields (fun copies later => store = later ∧ ∃ time, reading time store ∧
        Lists store (fun id row =>
          (componentEventConditions componentID params time store id row).all Truth.selects = true)
          copies)
      (getEventsByComponentID componentID params) store := by
  apply (yields_filterTime active store).bind
  rintro time later _ ⟨rfl, clock⟩
  apply (yields_read (.eventsByComponent componentID params time) store).bind
  rintro rows later _ ⟨rfl, rank, answer⟩
  have whole : selectRows store (componentEventConditions componentID params time store) = rows := by
    have eval := answer
    simp only [Query.eval, unlimited, if_true] at eval
    exact Except.ok.inj eval
  apply (yields_loadEvents (eventsByComponent_eval answer).1 (fun id row => by
    rw [← whole]
    exact mem_selectRows)).mono
  rintro copies later _ ⟨rfl, lists⟩
  exact ⟨rfl, time, clock, lists⟩

/-- The events of one type, all of them, without their components. -/
structure ListsType (store : Store) (type : EventType) (copies : List Incident) : Prop where
  distinct : (copies.map Incident.id).Nodup
  sound : ∀ copy ∈ copies, ∃ row, store.incidents.get? copy.id = some row ∧ row.type = type ∧
    copy = incidentFromEnt copy.id row [] (loadedHistory store copy.id)
  complete : ∀ id row, store.incidents.get? id = some row → row.type = type →
    id ∈ copies.map Incident.id

theorem yields_getEventsByType (type : EventType) (descending : Bool) (store : Store) :
    (solo reading).Yields (fun copies later => store = later ∧ ListsType store type copies)
      (getEventsByType type descending) store := by
  apply (yields_read (.eventsByType type descending) store).bind
  rintro rows later _ ⟨rfl, rank, answer⟩
  rcases eventsByType_eval answer with ⟨distinct, stored⟩
  have whole : ∀ id row, store.incidents.get? id = some row → row.type = type →
      id ∈ rows.map Prod.fst := by
    intro id row found typed
    have listed : (id, row) ∈ store.incidents.rows.filter (fun entry => entry.2.type = type) :=
      List.mem_filter.mpr ⟨SerialTable.mem_rows.mpr found, by simpa using typed⟩
    cases answer
    split_ifs
    · exact List.mem_map_of_mem (List.mem_reverse.mpr listed)
    · exact List.mem_map_of_mem listed
  have ids : ∀ statuses, (attach rows [] statuses).map Incident.id = rows.map Prod.fst := by
    intro statuses
    unfold attach
    rw [List.map_map]
    rfl
  apply ((solo reading).yields_statusesByIncident distinct store).bind
  rintro statuses last _ ⟨reached, histories⟩
  change store = last at reached
  subst reached
  apply yields_pure
  refine ⟨rfl, by rw [ids]; exact distinct, ?_, by rw [ids]; exact whole⟩
  intro copy member
  rcases List.mem_map.mp member with ⟨entry, listed, rfl⟩
  rcases histories entry.1 (List.mem_map_of_mem listed) with ⟨third, before, _, same⟩
  change store = third at before
  subst before
  refine ⟨entry.2, (stored entry listed).1, (stored entry listed).2, ?_⟩
  rw [same]
  rfl

end Solo

end StatusDashboard.Storage
