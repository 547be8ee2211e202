import StatusDashboard.Properties.ClockLaw
import StatusDashboard.Properties.Dereference

namespace StatusDashboard.Properties

open Event Storage Tables Handlers Process Checker Provenance

/-!
# The checkers converge

While the clock stands still and nobody else writes, an event is bound for one
status: cancelled if it was ever cancelled, and otherwise the one the checkers
compare for.  At the instant it starts that is completed, which is not what its
dates call for.  `Watch.distance` counts the writes that take it there.  It is
two only for a reviewed maintenance that has started, which is planned first.

Every write of a checker takes one off the distance of the event it writes and
leaves all others alone, and a round takes one off every event it watches that
is not there yet.  So the distance bounds the writes, and when it is used up
the rounds change nothing.
-/

namespace Watch

variable {now : Time} {event : Incident}

def type : Watch → EventType
  | .maintenance => .maintenance
  | .info => .information

def program (publisher : Option Notification.Publisher) : Watch → DbProgram Unit
  | .maintenance => checkMaintenance publisher
  | .info => checkInfoEvents

/-- The status a checker computes for an event. -/
def current (watch : Watch) (now : Time) (event : Incident) : Status :=
  match watch with
  | .maintenance => currentMntStatus now event
  | .info => currentInfoStatus now event

/-- Drafts are left to the reviewers. -/
def Skips (watch : Watch) (event : Incident) : Prop :=
  watch = .maintenance ∧ event.status = .pendingReview

instance (watch : Watch) (event : Incident) : Decidable (watch.Skips event) :=
  inferInstanceAs (Decidable (_ ∧ _))

/-- The status an event is bound for, by the comparisons of the checkers: they depart
from the dates of the event at the instant of its start. -/
def verdict (watch : Watch) (now : Time) (event : Incident) : Status :=
  if hasUpdate event .cancelled then .cancelled
  else comparedStatus watch.running now (event.startDate.getD zeroTime) event.endDate

/-- The number of writes that take an event there. -/
def distance (watch : Watch) (now : Time) (event : Incident) : Nat :=
  if event.status = watch.current now event ∨ watch.Skips event then 0
  else if watch.current now event = watch.verdict now event then 1
  else 2

/-- The most writes an event can need. -/
def bound : Watch → Nat
  | .maintenance => 2
  | .info => 1

/-- Only a review comes before the clock. -/
theorem current_of_unreviewed (watch : Watch) (unreviewed : event.status ≠ .reviewed) :
    watch.current now event = watch.verdict now event := by
  cases watch with
  | maintenance =>
    unfold current currentMntStatus verdict
    rw [if_neg unreviewed]
    rfl
  | info => rfl

theorem current_cases (watch : Watch) (now : Time) (event : Incident) :
    watch.current now event = watch.verdict now event ∨
      watch = .maintenance ∧ watch.current now event = .planned := by
  by_cases reviewed : event.status = .reviewed
  · cases watch with
    | info => exact Or.inl rfl
    | maintenance =>
      unfold current currentMntStatus verdict
      by_cases cancelled : hasUpdate event .cancelled = true
      · rw [if_pos cancelled, if_pos cancelled]
        exact Or.inl rfl
      · rw [if_neg cancelled, if_pos reviewed]
        exact Or.inr ⟨rfl, rfl⟩
  · exact Or.inl (watch.current_of_unreviewed reviewed)

/-- The checkers compute only statuses of the life of an event. -/
theorem current_mem (watch : Watch) (now : Time) (event : Incident) :
    watch.current now event ∈ [Status.cancelled, .planned, watch.running, .completed] := by
  cases watch with
  | maintenance => exact currentMntStatus_mem now event
  | info =>
    unfold current currentInfoStatus infoStatusAt
    dsimp only
    split_ifs <;> simp [running]

/-- They never ask for a review and never forget a status. -/
theorem current_ne (watch : Watch) (now : Time) (event : Incident) :
    watch.current now event ≠ .reviewed ∧ watch.current now event ≠ .pendingReview ∧
      watch.current now event ≠ .unset := by
  have life := watch.current_mem now event
  cases watch <;> simp only [running, List.mem_cons, List.not_mem_nil, or_false] at life <;>
    rcases life with same | same | same | same <;> rw [same] <;> decide

theorem distance_le_bound (watch : Watch) (now : Time) (event : Incident) :
    watch.distance now event ≤ watch.bound := by
  unfold distance
  split_ifs with settled last
  · exact Nat.zero_le _
  · cases watch <;> decide
  · rcases watch.current_cases now event with same | ⟨rfl, _⟩
    · exact absurd same last
    · exact le_rfl

/-- A write that stores the computed status takes one off the distance. -/
theorem distance_step (watch : Watch) {after : Incident}
    (changes : event.status ≠ watch.current now event) (watched : ¬ watch.Skips event)
    (status : after.status = watch.current now event)
    (sameVerdict : watch.verdict now after = watch.verdict now event) :
    watch.distance now after + 1 = watch.distance now event := by
  rcases watch.current_ne now event with ⟨unreviewed, submitted, _⟩
  have next : watch.current now after = watch.verdict now event := by
    rw [watch.current_of_unreviewed (by rw [status]; exact unreviewed), sameVerdict]
  have onward : ¬ watch.Skips after := fun skips => submitted (status.symm.trans skips.2)
  unfold distance
  rw [if_neg (not_or.mpr ⟨changes, watched⟩), next, sameVerdict, status]
  by_cases last : watch.current now event = watch.verdict now event
  · rw [if_pos (Or.inl last), if_pos last]
  · rw [if_neg (not_or.mpr ⟨last, onward⟩), if_pos rfl, if_neg last]

/-- An event at distance zero that is no draft has the status it is bound for. -/
theorem status_of_distance (watch : Watch) (watched : ¬ watch.Skips event)
    (arrived : watch.distance now event = 0) :
    event.status = watch.verdict now event := by
  unfold distance at arrived
  split_ifs at arrived with settled
  have same := settled.resolve_right watched
  have unreviewed : event.status ≠ .reviewed := by
    rw [same]
    exact (watch.current_ne now event).1
  rw [same, watch.current_of_unreviewed unreviewed]

theorem verdict_set (watch : Watch) (now : Time) (event : Incident) :
    watch.verdict now event ≠ .unset := by
  unfold verdict comparedStatus
  cases watch <;> split_ifs <;> simp [running]

/-- The clock status does not depend on the components or the further history. -/
theorem verdict_congr (watch : Watch) {after : Incident}
    (cancelled : hasUpdate after .cancelled = hasUpdate event .cancelled)
    (startDate : after.startDate = event.startDate) (endDate : after.endDate = event.endDate) :
    watch.verdict now after = watch.verdict now event := by
  unfold verdict
  rw [cancelled, startDate, endDate]

end Watch

/-! ## Distances in a store -/

variable {store final : Store} {id : Nat} {row : IncidentRow} {watch : Watch}

def watchOf : EventType → Option Watch
  | .maintenance => some .maintenance
  | .information => some .info
  | .incident => none

/-- What the writes of the checkers keep of an event. -/
@[ext] structure Outline where
  type : EventType
  startDate : Option Time
  endDate : Option Time
  cancelled : Bool
  draft : Bool
deriving DecidableEq

def outline (store : Store) (id : Nat) : Option Outline :=
  (store.incidents.get? id).map (fun row => {
    type := row.type
    startDate := (storedCopy store (id, row)).startDate
    endDate := (storedCopy store (id, row)).endDate
    cancelled := hasUpdate (storedCopy store (id, row)) .cancelled
    draft := row.type = .maintenance ∧ (storedCopy store (id, row)).status = .pendingReview })

/-- The writes a stored event still needs. -/
def todo (now : Time) (store : Store) (id : Nat) : Nat :=
  match store.incidents.get? id with
  | none => 0
  | some row =>
    match watchOf row.type with
    | none => 0
    | some watch => watch.distance now (storedCopy store (id, row))

/-- Whether an operation writes an event.  A write of another kind than the
checkers make counts for every event. -/
def writesTo (id : Nat) (event : DbEvent) : Bool :=
  match event with
  | { operation := .write (.checkerPatch _ fresh _), .. } => fresh.id = id
  | { operation := .write (.modifyIncident incident), .. } => incident.id = id
  | { operation := .write _, .. } => true
  | _ => false

/-- The operation keeps all outlines, and what it writes comes nearer by one. -/
structure Approaches (now : Time) (event : DbEvent) : Prop where
  outline : ∀ id, outline event.after id = outline event.before id
  todo : ∀ id, todo now event.after id + (writesTo id event).toNat = todo now event.before id
  quiet : (∀ id, writesTo id event = false) → event.after = event.before

/-! ## What a write does to the distances -/

theorem todo_of_found {now : Time} (found : store.incidents.get? id = some row)
    (typed : watchOf row.type = some watch) :
    todo now store id = watch.distance now (storedCopy store (id, row)) := by
  unfold todo
  rw [found]
  dsimp only
  rw [typed]

theorem watchOf_type (watch : Watch) : watchOf watch.type = some watch := by
  cases watch <;> rfl

theorem todo_le_bound (now : Time) (found : store.incidents.get? id = some row)
    (typed : row.type = watch.type) :
    todo now store id ≤ watch.bound := by
  rw [todo_of_found found (typed ▸ watchOf_type watch)]
  exact watch.distance_le_bound now _

/-- Only events of the two watched types need writes. -/
theorem todo_cases (now : Time) (store : Store) (id : Nat) :
    todo now store id = 0 ∨
      ∃ (watch : Watch) (row : IncidentRow), store.incidents.get? id = some row ∧
        row.type = watch.type := by
  cases found : store.incidents.get? id with
  | none =>
    left
    unfold todo
    rw [found]
  | some row =>
    cases type : row.type with
    | maintenance => exact Or.inr ⟨.maintenance, row, rfl, type⟩
    | information => exact Or.inr ⟨.info, row, rfl, type⟩
    | incident =>
      left
      unfold todo
      rw [found]
      dsimp only
      rw [type]
      rfl

/-- Where row and history are the same, outline and distance are. -/
theorem Elsewhere.untouched {other : Nat} (elsewhere : Elsewhere id store final)
    (apart : other ≠ id) (now : Time) :
    outline final other = outline store other ∧ todo now final other = todo now store other := by
  rcases elsewhere other apart with ⟨rows, history⟩
  unfold outline todo storedCopy
  dsimp only
  rw [rows, history]
  cases store.incidents.get? other with
  | none | some => exact ⟨rfl, rfl⟩

/-- Nothing a checker adds to a history is a cancellation. -/
theorem Watch.uncancelled_missing (watch : Watch) (event : Incident) (status : Status) :
    Status.cancelled ∉ watch.missing event status := by
  intro member
  have listed := (List.mem_filter.mp member).1
  unfold Watch.presupposed at listed
  cases watch <;> split_ifs at listed <;> simp [Watch.running] at listed

/-- The history after a checker write is the history before it and the updates
that were missing. -/
theorem cancelled_of_modified {time : Time} {components : List Component} {status : Status}
    {version : Int} (modified : Modified time { watch.completed
      (incidentFromEnt id row components (loadedHistory store id)) status with status := status }
      version store final) :
    (loadedHistory final id).any (fun update => update.status == .cancelled) =
      (loadedHistory store id).any (fun update => update.status == .cancelled) := by
  set copy := incidentFromEnt id row components (loadedHistory store id) with shape
  have settled : Settled copy := settled_loaded id row components store
  have added : newStatusRows time id (copy.statuses ++
      (watch.missing copy status).map (watch.update copy)) =
      (watch.missing copy status).map (fun before => statusRow time id (watch.update copy before)) :=
    newStatusRows_appended settled (fun _ => rfl)
  rcases history_insertAll id modified.statuses with ⟨entries, listed, values⟩
  have quiet : ∀ entry ∈ entries, entry.2.status ≠ .cancelled := by
    intro entry member cancelled
    have held : entry.2 ∈ entries.map Prod.snd := List.mem_map_of_mem member
    rw [values] at held
    have new := (List.mem_filter.mp held).1
    change entry.2 ∈ newStatusRows time id (copy.statuses ++ _) at new
    rw [added] at new
    rcases List.mem_map.mp new with ⟨before, missing, same⟩
    have cancelled : before = .cancelled := by
      rw [← cancelled, ← same]
      rfl
    exact watch.uncancelled_missing copy status (cancelled ▸ missing)
  unfold loadedHistory
  rw [listed, List.map_append, List.any_append]
  have uncancelled : (entries.map (fun entry => incidentStatusFromEnt entry.1 entry.2)).any
      (fun update => update.status == .cancelled) = false := by
    rw [List.any_eq_false]
    intro update member
    rcases List.mem_map.mp member with ⟨entry, stored, rfl⟩
    exact fun same => quiet entry stored (eq_of_beq same)
  rw [uncancelled, Bool.or_false]

/-- A checker write keeps every outline and takes one off its own event. -/
theorem approaches_of_modified {now time : Time} {middle : Store} {components : List Component}
    {version : Int} {copy : Incident}
    (shape : copy = incidentFromEnt id row components (loadedHistory store id))
    (found : store.incidents.get? id = some row) (typed : watchOf row.type = some watch)
    (changes : copy.status ≠ watch.current now copy) (watched : ¬ watch.Skips copy)
    (modified : Modified time { watch.completed copy (watch.current now copy) with
      status := watch.current now copy } version store middle) (same : SameEvents middle final) :
    ((∀ other, outline final other = outline store other) ∧
      ∀ other, todo now final other + (decide (id = other)).toNat = todo now store other) ∧
      Elsewhere id store final := by
  subst shape
  set copy := incidentFromEnt id row components (loadedHistory store id) with shape
  set status := watch.current now copy with computed
  set patched : Incident := { watch.completed copy status with status := status } with patch
  have present : final.incidents.get? id = some (modifiedRow time patched (version + 1) row) := by
    rw [same.incidents, modified.incidents]
    exact (get?_update_some found).trans (congrArg some (if_pos rfl))
  have history : (loadedHistory final id).any (fun update => update.status == .cancelled) =
      (loadedHistory store id).any (fun update => update.status == .cancelled) := by
    have kept : loadedHistory final id = loadedHistory middle id := by
      unfold loadedHistory Store.history
      rw [same.statuses]
    rw [kept]
    exact cancelled_of_modified modified
  have stored : (modifiedRow time patched (version + 1) row).status = some status :=
    modifiedRow_status _ _ _ _ (watch.current_ne now copy).2.2
  have dates : optTimePtr (modifiedRow time patched (version + 1) row).endDate =
      optTimePtr row.endDate := by
    change optTimePtr ((optTimePtr row.endDate).or row.endDate) = _
    rw [optTimePtr_or]
  have elsewhere : Elsewhere id store final := by
    have added : ∀ update ∈ (watch.missing copy status).map (watch.update copy),
        update.incidentId = copy.id := by
      intro update member
      rcases List.mem_map.mp member with ⟨before, _, rfl⟩
      rfl
    have statuses : patched.statuses =
        copy.statuses ++ (watch.missing copy status).map (watch.update copy) := rfl
    have own : OwnUpdates patched :=
      ownUpdates_append (settled_loaded id row components store) rfl statuses added
    exact (elsewhere_of_modified modified own).of_sameEvents same
  have apart : ∀ other, other ≠ id → outline final other = outline store other ∧
      todo now final other = todo now store other :=
    fun other different => elsewhere.untouched different now
  have cancelled : hasUpdate (storedCopy final (id, modifiedRow time patched (version + 1) row))
      .cancelled = hasUpdate copy .cancelled := history
  have named : (storedCopy final (id, modifiedRow time patched (version + 1) row)).status =
      status := congrArg (fun column => column.getD .unset) stored
  refine ⟨⟨?_, ?_⟩, elsewhere⟩
  · intro other
    by_cases own : other = id
    · subst own
      have before : ¬ (row.type = .maintenance ∧ copy.status = .pendingReview) := by
        rintro ⟨maintenance, draft⟩
        rw [maintenance] at typed
        exact watched ⟨(Option.some.inj typed).symm, draft⟩
      have after : ¬ (row.type = .maintenance ∧ (storedCopy final (other,
          modifiedRow time patched (version + 1) row)).status = .pendingReview) := by
        rintro ⟨_, draft⟩
        exact (watch.current_ne now copy).2.1 (named.symm.trans draft)
      have drafts := (decide_eq_false after).trans (decide_eq_false before).symm
      unfold outline
      rw [present, found]
      exact congrArg some (Outline.ext rfl rfl dates cancelled drafts)
    · exact (apart other own).1
  · intro other
    by_cases own : other = id
    · subst own
      rw [todo_of_found found typed, todo_of_found present typed, decide_eq_true rfl]
      exact watch.distance_step changes watched named (watch.verdict_congr cancelled rfl dates)
    · rw [(apart other own).2, decide_eq_false (fun equal => own equal.symm)]
      rfl

/-! ## Undisturbed programs -/

/-- The database answers a statement, and the clock shows the instant. -/
def Answered (now : Time) {β : Type} : Op β → β → Prop
  | .now, time => time = now
  | .read _, answer => answer.isOk = true
  | .write _, answer => answer.isOk = true
  | _, _ => True

instance (now : Time) : DecidablePred (fun event : DbEvent =>
    Answered now event.operation event.result) := fun event =>
  match event with
  | { operation := .now, result := time, .. } => inferInstanceAs (Decidable (time = now))
  | { operation := .read _, result := answer, .. } =>
    inferInstanceAs (Decidable (answer.isOk = true))
  | { operation := .write _, result := answer, .. } =>
    inferInstanceAs (Decidable (answer.isOk = true))
  | { operation := .deliver _, .. } => isTrue trivial
  | { operation := .send _ _, .. } => isTrue trivial
  | { operation := .backoff _, .. } => isTrue trivial

section Programs

variable {now : Time} {store : Store} {α : Type}

variable {program : DbProgram α} {post : α → Store → Prop} {β : Type}

/-- Alone, at one instant and with every statement answered, the program only
brings events nearer and ends as the postcondition says. -/
def Steers (now : Time) (post : α → Store → Prop) (program : DbProgram α) (store : Store) : Prop :=
  Ensures database Eq (fun event => Answered now event.operation event.result) (Approaches now)
    (fun outcome final => ∃ value, outcome = .ok value ∧ post value final) program store

theorem Steers.bind {γ : Type} {rest : α → DbProgram γ} {middle : α → Store → Prop}
    {post : γ → Store → Prop} (first : Steers now middle program store)
    (second : ∀ value later, middle value later → Steers now post (rest value) later) :
    Steers now post (program >>= rest) store := by
  apply Ensures.bind first
  · rintro value later ⟨_, same, held⟩
    cases same
    exact second value later held
  · rintro error later ⟨_, impossible, _⟩
    cases impossible

theorem steers_pure {value : α} (holds : post value store) :
    Steers now post (pure value) store := by
  rintro later rfl
  exact ⟨value, rfl, holds⟩

/-- Reading brings nothing nearer and nothing away. -/
theorem approaches_silent (choice : Choice) (operation : Op β) (store : Store)
    (silent : operation.silent = true) :
    Approaches now (database.event choice operation store) := by
  have same : (database.event choice operation store).after = store :=
    perform_silent choice silent store
  have quiet : ∀ id, writesTo id (database.event choice operation store) = false := by
    intro id
    cases operation with
    | write => cases silent
    | _ => rfl
  refine ⟨fun id => by rw [same]; rfl, fun id => ?_, fun _ => same⟩
  rw [same, quiet id]
  rfl

theorem steers_reads (reads : Reads program) (delivers : program.Delivers (Answered now))
    (yields : (solo (atInstant now)).Yields post program store) :
    Steers now (fun value final => store = final ∧ post value final) program store := by
  have ticks : ∀ event : DbEvent, Answered now event.operation event.result →
      Ticks (atInstant now) event := by
    rintro ⟨operation, result, before, after⟩ answered
    cases operation with
    | now => exact answered
    | read => exact fun _ _ => trivial
    | _ => trivial
  have kept : Ensures database Eq (fun event => Answered now event.operation event.result)
      (Approaches now) (fun _ _ => True) program store :=
    Program.Only.ensures reads (fun choice operation state silent =>
      approaches_silent choice operation state silent) store
  have returned : Ensures database Eq (fun event => Answered now event.operation event.result)
      (fun _ => True) (fun outcome _ => ∃ value, outcome = .ok value) program store :=
    delivers.ensures Eq (fun _ answered => answered) store
  have unchanged := reads.ensures (fun event => Answered now event.operation event.result) store
  have yielded := (yields trivial).adapt ticks (fun _ held => held)
  apply ((kept.both (returned.both (unchanged.both yielded))).adapt (fun _ answered => answered)
    (fun _ held => held.1)).mono
  rintro outcome final ⟨_, ⟨value, rfl⟩, same, _, posts⟩
  exact ⟨value, rfl, same, posts value rfl⟩

/-- Every statement that changes events counts for one of them at least. -/
theorem writesTo_write (choice : Choice) (statement : EventWrite β) (store : Store) :
    ∃ id, writesTo id (database.event choice (.write statement) store) = true := by
  cases statement with
  | checkerPatch publisher fresh => exact ⟨fresh.id, decide_eq_true rfl⟩
  | modifyIncident incident => exact ⟨incident.id, decide_eq_true rfl⟩
  | _ => exact ⟨0, rfl⟩

/-- A statement that commits. -/
theorem steers_write {statement : EventWrite β} {post : β → Store → Prop}
    (commits : ∀ choice value final, statement.exec choice store = .ok (value, final) →
      ((∀ id, outline final id = outline store id) ∧
        ∀ id, todo now final id + (writesTo id (database.event choice (.write statement)
          store)).toNat = todo now store id) ∧ post value final) :
    Steers now post (write statement) store := by
  rintro later rfl choice answered
  rcases commit_cases choice (statement.exec choice) store with ⟨error, shape⟩ |
    ⟨value, final, committed, shape⟩
  · have refused : (commit choice (statement.exec choice) store).1.isOk = true := answered
    rw [shape] at refused
    cases refused
  · rcases commits choice value final committed with ⟨⟨outlines, distances⟩, holds⟩
    have after : (database.event choice (.write statement) store).after = final := by
      change (commit choice (statement.exec choice) store).2 = final
      rw [shape]
    have loud : ¬ ∀ id, writesTo id (database.event choice (.write statement) store) = false := by
      intro silent
      rcases writesTo_write choice statement store with ⟨id, writes⟩
      exact absurd (writes.symm.trans (silent id)) (by decide)
    refine ⟨⟨fun id => by rw [after]; exact outlines id,
      fun id => by rw [after]; exact distances id, fun silent => absurd silent loud⟩, ?_⟩
    rw [perform_write, shape]
    rintro later rfl
    exact ⟨value, rfl, holds⟩

theorem steers_currentTime : Steers now (fun time final => store = final ∧ time = now) currentTime
    store :=
  steers_reads reads_currentTime (fun _ _ => trivial)
    ((Solo.yields_currentTime store).mono (fun _ _ _ held => held.2))

theorem Steers.mono {weaker : α → Store → Prop} (steers : Steers now post program store)
    (implies : ∀ value final, post value final → weaker value final) :
    Steers now weaker program store :=
  Ensures.mono steers (fun _ _ ⟨value, same, held⟩ => ⟨value, same, implies _ _ held⟩)

theorem Steers.attempt (steers : Steers now post program store) :
    Steers now (fun outcome final => ∃ value, outcome = .ok value ∧ post value final)
      (program.attempt : DbProgram (Except DbError α)) store := by
  unfold Steers
  rw [ensures_attempt]
  exact Ensures.mono steers (fun outcome _ held => ⟨outcome, rfl, held⟩)

theorem delivers_read (query : Query β) : (read query).Delivers (Answered now) :=
  Program.delivers_callExcept (fun error answered => by cases answered)

theorem delivers_statusesByIncident (ids : List Nat) :
    (statusesByIncident ids).Delivers (Answered now) := by
  have pieces : ∀ chunks, (loadStatuses chunks).Delivers (Answered now) := by
    intro chunks
    induction chunks with
    | nil => trivial
    | cons chunk chunks ih =>
      exact Program.delivers_bind (delivers_read _) (fun _ =>
        Program.delivers_bind ih (fun _ => trivial))
  exact pieces _

theorem delivers_getIncident (id : Nat) : (getIncident id).Delivers (Answered now) :=
  Program.delivers_bind (delivers_read _) (fun _ =>
    Program.delivers_bind (delivers_read _) (fun _ =>
      Program.delivers_bind (delivers_statusesByIncident _) (fun _ => trivial)))

theorem delivers_getEventsByType (type : EventType) (descending : Bool) :
    (getEventsByType type descending).Delivers (Answered now) :=
  Program.delivers_bind (delivers_read _) (fun _ =>
    Program.delivers_bind (delivers_statusesByIncident _) (fun _ => trivial))

theorem steers_getIncident (found : store.incidents.get? id = some row) :
    Steers now (fun fresh final => store = final ∧ fresh = storedCopy store (id, row))
      (getIncident id) store := by
  apply (steers_reads (reads_getIncident id) (delivers_getIncident id)
    ((solo (atInstant now)).yields_getIncident id store)).mono
  rintro fresh later ⟨rfl, other, first, rfl, reached, _, _, reading⟩
  change store = first at reached
  subst reached
  rcases reading.alone with ⟨_, present, assembled⟩
  cases Option.some.inj (found.symm.trans present)
  exact ⟨rfl, assembled⟩

theorem steers_calculateCurrentMntStatus (copy : Incident) :
    Steers now (fun status final => store = final ∧ status = Watch.maintenance.current now copy)
      (calculateCurrentMntStatus (calculateMntStatusHistory copy) copy) store := by
  unfold calculateCurrentMntStatus Watch.current currentMntStatus calculateMntStatusHistory
  dsimp only
  split_ifs
  · exact steers_pure ⟨rfl, rfl⟩
  · exact steers_pure ⟨rfl, rfl⟩
  · apply steers_currentTime.bind
    rintro time later ⟨rfl, rfl⟩
    exact steers_pure ⟨rfl, rfl⟩

theorem steers_calculateCurrentInfoStatus (copy : Incident) :
    Steers now (fun status final => store = final ∧ status = Watch.info.current now copy)
      (calculateCurrentInfoStatus (calculateInfoStatusHistory copy) copy) store := by
  unfold calculateCurrentInfoStatus Watch.current currentInfoStatus calculateInfoStatusHistory
  dsimp only
  split_ifs
  · exact steers_pure ⟨rfl, rfl⟩
  · apply steers_currentTime.bind
    rintro time later ⟨rfl, rfl⟩
    exact steers_pure ⟨rfl, rfl⟩

end Programs

/-! ## Visits and rounds -/

/-- One event is one write nearer, if it was not there yet, and all others are
as before. -/
structure Visited (now : Time) (id : Nat) (store final : Store) : Prop where
  elsewhere : Elsewhere id store final
  todo : todo now final id = todo now store id - 1

section Visits

variable {now : Time} {store : Store} {id : Nat} {row : IncidentRow} {copy : Incident}
variable {components : List Component}

theorem visited_of_settled (found : store.incidents.get? id = some row)
    (typed : watchOf row.type = some watch)
    (shape : copy = incidentFromEnt id row components (loadedHistory store id))
    (settled : copy.status = watch.current now copy ∨ watch.Skips copy) :
    Visited now id store store := by
  refine ⟨.refl _ _, ?_⟩
  have arrived : watch.distance now (storedCopy store (id, row)) = 0 := by
    subst shape
    exact if_pos settled
  rw [todo_of_found found typed, arrived]

theorem visited_of_write (nearer : ((∀ other, outline final other = outline store other) ∧
      ∀ other, todo now final other + (decide (id = other)).toNat = todo now store other) ∧
      Elsewhere id store final) : Visited now id store final := by
  refine ⟨nearer.2, ?_⟩
  have step := nearer.1.2 id
  rw [decide_eq_true rfl] at step
  exact Nat.eq_sub_of_add_eq step

theorem steers_checkerPatch {publisher : Option Notification.Publisher} {oldStatus : Status}
    (shape : copy = incidentFromEnt id row components (loadedHistory store id))
    (found : store.incidents.get? id = some row) (typed : watchOf row.type = some .maintenance)
    (changes : copy.status ≠ Watch.maintenance.current now copy)
    (watched : ¬ Watch.maintenance.Skips copy) :
    Steers now (fun _ final => Visited now id store final)
      (write (.checkerPatch publisher
        { Watch.maintenance.completed copy (Watch.maintenance.current now copy) with
          status := Watch.maintenance.current now copy } oldStatus)) store := by
  apply steers_write
  intro choice value final committed
  rcases checkerPatchTx_ok committed with ⟨version, middle, modified, _, published⟩
  have nearer := approaches_of_modified shape found typed changes watched modified
    (publishTx_sameEvents published)
  subst shape
  exact ⟨nearer.1, visited_of_write nearer⟩

theorem steers_modifyIncident
    (shape : copy = incidentFromEnt id row components (loadedHistory store id))
    (found : store.incidents.get? id = some row) (typed : watchOf row.type = some .info)
    (changes : copy.status ≠ Watch.info.current now copy) :
    Steers now (fun _ final => Visited now id store final)
      (write (.modifyIncident
        { Watch.info.completed copy (Watch.info.current now copy) with
          status := Watch.info.current now copy })) store := by
  apply steers_write
  intro choice value final committed
  rcases modifyIncident_ok committed with ⟨version, modified, _⟩
  have nearer := approaches_of_modified shape found typed changes (fun skips => by cases skips.1)
    modified (.refl _)
  subst shape
  exact ⟨nearer.1, visited_of_write nearer⟩

/-- The visit of one maintenance. -/
theorem steers_processMaintenance {publisher : Option Notification.Publisher}
    (shape : copy = incidentFromEnt id row [] (loadedHistory store id))
    (found : store.incidents.get? id = some row) (maintenance : row.type = .maintenance)
    (submitted : copy.status ≠ .pendingReview) (ended : copy.endDate ≠ none) :
    Steers now (fun _ final => Visited now id store final) (processMaintenance publisher copy)
      store := by
  have typed : watchOf row.type = some .maintenance := by
    rw [maintenance]
    rfl
  have watched : ¬ Watch.maintenance.Skips copy := fun skips => submitted skips.2
  unfold processMaintenance needsRefetch
  rw [Program.bind_assoc]
  apply (steers_calculateCurrentMntStatus copy).bind
  rintro status later ⟨rfl, rfl⟩
  change Steers now _ (if _ then _ else _) store
  split_ifs with differs
  · have changes : copy.status ≠ Watch.maintenance.current now copy := bne_iff_ne.mp differs
    subst shape
    apply (steers_getIncident found).bind
    rintro fresh later ⟨rfl, rfl⟩
    apply (steers_calculateCurrentMntStatus _).bind
    rintro status later ⟨rfl, rfl⟩
    have free : ¬ Watch.Stuck (storedCopy store (id, row))
        (Watch.maintenance.current now (storedCopy store (id, row))) :=
      fun stuck => ended stuck.2.2
    rw [Watch.fixMntMissedStatuses_eq, if_neg free]
    dsimp only
    have again : (storedCopy store (id, row)).status ≠
        Watch.maintenance.current now (storedCopy store (id, row)) := changes
    rw [if_neg again]
    apply (steers_checkerPatch rfl found typed again watched).bind
    exact fun _ later visited => steers_pure visited
  · have settled : copy.status = Watch.maintenance.current now copy := by
      simpa using differs
    exact steers_pure (visited_of_settled found typed shape (Or.inl settled))

end Visits

/-- The listed events are one write nearer, if they were not there yet, and all
others are as far as before. -/
def Passed (now : Time) (ids : List Nat) (store final : Store) : Prop :=
  ∀ id, todo now final id = if id ∈ ids then todo now store id - 1 else todo now store id

theorem Passed.cons {now : Time} {first : Nat} {ids : List Nat} {middle : Store}
    (fresh : first ∉ ids) (visited : Visited now first store middle)
    (passed : Passed now ids middle final) : Passed now (first :: ids) store final := by
  intro id
  rw [passed id]
  by_cases own : id = first
  · subst own
    rw [if_neg fresh, if_pos List.mem_cons_self, visited.todo]
  · rw [(visited.elsewhere.untouched own now).2]
    simp [own]

/-- The copy shows a stored event of a type without its components. -/
def ShowsBare (type : EventType) (store : Store) (copy : Incident) : Prop :=
  ∃ row, store.incidents.get? copy.id = some row ∧ row.type = type ∧
    copy = incidentFromEnt copy.id row [] (loadedHistory store copy.id)

theorem ShowsBare.of_elsewhere {type : EventType} {copy : Incident}
    (shown : ShowsBare type store copy) (elsewhere : Elsewhere id store final)
    (apart : copy.id ≠ id) : ShowsBare type final copy := by
  rcases shown with ⟨row, found, typed, shape⟩
  rcases elsewhere copy.id apart with ⟨same, history⟩
  exact ⟨row, same.trans found, typed, by rw [history]; exact shape⟩

/-- After the visit of the first copy the others still show what is stored. -/
theorem shown_later {type : EventType} {later : Store} {copy : Incident} {others : List Incident}
    (distinct : copy.id ∉ others.map Incident.id)
    (shown : ∀ other ∈ copy :: others, ShowsBare type store other)
    (elsewhere : Elsewhere copy.id store later) :
    ∀ other ∈ others, ShowsBare type later other := by
  intro other member
  apply (shown other (List.mem_cons_of_mem _ member)).of_elsewhere elsewhere
  intro same
  exact distinct (List.mem_map.mpr ⟨other, member, same⟩)

section Rounds

variable {now : Time} {store : Store}

theorem steers_processMaintenances {publisher : Option Notification.Publisher}
    {copies : List Incident} (distinct : (copies.map Incident.id).Nodup)
    (shown : ∀ copy ∈ copies, ShowsBare .maintenance store copy)
    (ended : ∀ copy ∈ copies, copy.status ≠ .pendingReview → copy.endDate ≠ none) :
    Steers now (fun _ final => Passed now (copies.map Incident.id) store final)
      (processMaintenances publisher copies) store := by
  induction copies generalizing store with
  | nil => exact steers_pure (fun id => by simp)
  | cons copy others ih =>
    rw [List.map_cons, List.nodup_cons] at distinct
    have rest : ∀ later, Visited now copy.id store later →
        Steers now (fun _ final => Passed now ((copy :: others).map Incident.id) store final)
          (processMaintenances publisher others) later := by
      intro later visited
      apply (ih distinct.2 (shown_later distinct.1 shown visited.elsewhere)
        (fun other member => ended other (List.mem_cons_of_mem _ member))).mono
      exact fun _ final passed => passed.cons distinct.1 visited
    rcases shown copy List.mem_cons_self with ⟨row, found, maintenance, shape⟩
    have typed : watchOf row.type = some .maintenance := by
      rw [maintenance]
      rfl
    unfold processMaintenances
    split_ifs with draft
    · exact rest store (visited_of_settled found typed shape (Or.inr ⟨rfl, draft⟩))
    · apply (steers_processMaintenance shape found maintenance draft
        (ended copy List.mem_cons_self draft)).attempt.bind
      rintro outcome later ⟨_, rfl, visited⟩
      rw [if_neg (by rintro ⟨⟩)]
      exact rest later visited

theorem steers_processInfoEvents {copies : List Incident}
    (distinct : (copies.map Incident.id).Nodup)
    (shown : ∀ copy ∈ copies, ShowsBare .information store copy)
    (ended : ∀ copy ∈ copies, copy.endDate ≠ none) :
    Steers now (fun _ final => Passed now (copies.map Incident.id) store final)
      (processInfoEvents copies) store := by
  induction copies generalizing store with
  | nil => exact steers_pure (fun id => by simp)
  | cons copy others ih =>
    rw [List.map_cons, List.nodup_cons] at distinct
    have rest : ∀ later, Visited now copy.id store later →
        Steers now (fun _ final => Passed now ((copy :: others).map Incident.id) store final)
          (processInfoEvents others) later := by
      intro later visited
      apply (ih distinct.2 (shown_later distinct.1 shown visited.elsewhere)
        (fun other member => ended other (List.mem_cons_of_mem _ member))).mono
      exact fun _ final passed => passed.cons distinct.1 visited
    rcases shown copy List.mem_cons_self with ⟨row, found, information, shape⟩
    have typed : watchOf row.type = some .info := by
      rw [information]
      rfl
    have free : ¬ Watch.Stuck copy (Watch.info.current now copy) :=
      fun stuck => ended copy List.mem_cons_self stuck.2.2
    unfold processInfoEvents
    apply (steers_calculateCurrentInfoStatus copy).bind
    rintro status later ⟨rfl, rfl⟩
    rw [Watch.fixInfoMissedStatuses_eq, if_neg free]
    dsimp only
    split_ifs with settled
    · exact rest store (visited_of_settled found typed shape (Or.inl settled))
    · apply (steers_modifyIncident shape found typed settled).bind
      exact fun _ later visited => rest later visited

end Rounds

/-! ## Repeated rounds -/

/-- Every event that the checkers look at has an end. -/
def EndsKnown (store : Store) : Prop :=
  ∀ id row, store.incidents.get? id = some row → row.type ≠ .incident →
    ¬ (row.type = .maintenance ∧ (storedCopy store (id, row)).status = .pendingReview) →
    (storedCopy store (id, row)).endDate ≠ none

/-- Ends are part of the outline. -/
theorem EndsKnown.of_outline (known : EndsKnown store)
    (same : ∀ id, outline final id = outline store id) : EndsKnown final := by
  intro id row found other submitted
  have alike := same id
  unfold outline at alike
  rw [found] at alike
  cases before : store.incidents.get? id with
  | none =>
    rw [before] at alike
    cases alike
  | some old =>
    rw [before] at alike
    have fields := Option.some.inj alike
    have type : row.type = old.type := congrArg Outline.type fields
    have ends : (storedCopy final (id, row)).endDate = (storedCopy store (id, old)).endDate :=
      congrArg Outline.endDate fields
    have draft : decide (row.type = .maintenance ∧
        (storedCopy final (id, row)).status = .pendingReview) = decide (old.type = .maintenance ∧
        (storedCopy store (id, old)).status = .pendingReview) := congrArg Outline.draft fields
    rw [ends]
    apply known id old before (type ▸ other)
    intro drafted
    rw [decide_eq_true drafted, decide_eq_true_iff] at draft
    exact submitted draft

/-- One complete round of a checker: alone, at one instant, every statement answered. -/
structure Round (publisher : Option Notification.Publisher) (now : Time) (watch : Watch)
    (store : Store) (events : List DbEvent) (final : Store) : Prop where
  run : ∃ outcome, Run database (watch.program publisher) store events outcome final
  answered : ∀ event ∈ events, Answered now event.operation event.result

/-- Rounds of the two checkers, one after another. -/
inductive Rounds (publisher : Option Notification.Publisher) (now : Time) :
    Store → List Watch → List DbEvent → Store → Prop
  | rest (store : Store) : Rounds publisher now store [] [] store
  | round {watch : Watch} {watches : List Watch} {store middle final : Store}
      {events later : List DbEvent} (first : Round publisher now watch store events middle)
      (others : Rounds publisher now middle watches later final) :
      Rounds publisher now store (watch :: watches) (events ++ later) final

section Repeated

variable {publisher : Option Notification.Publisher} {now : Time} {watch : Watch}
variable {store final : Store} {events : List DbEvent}

/-- Whether a checker looks at an event. -/
def watches (watch : Watch) (store : Store) (id : Nat) : Bool :=
  (store.incidents.get? id).any (fun row => row.type = watch.type)

theorem steers_program (known : EndsKnown store) :
    Steers now (fun _ final => ∀ id, todo now final id =
      if watches watch store id then todo now store id - 1 else todo now store id)
      (watch.program publisher) store := by
  have listed : ∀ {copies : List Incident}, Solo.ListsType store watch.type copies →
      ∀ id, id ∈ copies.map Incident.id ↔ watches watch store id = true := by
    intro copies lists id
    unfold watches
    rw [Option.any_eq_true]
    constructor
    · intro member
      rcases List.mem_map.mp member with ⟨copy, held, rfl⟩
      rcases lists.sound copy held with ⟨row, found, typed, _⟩
      exact ⟨row, found, by simpa using typed⟩
    · rintro ⟨row, found, typed⟩
      exact lists.complete id row found (by simpa using typed)
  have passed : ∀ {copies : List Incident} {final : Store},
      Solo.ListsType store watch.type copies → Passed now (copies.map Incident.id) store final →
      ∀ id, todo now final id =
        if watches watch store id then todo now store id - 1 else todo now store id := by
    intro copies final lists passed id
    rw [passed id]
    simp only [listed lists id]
  cases watch with
  | maintenance =>
    apply (steers_reads (reads_getEventsByType _ _) (delivers_getEventsByType _ _)
      (Solo.yields_getEventsByType .maintenance false store)).bind
    rintro copies later ⟨rfl, _, lists⟩
    apply (steers_processMaintenances lists.distinct lists.sound ?_).mono
    · exact fun _ final done => passed lists done
    · intro copy member submitted
      rcases lists.sound copy member with ⟨row, found, maintenance, shape⟩
      rw [shape]
      apply known copy.id row found (by rw [maintenance]; decide)
      rintro ⟨_, draft⟩
      rw [shape] at submitted
      exact submitted draft
  | info =>
    apply (steers_reads (reads_getEventsByType _ _) (delivers_getEventsByType _ _)
      (Solo.yields_getEventsByType .information true store)).bind
    rintro copies later ⟨rfl, _, lists⟩
    apply (steers_processInfoEvents lists.distinct lists.sound ?_).mono
    · exact fun _ final done => passed lists done
    · intro copy member
      rcases lists.sound copy member with ⟨row, found, information, shape⟩
      rw [shape]
      apply known copy.id row found (by rw [information]; decide)
      rintro ⟨maintenance, _⟩
      rw [information] at maintenance
      cases maintenance

/-- Along a run of approaches the writes of an event use up its distance. -/
theorem chained_approaches (chained : Chained store events final)
    (approaches : ∀ event ∈ events, Approaches now event) :
    (∀ id, outline final id = outline store id) ∧
      ∀ id, todo now final id + events.countP (writesTo id) = todo now store id := by
  induction events generalizing store with
  | nil =>
    cases chained
    exact ⟨fun _ => rfl, fun _ => rfl⟩
  | cons event events ih =>
    rcases chained with ⟨rfl, rest⟩
    have first := approaches event List.mem_cons_self
    rcases ih rest (fun other member => approaches other (List.mem_cons_of_mem _ member)) with
      ⟨outlines, distances⟩
    refine ⟨fun id => (outlines id).trans (first.outline id), ?_⟩
    intro id
    have counted : (event :: events).countP (writesTo id) =
        events.countP (writesTo id) + (writesTo id event).toNat := by
      rw [List.countP_cons]
      cases writesTo id event <;> rfl
    rw [counted, ← Nat.add_assoc, distances id, first.todo id]

/-- A run without a write leaves the store as it was. -/
theorem chained_quiet (chained : Chained store events final)
    (approaches : ∀ event ∈ events, Approaches now event)
    (quiet : ∀ id, ∀ event ∈ events, writesTo id event = false) : final = store := by
  induction events generalizing store with
  | nil => exact chained.symm
  | cons event events ih =>
    rcases chained with ⟨rfl, rest⟩
    have same := (approaches event List.mem_cons_self).quiet
      (fun id => quiet id event List.mem_cons_self)
    rw [ih rest (fun other member => approaches other (List.mem_cons_of_mem _ member))
      (fun id other member => quiet id other (List.mem_cons_of_mem _ member)), same]

theorem Round.approaches (round : Round publisher now watch store events final)
    (known : EndsKnown store) :
    Chained store events final ∧ (∀ event ∈ events, Approaches now event) ∧
      ∀ id, todo now final id =
        if watches watch store id then todo now store id - 1 else todo now store id := by
  rcases round.run with ⟨outcome, run⟩
  rcases Ensures.run (steers_program known) run round.answered with ⟨approaches, _, _, passed⟩
  exact ⟨run.2, approaches, passed⟩

/-- What a checker looks at is part of the outline. -/
theorem watches_of_outline (same : ∀ id, outline final id = outline store id) (id : Nat) :
    watches watch final id = watches watch store id := by
  have shape : ∀ store, watches watch store id =
      (outline store id).any (fun fields => fields.type = watch.type) := by
    intro store
    unfold watches outline
    rw [Option.any_map]
  rw [shape, shape, same id]

/-- Rounds use up the distances of the events they watch, by one each. -/
theorem Rounds.approaches {sequence : List Watch}
    (rounds : Rounds publisher now store sequence events final) (known : EndsKnown store) :
    (∀ id, outline final id = outline store id) ∧
      (∀ id, todo now final id + events.countP (writesTo id) = todo now store id) ∧
      ∀ watch id, watches watch store id = true →
        todo now final id ≤ todo now store id - sequence.count watch := by
  induction rounds with
  | rest => exact ⟨fun _ => rfl, fun _ => rfl, fun _ _ _ => le_rfl⟩
  | @round first sequence store middle final events later round others ih =>
    rcases round.approaches known with ⟨chained, approaches, passed⟩
    rcases chained_approaches chained approaches with ⟨outlines, distances⟩
    rcases ih (known.of_outline outlines) with ⟨laterOutlines, laterDistances, laterPassed⟩
    refine ⟨fun id => (laterOutlines id).trans (outlines id), ?_, ?_⟩
    · intro id
      have before := distances id
      have after := laterDistances id
      rw [List.countP_append]
      omega
    · intro watch id watched
      have after := laterPassed watch id (by rw [watches_of_outline outlines]; exact watched)
      have before := passed id
      rw [List.count_cons]
      by_cases own : first = watch
      · subst own
        rw [if_pos watched] at before
        simp only [beq_self_eq_true, if_true]
        omega
      · have nearer : todo now middle id ≤ todo now store id := by
          have := distances id
          omega
        simp only [beq_iff_eq, own, if_false]
        omega

/-- An event at distance zero has the status it was bound for from the start. -/
theorem arrived_status (typed : row.type = watch.type) (found : store.incidents.get? id = some row)
    (watched : ¬ watch.Skips (storedCopy store (id, row)))
    (same : ∀ id, outline final id = outline store id) (arrived : todo now final id = 0) :
    ∃ last, final.incidents.get? id = some last ∧
      last.status = some (watch.verdict now (storedCopy store (id, row))) := by
  have alike := same id
  unfold outline at alike
  rw [found] at alike
  cases present : final.incidents.get? id with
  | none =>
    rw [present] at alike
    cases alike
  | some last =>
    rw [present] at alike
    have fields := Option.some.inj alike
    have type : last.type = row.type := congrArg Outline.type fields
    have verdict : watch.verdict now (storedCopy final (id, last)) =
        watch.verdict now (storedCopy store (id, row)) :=
      watch.verdict_congr (congrArg Outline.cancelled fields)
        (congrArg Outline.startDate fields) (congrArg Outline.endDate fields)
    have draft : decide (last.type = .maintenance ∧
        (storedCopy final (id, last)).status = .pendingReview) = decide (row.type = .maintenance ∧
        (storedCopy store (id, row)).status = .pendingReview) := congrArg Outline.draft fields
    have onward : ¬ watch.Skips (storedCopy final (id, last)) := by
      rintro ⟨rfl, drafted⟩
      rw [decide_eq_true ⟨type.trans typed, drafted⟩] at draft
      exact watched ⟨rfl, (of_decide_eq_true draft.symm).2⟩
    have kind : watchOf last.type = some watch := by
      rw [type, typed]
      exact watchOf_type watch
    rw [todo_of_found present kind] at arrived
    have status := watch.status_of_distance onward arrived
    rw [verdict] at status
    refine ⟨last, rfl, ?_⟩
    cases column : last.status with
    | some =>
      change last.status.getD .unset = _ at status
      rw [column] at status
      exact congrArg some status
    | none =>
      change last.status.getD .unset = _ at status
      rw [column] at status
      exact absurd status.symm (watch.verdict_set now _)

end Repeated

/-- Rounds of the checkers at one instant write every event a bounded number of
times, take it to the status it is bound for, and then change nothing. -/
theorem checkers_converge (publisher : Option Notification.Publisher) (now : Time)
    {store final : Store} {sequence : List Watch} {events : List DbEvent}
    (known : EndsKnown store) (rounds : Rounds publisher now store sequence events final) :
    (∀ (watch : Watch) id row, store.incidents.get? id = some row → row.type = watch.type →
      ¬ watch.Skips (storedCopy store (id, row)) →
      events.countP (writesTo id) ≤ watch.bound ∧
        (watch.bound ≤ sequence.count watch → ∃ last, final.incidents.get? id = some last ∧
          last.status = some (watch.verdict now (storedCopy store (id, row))))) ∧
      ((∀ watch : Watch, watch.bound ≤ sequence.count watch) →
        ∀ watch further last, Round publisher now watch final further last →
          last = final ∧ ∀ id, further.countP (writesTo id) = 0) := by
  rcases rounds.approaches known with ⟨outlines, distances, passed⟩
  have arrives : ∀ (watch : Watch) id row, store.incidents.get? id = some row →
      row.type = watch.type → watch.bound ≤ sequence.count watch → todo now final id = 0 := by
    intro watch id row found typed enough
    have watched : watches watch store id = true := by
      unfold watches
      rw [found]
      exact decide_eq_true typed
    have near := todo_le_bound now found typed
    have nearer := passed watch id watched
    omega
  refine ⟨?_, ?_⟩
  · intro watch id row found typed watched
    refine ⟨?_, ?_⟩
    · have near := todo_le_bound now found typed
      have used := distances id
      omega
    · intro enough
      exact arrived_status typed found watched outlines (arrives watch id row found typed enough)
  · intro enough watch further last round
    have settled : ∀ id, todo now final id = 0 := by
      intro id
      rcases todo_cases now store id with nothing | ⟨watch, row, found, typed⟩
      · have used := distances id
        omega
      · exact arrives watch id row found typed (enough watch)
    rcases round.approaches (known.of_outline outlines) with ⟨chained, approaches, _⟩
    have unwritten : ∀ id, further.countP (writesTo id) = 0 := by
      intro id
      have used := (chained_approaches chained approaches).2 id
      rw [settled id] at used
      omega
    refine ⟨chained_quiet chained approaches ?_, unwritten⟩
    intro id event member
    have silent := List.countP_eq_zero.mp (unwritten id) event member
    simpa using silent

/-- A reviewed maintenance that is over. -/
def reviewedStore : Store :=
  Store.empty.insertIncident { plannedRow .maintenance 5 (some 9) with status := some .reviewed }

/-- The maintenance is planned first and completed in the second round. -/
theorem checkers_converge_reviewed :
    ∃ events final, Rounds none 12 reviewedStore [.maintenance, .maintenance] events final ∧
      events.countP (writesTo 1) ≤ 2 ∧
      ∃ last, final.incidents.get? 1 = some last ∧ last.status = some .completed := by
  let visit (store : Store) : Store :=
    ((Watch.maintenance.program none).evaluate database (atTime 12) store).2
  have round : ∀ store, (∀ event ∈ (Watch.maintenance.program none).trail database (atTime 12)
      store, Answered 12 event.operation event.result) →
      Round none 12 .maintenance store
        ((Watch.maintenance.program none).trail database (atTime 12) store) (visit store) :=
    fun store answered => ⟨⟨_, Program.evaluate_run database (atTime 12) _ store⟩, answered⟩
  have rounds := Rounds.round (round reviewedStore (by decide +kernel))
    (.round (round (visit reviewedStore) (by decide +kernel)) (.rest _))
  have known : EndsKnown reviewedStore := by
    intro id row found _ _
    have listed := SerialTable.mem_rows.mpr found
    cases List.mem_singleton.mp listed
    exact nofun
  have converge := (checkers_converge none 12 known rounds).1 .maintenance 1 _ rfl rfl
    (by decide)
  exact ⟨_, _, rounds, converge.1, converge.2 (by decide)⟩

end StatusDashboard.Properties
