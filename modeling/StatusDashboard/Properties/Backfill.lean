import StatusDashboard.Checker.Info
import StatusDashboard.Handlers.Activity
import StatusDashboard.Storage.Load

namespace StatusDashboard.Properties

open Event Storage Tables Handlers Process Checker

/-!
# What the checkers add to a history

Both checkers complete the history of an event before they store a new status:
the updates that the status presupposes are appended where they are missing.
The additions are described here as one list, in the order of the life of an
event, and both recursive descents are shown to append exactly this list.  The
one exception is an event without an end date whose history lacks the completed
update: there is no time to stamp it with, and the descent stops.
-/

/-- The two checkers. -/
inductive Watch where
  | maintenance
  | info
deriving DecidableEq, Repr

namespace Watch

def fixMissedStatuses (watch : Watch) (status : Status) (event : Incident) : Option Incident :=
  match watch with
  | .maintenance => fixMntMissedStatuses status (calculateMntStatusHistory event) event
  | .info => fixInfoMissedStatuses status (calculateInfoStatusHistory event) event

/-- The status of an event that goes on. -/
def running : Watch → Status
  | .maintenance => .inProgress
  | .info => .active

/-- Cancelling presupposes the planning, of a maintenance only after a review. -/
def plannedBefore (watch : Watch) (event : Incident) : Bool :=
  watch = .info || hasUpdate event .reviewed || hasUpdate event .planned

/-- The statuses an event went through when it has a status, in their order. -/
def presupposed (watch : Watch) (event : Incident) (status : Status) : List Status :=
  if status = .planned then [.planned]
  else if status = watch.running then [.planned, watch.running]
  else if status = .completed then [.planned, watch.running, .completed]
  else if status = .cancelled ∧ watch.plannedBefore event then [.planned]
  else []

def text : Watch → Status → String
  | .maintenance, .planned => maintenancePlannedText
  | .maintenance, .inProgress => maintenanceInProgressText
  | .maintenance, _ => maintenanceCompletedText
  | .info, .planned => infoPlannedText
  | .info, .active => infoActiveText
  | .info, _ => infoCompletedText

/-- The completed update is stamped with the end, the others with the start. -/
def stamp (event : Incident) (status : Status) : Time :=
  if status = .completed then event.endDate.getD zeroTime else event.startDate.getD zeroTime

def update (watch : Watch) (event : Incident) (status : Status) : IncidentStatus where
  incidentId := event.id
  status := status
  text := watch.text status
  timestamp := stamp event status

/-- The presupposed updates that a history lacks. -/
def missing (watch : Watch) (event : Incident) (status : Status) : List Status :=
  (watch.presupposed event status).filter (fun before => !hasUpdate event before)

/-- The event with its history completed. -/
def completed (watch : Watch) (event : Incident) (status : Status) : Incident :=
  { event with
    statuses := event.statuses ++ (watch.missing event status).map (watch.update event) }

/-- A completed update is missing and there is no end to stamp it with. -/
def Stuck (event : Incident) (status : Status) : Prop :=
  status = .completed ∧ hasUpdate event .completed = false ∧ event.endDate = none

instance (event : Incident) (status : Status) : Decidable (Stuck event status) :=
  inferInstanceAs (Decidable (_ ∧ _ ∧ _))

/-- Completing a history leaves everything but the history as it is, and the
history has what it had before and what was missing. -/
theorem hasUpdate_completed (watch : Watch) (event : Incident) (status before : Status) :
    hasUpdate (watch.completed event status) before = true ↔
      hasUpdate event before = true ∨ before ∈ watch.missing event status := by
  unfold hasUpdate completed
  rw [List.any_append, Bool.or_eq_true]
  apply or_congr_right
  rw [List.any_map, List.any_eq_true]
  constructor
  · rintro ⟨added, member, same⟩
    have equal : added = before := eq_of_beq same
    exact equal ▸ member
  · intro member
    exact ⟨before, member, beq_self_eq_true before⟩

theorem missing_final (watch : Watch) (event : Incident) :
    watch.missing event .completed = watch.missing event watch.running ++
      [Status.completed].filter (fun before => !hasUpdate event before) := by
  unfold missing
  rw [← List.filter_append]
  cases watch <;> simp [presupposed, running]

/-- The completed update is the last one to be added. -/
theorem completed_of_ended (watch : Watch) {event : Incident}
    (ended : hasUpdate event .completed = true) :
    watch.completed event .completed = watch.completed event watch.running := by
  unfold completed
  rw [missing_final]
  simp [ended]

theorem completed_of_open (watch : Watch) {event : Incident}
    (ongoing : hasUpdate event .completed = false) :
    watch.completed event .completed = addUpdate (watch.completed event watch.running) .completed
      (watch.text .completed) (event.endDate.getD zeroTime) := by
  unfold completed addUpdate
  rw [missing_final]
  simp [ongoing, update, stamp]

theorem not_stuck {event : Incident} {status : Status} (other : status ≠ .completed) :
    ¬ Stuck event status :=
  fun stuck => other stuck.1

theorem fixMntMissedStatuses_eq (event : Incident) (status : Status) :
    fixMntMissedStatuses status (calculateMntStatusHistory event) event =
      if Stuck event status then none else some (maintenance.completed event status) := by
  have planned : (fixMntPlanned (calculateMntStatusHistory event) event).2 =
      maintenance.completed event .planned := by
    unfold fixMntPlanned calculateMntStatusHistory
    cases planned : hasUpdate event .planned <;>
      simp [completed, missing, presupposed, planned, addUpdate, update, text, stamp]
  have progress : (fixMntInProgress (calculateMntStatusHistory event) event).2 =
      maintenance.completed event .inProgress := by
    unfold fixMntInProgress fixMntPlanned calculateMntStatusHistory
    cases planned : hasUpdate event .planned <;>
      cases progress : hasUpdate event .inProgress <;>
        simp [completed, missing, presupposed, running, planned, progress, addUpdate, update, text,
          stamp]
  have kept : (fixMntInProgress (calculateMntStatusHistory event) event).1.hasCompleted =
      hasUpdate event .completed := by
    unfold fixMntInProgress fixMntPlanned
    dsimp only
    split_ifs <;> rfl
  cases status with
  | planned =>
    rw [if_neg (not_stuck (by decide)), ← planned]
    rfl
  | inProgress =>
    rw [if_neg (not_stuck (by decide)), ← progress]
    rfl
  | completed =>
    unfold fixMntMissedStatuses fixMntCompleted
    simp only [kept, progress]
    cases ended : hasUpdate event .completed with
    | true =>
      rw [completed_of_ended maintenance ended]
      simp [Stuck, ended, running, progress]
    | false =>
      rw [completed_of_open maintenance ended]
      cases date : event.endDate <;> simp [Stuck, ended, date, running, text]
  | cancelled =>
    rw [if_neg (not_stuck (by decide))]
    change (if (hasUpdate event .reviewed || hasUpdate event .planned) = true then
      some (fixMntPlanned (calculateMntStatusHistory event) event).2 else some event) = _
    rw [planned]
    cases before : maintenance.plannedBefore event with
    | true =>
      have rule : (hasUpdate event .reviewed || hasUpdate event .planned) = true := by
        simpa [plannedBefore] using before
      simp [rule, completed, missing, presupposed, running, before]
    | false =>
      have rule : (hasUpdate event .reviewed || hasUpdate event .planned) = false := by
        simpa [plannedBefore] using before
      simp [rule, completed, missing, presupposed, running, before]
  | _ => simp [fixMntMissedStatuses, Stuck, completed, missing, presupposed, running]

theorem fixInfoMissedStatuses_eq (event : Incident) (status : Status) :
    fixInfoMissedStatuses status (calculateInfoStatusHistory event) event =
      if Stuck event status then none else some (info.completed event status) := by
  have planned : (fixInfoPlanned (calculateInfoStatusHistory event) event).2 =
      info.completed event .planned := by
    unfold fixInfoPlanned calculateInfoStatusHistory
    cases planned : hasUpdate event .planned <;>
      simp [completed, missing, presupposed, planned, addUpdate, update, text, stamp]
  have active : (fixInfoActive (calculateInfoStatusHistory event) event).2 =
      info.completed event .active := by
    unfold fixInfoActive fixInfoPlanned calculateInfoStatusHistory
    cases planned : hasUpdate event .planned <;>
      cases active : hasUpdate event .active <;>
        simp [completed, missing, presupposed, running, planned, active, addUpdate, update, text,
          stamp]
  have kept : (fixInfoActive (calculateInfoStatusHistory event) event).1.hasCompleted =
      hasUpdate event .completed := by
    unfold fixInfoActive fixInfoPlanned
    dsimp only
    split_ifs <;> rfl
  cases status with
  | planned =>
    rw [if_neg (not_stuck (by decide)), ← planned]
    rfl
  | active =>
    rw [if_neg (not_stuck (by decide)), ← active]
    rfl
  | completed =>
    unfold fixInfoMissedStatuses fixInfoCompleted
    simp only [kept, active]
    cases ended : hasUpdate event .completed with
    | true =>
      rw [completed_of_ended info ended]
      simp [Stuck, ended, running, active]
    | false =>
      rw [completed_of_open info ended]
      cases date : event.endDate <;> simp [Stuck, ended, date, running, text]
  | cancelled =>
    have same : info.completed event .cancelled = info.completed event .planned := by
      simp [completed, missing, presupposed, running, plannedBefore]
    rw [if_neg (not_stuck (by decide)), same, ← planned]
    rfl
  | _ => simp [fixInfoMissedStatuses, Stuck, completed, missing, presupposed, running]

theorem fixMissedStatuses_eq (watch : Watch) (event : Incident) (status : Status) :
    watch.fixMissedStatuses status event =
      if Stuck event status then none else some (watch.completed event status) := by
  cases watch with
  | maintenance => exact fixMntMissedStatuses_eq event status
  | info => exact fixInfoMissedStatuses_eq event status

/-- The descent stops exactly where it has no end to record. -/
theorem stops_iff (watch : Watch) (event : Incident) (status : Status) :
    watch.fixMissedStatuses status event = none ↔ Stuck event status := by
  rw [fixMissedStatuses_eq]
  split_ifs with stuck
  · exact iff_of_true rfl stuck
  · exact iff_of_false (fun stops => by cases stops) stuck

/-- What was planned before the completion was so after it, and nothing is added
to a maintenance that was cancelled as a draft. -/
theorem plannedBefore_completed (watch : Watch) (event : Incident) :
    watch.plannedBefore (watch.completed event .cancelled) = watch.plannedBefore event := by
  cases before : watch.plannedBefore event with
  | true =>
    have grows : ∀ earlier, hasUpdate event earlier = true →
        hasUpdate (watch.completed event .cancelled) earlier = true :=
      fun earlier had => (hasUpdate_completed watch event .cancelled earlier).mpr (Or.inl had)
    unfold plannedBefore at before ⊢
    simp only [Bool.or_eq_true] at before ⊢
    exact before.imp_left (Or.imp_right (grows _)) |>.imp_right (grows _)
  | false =>
    have same : watch.completed event .cancelled = event := by
      cases watch <;> simp [completed, missing, presupposed, running, before]
    rw [same, before]

theorem presupposed_completed (watch : Watch) (event : Incident) (status : Status) :
    watch.presupposed (watch.completed event status) status = watch.presupposed event status := by
  unfold presupposed
  by_cases cancelled : status = .cancelled
  · rw [cancelled, plannedBefore_completed]
  · simp only [cancelled, false_and]

/-- A completed history lacks nothing. -/
theorem missing_completed (watch : Watch) (event : Incident) (status : Status) :
    watch.missing (watch.completed event status) status = [] := by
  unfold missing
  rw [presupposed_completed, List.filter_eq_nil_iff]
  intro before member
  cases had : hasUpdate event before with
  | true => simp [(hasUpdate_completed watch event status before).mpr (Or.inl had)]
  | false =>
    have lacking : before ∈ watch.missing event status := by
      exact List.mem_filter.mpr ⟨member, by simp [had]⟩
    simp [(hasUpdate_completed watch event status before).mpr (Or.inr lacking)]

theorem stuck_of_completed {watch : Watch} {event : Incident} {status : Status}
    (stuck : Stuck (watch.completed event status) status) : Stuck event status := by
  refine ⟨stuck.1, ?_, stuck.2.2⟩
  cases had : hasUpdate event .completed with
  | false => rfl
  | true =>
    have kept := (hasUpdate_completed watch event status .completed).mpr (Or.inl had)
    rw [stuck.2.1] at kept
    cases kept

end Watch

/-! ## Exactness -/

/-- The checker appends exactly what is missing, and on the result nothing more. -/
def BackfillExact (watch : Watch) (event : Incident) (status : Status) : Prop :=
  watch.fixMissedStatuses status event = some (watch.completed event status) ∧
    watch.fixMissedStatuses status (watch.completed event status) =
      some (watch.completed event status)

/-- The backfill of a stored event is exact and idempotent unless it has to record
the completion of an event without an end. -/
theorem backfill_exact_iff (watch : Watch) (store : Store) (id : Nat) (row : IncidentRow)
    (status : Status) :
    BackfillExact watch (storedCopy store (id, row)) status ↔
      ¬ Watch.Stuck (storedCopy store (id, row)) status := by
  constructor
  · intro exact stuck
    cases exact.1.symm.trans ((Watch.stops_iff _ _ _).mpr stuck)
  · intro free
    refine ⟨?_, ?_⟩
    · rw [Watch.fixMissedStatuses_eq, if_neg free]
    · -- Nothing is missing any more, so the second completion is the first one.
      have again : watch.completed (watch.completed (storedCopy store (id, row)) status) status =
          watch.completed (storedCopy store (id, row)) status := by
        rw [Watch.completed, Watch.missing_completed, List.map_nil, List.append_nil]
      have settled : ¬ Watch.Stuck (watch.completed (storedCopy store (id, row)) status) status :=
        fun stuck => free (Watch.stuck_of_completed stuck)
      rw [Watch.fixMissedStatuses_eq, if_neg settled, again]

/-- A planned event without updates. -/
def plannedRow (type : EventType) (startDate : Time) (endDate : Option Time) : IncidentRow where
  text := "Event"
  description := none
  startDate := startDate
  endDate := endDate
  impact := 0
  system := false
  type := type
  status := some .planned
  createdAt := none
  modifiedAt := none
  deletedAt := none
  createdBy := none
  contactEmail := none
  version := 1

/-- At the instant at which an endless event starts both checkers compute completed
and cannot record it. -/
theorem backfill_exact_fails :
    (calculateCurrentMntStatus
        (calculateMntStatusHistory (storedCopy Store.empty (1, plannedRow .maintenance 5 none)))
        (storedCopy Store.empty (1, plannedRow .maintenance 5 none))).evaluate database (atTime 5)
          Store.empty = (.ok .completed, Store.empty) ∧
      ¬ BackfillExact .maintenance (storedCopy Store.empty (1, plannedRow .maintenance 5 none))
        .completed ∧
      (calculateCurrentInfoStatus
        (calculateInfoStatusHistory (storedCopy Store.empty (1, plannedRow .information 5 none)))
        (storedCopy Store.empty (1, plannedRow .information 5 none))).evaluate database (atTime 5)
          Store.empty = (.ok .completed, Store.empty) ∧
      ¬ BackfillExact .info (storedCopy Store.empty (1, plannedRow .information 5 none))
        .completed := by
  refine ⟨rfl, ?_, rfl, ?_⟩
  · intro exact
    cases exact.1
  · intro exact
    cases exact.1

/-- A maintenance with an end gets its whole history. -/
theorem backfill_exact_ended :
    BackfillExact .maintenance (storedCopy Store.empty (1, plannedRow .maintenance 5 (some 9)))
        .completed ∧
      (Watch.completed .maintenance
        (storedCopy Store.empty (1, plannedRow .maintenance 5 (some 9))) .completed).statuses.map
          (fun update => (update.status, update.timestamp)) =
        [(.planned, 5), (.inProgress, 5), (.completed, 9)] :=
  ⟨(backfill_exact_iff _ _ _ _ _).mpr (by decide), by decide⟩

end StatusDashboard.Properties
