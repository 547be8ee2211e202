import StatusDashboard.Storage.Announcement
import StatusDashboard.Handlers.Activity

namespace StatusDashboard.Properties

open Event Storage Notification Handlers Process Tables

/-!
# Announcing transitions

The transactions that take a maintenance from one status to another announce
the transition in the same transaction.  A row of the outbox that does not fit
its columns therefore undoes the transition itself.
-/

/-- The transactions of a request and of the checker that take a maintenance to another status. -/
inductive TransitionWrite (publisher : Publisher) (incident : Incident) (oldStatus : Status) :
    EventWrite Incident → Prop where
  | patch (userID : Option String) (different : incident.status ≠ oldStatus) :
      TransitionWrite publisher incident oldStatus
        (.persistPatch (some publisher) incident oldStatus userID)
  | checker : TransitionWrite publisher incident oldStatus
      (.checkerPatch (some publisher) incident oldStatus)

/-- The key of the row that announces a transition to a recipient. -/
def transitionKey (incident : Incident) (oldStatus : Status) (recipient : String) : String :=
  Resolver.dedupKey incident.id (kindForStatus incident.status) oldStatus incident.status recipient

/-- The characters of the parts of that key and of its separators. -/
def transitionKeyLength (incident : Incident) (oldStatus : Status) (recipient : String) : Nat :=
  (toString incident.id).length + (kindForStatus incident.status).text.length
    + oldStatus.text.length + incident.status.text.length + recipient.length + 4

/-- The change a transition announces, up to who made it. -/
def transitionChange (incident : Incident) (oldStatus : Status) (actor : String) : Change where
  incidentId := incident.id
  title := strDeref incident.text
  oldStatus := oldStatus
  newStatus := incident.status
  contactEmail := strDeref incident.contactEmail
  actor := actor

section Transition

variable {publisher : Publisher} {incident modified : Incident} {oldStatus : Status}
  {write : EventWrite Incident} {choice : Choice} {store middle : Store}

/-- A transition is the business write followed by the announcement. -/
theorem transition_exec (enabled : publisher.enabled = true)
    (maintenance : incident.type = .maintenance)
    (transition : TransitionWrite publisher incident oldStatus write)
    (business : modifyIncident choice.now incident store = .ok (modified, middle)) :
    ∃ actor, write.exec choice store =
      (publishTx (some publisher) choice.now choice.changeId
        (transitionChange incident oldStatus actor) middle).map (fun pair => (modified, pair.2)) := by
  obtain ⟨version, _, statuses, _, rfl⟩ := modifyIncident_ok business
  cases transition with
  | patch userID different =>
    refine ⟨strDeref userID, ?_⟩
    change (modifyIncident choice.now incident store >>= _) = _
    rw [business]
    change (if incident.status = oldStatus then _ else _ : Tx Incident) middle = _
    rw [if_neg different]
    unfold publishMaintenanceChange
    rw [if_neg (by simp [Publisher.isEnabled, enabled, maintenance])]
    rfl
  | checker =>
    refine ⟨actorChecker, ?_⟩
    change (modifyIncident choice.now incident store >>= _) = _
    rw [business]
    rfl

/--
A transition that the business rules accept commits exactly when, for every
recipient it has not announced itself to, the parts of the key fit the column.
-/
theorem transition_commits (publisher : Publisher) (incident modified : Incident)
    (oldStatus : Status) (write : EventWrite Incident) (choice : Choice) (store middle : Store)
    (enabled : publisher.enabled = true) (maintenance : incident.type = .maintenance)
    (transition : TransitionWrite publisher incident oldStatus write)
    (business : modifyIncident choice.now incident store = .ok (modified, middle)) :
    (∃ final, write.exec choice store = .ok (modified, final)) ↔
      ∀ recipient ∈ publisher.resolver.recipients incident.status
          (strDeref incident.contactEmail),
        rowExists store (transitionKey incident oldStatus recipient) = true
          ∨ transitionKeyLength incident oldStatus recipient ≤ 255 := by
  obtain ⟨version, effect, _⟩ := modifyIncident_ok business
  obtain ⟨actor, executed⟩ := transition_exec enabled maintenance transition business
  have present : (middle.incidents.get? incident.id).isSome := by
    obtain ⟨row, found, _⟩ := effect.guarded maintenance
    rw [effect.incidents, SerialTable.get?_update_self, found]
    rfl
  have unchanged (key : String) : rowExists middle key = rowExists store key := by
    unfold rowExists
    rw [effect.outbox]
  have fits : (∀ row ∈ unannounced middle (publisher.resolver.buildRows choice.now choice.changeId
        (transitionChange incident oldStatus actor)), row.storable = true) ↔
      ∀ recipient ∈ publisher.resolver.recipients incident.status
          (strDeref incident.contactEmail),
        rowExists store (transitionKey incident oldStatus recipient) = true
          ∨ transitionKeyLength incident oldStatus recipient ≤ 255 := by
    constructor
    · intro all recipient member
      by_cases announced : rowExists store (transitionKey incident oldStatus recipient) = true
      · exact Or.inl announced
      · have row := all (publisher.resolver.buildRow choice.now choice.changeId
            (transitionChange incident oldStatus actor) recipient)
          (mem_unannounced.mpr ⟨List.mem_map_of_mem member,
            (unchanged _).trans (Bool.eq_false_iff.mpr announced)⟩)
        rw [buildRow_storable, dedupKey_length] at row
        exact Or.inr row
    · intro all row member
      obtain ⟨built, free⟩ := mem_unannounced.mp member
      obtain ⟨recipient, listed, rfl⟩ := List.mem_map.mp built
      rw [buildRow_storable, dedupKey_length]
      rcases all recipient listed with announced | short
      · rw [unchanged] at free
        exact absurd (announced.symm.trans free) (by decide)
      · exact short
  rw [executed, publishTx_eq enabled present]
  by_cases all : ∀ row ∈ unannounced middle (publisher.resolver.buildRows choice.now
      choice.changeId (transitionChange incident oldStatus actor)), row.storable = true
  · rw [if_pos all]
    exact ⟨fun _ => fits.mp all, fun _ => ⟨_, rfl⟩⟩
  · rw [if_neg all]
    refine ⟨?_, fun short => absurd (fits.mpr short) all⟩
    rintro ⟨final, impossible⟩
    cases impossible

end Transition

/-- A publisher that announces to the contact of an event only. -/
def contactPublisher : Publisher where
  enabled := true
  resolver :=
    { smod := "", operators := [], admins := [], excluded := [], allowed := [], baseURL := ""
      toLower := id, trimSpace := id }
  allowedDomains := []

def notifyingDeployment : Deployment where
  publisher := some contactPublisher
  parseAddress _ := true

/-- An address of 224 characters. -/
def longAddress : String := String.ofList (List.replicate 212 'a' ++ "@example.com".toList)

def maintenanceFor (contact : String) : IncidentData :=
  { maintenanceRequest 100 200 with contactEmail := contact }

/-- A planned maintenance is begun by a request, and by the checker once more. -/
def beginning (contact : String) : List Performed × Store :=
  replay notifyingDeployment
    [(.post .events anAdmin (maintenanceFor contact), atTime 10),
      (.patch anAdmin 1 (statusPatch .inProgress 120 (some 2)), atTime 120),
      (.checkMaintenance, atTime 130)] (bareStore 1)

def succeeded (entry : Performed) : Bool := entry.outcome.toBool

/-- The store once a maintenance is planned. -/
def plannedStore (contact : String) : Store :=
  (replay notifyingDeployment [(.post .events anAdmin (maintenanceFor contact), atTime 10)]
    (bareStore 1)).2

/-- The planned maintenance and its announcement, with another address. -/
def readdressed (contact : String) : Store :=
  let planned := (plannedStore "a@example.com").updateIncident 1 (fun row =>
    { row with contactEmail := some contact })
  { planned with
    outbox := planned.outbox.update 1 (fun row =>
      { row with
        recipient := contact
        dedupKey := Resolver.dedupKey 1 row.kind .unset .planned contact }) }

/-- Whether an activity succeeds, and what it leaves. -/
def outcomeOf (activity : Activity) (now : Time) (store : Store) : Bool × Store :=
  let evaluated := (activity.program notifyingDeployment).evaluate database (atTime now) store
  (evaluated.1.toBool, evaluated.2)

-- The stages are evaluated apart: measuring the long address is what takes long.
theorem long_created : outcomeOf (.post .events anAdmin (maintenanceFor longAddress)) 10
    (bareStore 1) = (true, readdressed longAddress) := by
  decide +kernel

theorem long_refused : outcomeOf (.patch anAdmin 1 (statusPatch .inProgress 120 (some 2))) 120
    (readdressed longAddress) = (false, readdressed longAddress) := by
  decide +kernel

theorem long_checked : outcomeOf .checkMaintenance 130 (readdressed longAddress) =
    (true, readdressed longAddress) := by
  decide +kernel

theorem replay_outcomes (activity : Activity) (now : Time) (later : List (Activity × Choice))
    (store : Store) :
    (replay notifyingDeployment ((activity, atTime now) :: later) store).1.map succeeded =
        (outcomeOf activity now store).1 ::
          (replay notifyingDeployment later (outcomeOf activity now store).2).1.map succeeded
      ∧ (replay notifyingDeployment ((activity, atTime now) :: later) store).2 =
          (replay notifyingDeployment later (outcomeOf activity now store).2).2 :=
  ⟨rfl, rfl⟩

/-- The creation is announced to the long address, but no later transition can be. -/
theorem transition_blocked :
    Session notifyingDeployment (bareStore 1) (beginning longAddress).1 (beginning longAddress).2
      ∧ (beginning longAddress).1.map succeeded = [true, false, true]
      ∧ (beginning longAddress).2.incidents.rows.map (fun entry => entry.2.status)
          = [some .planned]
      ∧ (beginning "a@example.com").1.map succeeded = [true, true, true]
      ∧ (beginning "a@example.com").2.incidents.rows.map (fun entry => entry.2.status)
          = [some .inProgress] := by
  have blocked : (beginning longAddress).1.map succeeded = [true, false, true] ∧
      (beginning longAddress).2 = readdressed longAddress := by
    unfold beginning
    simp only [replay_outcomes, long_created, long_refused, long_checked]
    exact ⟨rfl, rfl⟩
  refine ⟨replay_session _ _ _, blocked.1, ?_, by decide +kernel⟩
  rw [blocked.2]
  decide +kernel

/-- The copy of the planned maintenance that a request takes to work. -/
def begunCopy (contact : String) : Incident where
  id := 1
  text := some "Maintenance"
  description := some "Maintenance"
  startDate := some 100
  endDate := some 200
  impact := some 0
  statuses := []
  status := .inProgress
  system := false
  type := .maintenance
  components := []
  createdBy := some "admin"
  contactEmail := some contact
  version := some 2

theorem transition_commits_short :
    ∃ modified middle,
      modifyIncident 120 (begunCopy "a@example.com") (plannedStore "a@example.com")
          = .ok (modified, middle)
        ∧ ((∃ final, (EventWrite.checkerPatch (some contactPublisher) (begunCopy "a@example.com")
              .planned).exec (atTime 120) (plannedStore "a@example.com") = .ok (modified, final)) ↔
            ∀ recipient ∈ contactPublisher.resolver.recipients .inProgress "a@example.com",
              rowExists (plannedStore "a@example.com")
                  (transitionKey (begunCopy "a@example.com") .planned recipient) = true
                ∨ transitionKeyLength (begunCopy "a@example.com") .planned recipient ≤ 255) := by
  have accepted : (modifyIncident 120 (begunCopy "a@example.com")
      (plannedStore "a@example.com")).toBool = true := by
    decide +kernel
  cases business : modifyIncident 120 (begunCopy "a@example.com")
      (plannedStore "a@example.com") with
  | error failure => rw [business] at accepted; cases accepted
  | ok pair =>
    exact ⟨pair.1, pair.2, rfl, transition_commits contactPublisher _ _ _ _ (atTime 120) _ _ rfl
      rfl .checker business⟩

end StatusDashboard.Properties
