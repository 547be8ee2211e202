import StatusDashboard.Process.Monitor
import StatusDashboard.Storage.Discipline

namespace StatusDashboard.Storage

open Event Process

/-!
# Programs that only read

The functions of the database layer that load events and components perform
no operation that could change the store.
-/

def Reads {ε α : Type} (program : Program Op ε α) : Prop :=
  program.Only (fun operation => operation.silent = true)

theorem reads_bind {ε α γ : Type} {program : Program Op ε α} {rest : α → Program Op ε γ}
    (first : Reads program) (second : ∀ value, Reads (rest value)) : Reads (program >>= rest) :=
  Program.only_bind first second

theorem reads_mapError {ε ε' α : Type} {rename : ε → ε'} {program : Program Op ε α}
    (reads : Reads program) : Reads (program.mapError rename) :=
  Program.only_mapError reads

theorem reads_pure {ε α : Type} (value : α) : Reads (pure value : Program Op ε α) := trivial

theorem reads_fail {ε α : Type} (error : ε) : Reads (.fail error : Program Op ε α) := trivial

/-- Alone, a program that only reads leaves the store as it is. -/
theorem Reads.ensures {ε α : Type} {program : Program Op ε α} (reads : Reads program)
    (assume : DbEvent → Prop) (store : Store) :
    Ensures database Eq assume (fun _ => True) (fun _ final => store = final) program store := by
  induction program generalizing store with
  | done | fail => exact fun _ same => same
  | perform operation next ih =>
    rintro later rfl choice _
    refine ⟨trivial, ?_⟩
    rw [perform_silent choice reads.1 store]
    exact ih _ (reads.2 _) store

theorem reads_currentTime : Reads currentTime := ⟨rfl, fun _ => trivial⟩

theorem reads_read {β : Type} (query : Query β) : Reads (read query) :=
  Program.only_callExcept rfl

theorem reads_loadStatuses (chunks : List (List Nat)) : Reads (loadStatuses chunks) := by
  induction chunks with
  | nil => exact reads_pure []
  | cons chunk chunks ih =>
    exact reads_bind (reads_read _) (fun _ => reads_bind ih (fun _ => reads_pure _))

theorem reads_statusesByIncident (ids : List Nat) : Reads (statusesByIncident ids) :=
  reads_loadStatuses _

theorem reads_loadComponents (ids : List Nat) : Reads (loadComponents ids) := by
  unfold loadComponents
  split_ifs
  · exact reads_pure []
  · exact reads_read _

theorem reads_loadEvents (rows : List (Nat × IncidentRow)) : Reads (loadEvents rows) :=
  reads_bind (reads_loadComponents _) (fun _ =>
    reads_bind (reads_statusesByIncident _) (fun _ => reads_pure _))

theorem reads_filterTime (params : IncidentsParams) : Reads (filterTime params) := by
  unfold filterTime
  split_ifs
  · exact reads_currentTime
  · exact reads_pure _

theorem reads_getEventsWithCount (isAuth : Bool) (params : IncidentsParams) :
    Reads (getEventsWithCount isAuth params) := by
  unfold getEventsWithCount
  split_ifs
  · exact reads_fail _
  · exact reads_bind (reads_filterTime _) (fun _ => reads_bind (reads_read _) (fun _ =>
      reads_bind (reads_read _) (fun _ => reads_bind (reads_loadEvents _) (fun _ =>
        reads_pure _))))

theorem reads_getEvents (isAuth : Bool) (params : IncidentsParams) :
    Reads (getEvents isAuth params) :=
  reads_bind (reads_getEventsWithCount _ _) (fun _ => reads_pure _)

theorem reads_getIncident (id : Nat) : Reads (getIncident id) :=
  reads_bind (reads_read _) (fun _ => reads_bind (reads_loadComponents _) (fun _ =>
    reads_bind (reads_statusesByIncident _) (fun _ => reads_pure _)))

theorem reads_getEventsByType (type : EventType) (descending : Bool) :
    Reads (getEventsByType type descending) :=
  reads_bind (reads_read _) (fun _ => reads_bind (reads_statusesByIncident _) (fun _ =>
    reads_pure _))

theorem reads_getEventsByComponentID (componentID : Nat) (params : IncidentsParams) :
    Reads (getEventsByComponentID componentID params) :=
  reads_bind (reads_filterTime _) (fun _ => reads_bind (reads_read _) (fun _ =>
    reads_loadEvents _))

theorem reads_loadIncidentRows (chunks : List (List Nat)) : Reads (loadIncidentRows chunks) := by
  induction chunks with
  | nil => exact reads_pure _
  | cons chunk chunks ih =>
    exact reads_bind (reads_read _) (fun _ => reads_bind (reads_loadComponents _) (fun _ =>
      reads_bind ih (fun _ => reads_pure _)))

theorem reads_incidentsByIDs (ids : List Nat) : Reads (incidentsByIDs ids) :=
  reads_bind (reads_loadIncidentRows _) (fun _ =>
    reads_bind (reads_statusesByIncident _) (fun _ => reads_pure _))

theorem reads_getIncidentsByComponentAttr (attr : ComponentAttr) (lastCount : Nat) :
    Reads (getIncidentsByComponentAttr attr lastCount) :=
  reads_bind (reads_read _) (fun _ => reads_incidentsByIDs _)

end StatusDashboard.Storage
