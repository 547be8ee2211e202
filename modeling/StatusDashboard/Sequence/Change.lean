import StatusDashboard.Provenance.Alone
import StatusDashboard.Sequence.Creation

namespace StatusDashboard.Sequence

open Event Storage Tables Notification Handlers Process Provenance

/-!
# Activities that run alone

What a PATCH and an extraction do when nobody disturbs them and they succeed,
and that the remaining activities leave all incidents alone.  `Effect` is the
result: what a whole activity does to the store.
-/

variable (reading : Clock)

/-- What a PATCH does when it succeeds.  A closed incident is reopened by a second
transaction. -/
inductive Patched (deployment : Deployment) (caller : Caller) (id : Nat)
    (data : PatchIncidentData) (store : Store) : Store → Prop
  | plain {row : IncidentRow} {stored result : Incident} {choice : Choice} {final : Store}
      (found : store.incidents.get? id = some row) (copied : stored = storedCopy store (id, row))
      (bound : data.bound = true) (allowed : prepareIncidentPatch caller stored data = none)
      (other : data.status ≠ .reopened)
      (commits : (EventWrite.persistPatch deployment.publisher
        (patchedIncident data caller.userID stored) stored.status caller.userID).exec choice
        store = .ok (result, final)) :
      Patched deployment caller id data store final
  | reopened {row : IncidentRow} {stored result : Incident} {choice second : Choice}
      {middle final : Store}
      (found : store.incidents.get? id = some row) (copied : stored = storedCopy store (id, row))
      (bound : data.bound = true) (allowed : prepareIncidentPatch caller stored data = none)
      (status : data.status = .reopened)
      (commits : (EventWrite.persistPatch deployment.publisher
        (patchedIncident data caller.userID stored) stored.status caller.userID).exec choice
        store = .ok (result, middle))
      (reopens : (EventWrite.reOpenIncident id).exec second middle = .ok ((), final)) :
      Patched deployment caller id data store final

/-- What an extraction does when it succeeds. -/
inductive ExtractedFrom (id : Nat) (components : List Nat) (store : Store) : Store → Prop
  | intro {row : IncidentRow} {stored result : Incident} {moved : List Component} {final : Store}
      (found : store.incidents.get? id = some row) (copied : stored = storedCopy store (id, row))
      (type : row.type = .incident)
      (chosen : getComponentsToExtract components stored.components = .ok moved)
      (extraction : Extraction reading moved stored (stored.impact.getD 0) (stored.text.getD "")
        stored.description store result final) :
      ExtractedFrom id components store final

/-- The incidents and all memberships stay as they are. -/
structure SameIncidents (store final : Store) : Prop where
  rows : ∀ id row, row.type = .incident →
    (final.incidents.get? id = some row ↔ store.incidents.get? id = some row)
  linked : ∀ id other, other ∈ final.componentIds id ↔ other ∈ store.componentIds id

/-- What an activity does to the store. -/
inductive Effect (deployment : Deployment) : Activity → Store → Store → Prop
  | created {route : CreationRoute} {caller : Caller} {data : IncidentData} {response : Response}
      {store final : Store} (creation : Created reading deployment caller data store response final) :
      Effect deployment (.post route caller data) store final
  | patched {caller : Caller} {id : Nat} {data : PatchIncidentData} {store final : Store}
      (patch : Patched deployment caller id data store final) :
      Effect deployment (.patch caller id data) store final
  | extracted {caller : Caller} {id : Nat} {components : List Nat} {store final : Store}
      (extraction : ExtractedFrom reading id components store final) :
      Effect deployment (.extract caller id components) store final
  | spared {activity : Activity} {store final : Store} (spares : SameIncidents store final) :
      Effect deployment activity store final

variable {reading}

/-! ## The programs -/

theorem yields_checkEventExistence (id : Nat) (store : Store) :
    (solo reading).Yields (fun copy later => store = later ∧ ∃ row,
        store.incidents.get? id = some row ∧ copy = storedCopy store (id, row))
      (checkEventExistence id) store := by
  have fetched : (soloSetting reading).Yields (fun copy later => ∃ row first,
      (soloSetting reading).Fetched id copy row store first later) (checkEventExistence id) store :=
    Setting.yields_checkEventExistence id store
  apply fetched.mono
  rintro copy later _ ⟨row, first, same, rfl, _, _, reading⟩
  rcases reading.alone with ⟨rfl, found, shape⟩
  subst same
  exact ⟨rfl, row, found, shape⟩

/-- What the handler of a request for a stored event yields behind the middleware. -/
theorem yields_guarded {post : Response → Store → Prop} {caller : Caller} {id : Nat}
    {store : Store} {handler : Incident → Handler Response}
    (handles : ∀ stored row, store.incidents.get? id = some row →
      stored = storedCopy store (id, row) → (solo reading).Yields post (handler stored) store) :
    (solo reading).Yields post (do
      rbacAuthorization caller
      denyReporterScope caller
      let stored ← checkEventExistence id
      handler stored) store := by
  apply (Solo.yields_reads (reads_rbacAuthorization caller) store).bind
  rintro _ later _ rfl
  apply (Solo.yields_reads (reads_denyReporterScope caller) store).bind
  rintro _ later _ rfl
  apply (yields_checkEventExistence id store).bind
  rintro stored later _ ⟨rfl, row, found, copied⟩
  exact handles stored row found copied

theorem yields_patched (deployment : Deployment) (caller : Caller) (id : Nat)
    (data : PatchIncidentData) (store : Store) :
    (solo reading).Yields (fun _ later => Patched deployment caller id data store later)
      (patchEvent deployment caller id data) store := by
  apply yields_guarded
  intro stored row found copied
  have sameId : stored.id = id := by
    rw [copied]
    rfl
  unfold patchIncidentHandler
  split_ifs with unbound unversioned
  · exact Regime.yields_fail _
  · exact Regime.yields_fail _
  · have bound : data.bound = true := by simpa using unbound
    split
    · exact Regime.yields_fail _
    · rename_i allowed
      apply (Solo.yields_write _ store).mapError.bind
      rintro result middle _ ⟨choice, commits⟩
      have reopens : (solo reading).Yields (fun _ later =>
          Patched deployment caller id data store later) (reopenIncident stored data.status)
          middle := by
        unfold reopenIncident
        split_ifs with status
        · apply Regime.Yields.mapError
          apply (Solo.yields_write _ middle).mono
          rintro _ later _ ⟨second, reopens⟩
          rw [sameId] at reopens
          exact .reopened found copied bound allowed status commits reopens
        · exact Solo.yields_pure (.plain found copied bound allowed status commits)
      apply reopens.bind
      intro _ last _ patched
      apply (Solo.yields_reads (reads_mapError (reads_getIncident stored.id)) last).bind
      rintro _ later _ rfl
      exact Solo.yields_pure patched

theorem yields_extracted (caller : Caller) (id : Nat) (components : List Nat) (store : Store) :
    (solo reading).Yields (fun _ later => ExtractedFrom reading id components store later)
      (extractEvent caller id components) store := by
  apply yields_guarded
  intro stored row found copied
  apply (Solo.yields_reads (reads_validateComponents components) store).bind
  rintro _ later _ rfl
  unfold postIncidentExtractHandler
  split_ifs with forbidden type empty
  · exact Regime.yields_fail _
  · exact Regime.yields_fail _
  · exact Regime.yields_fail _
  · split
    · exact Regime.yields_fail _
    · rename_i moved chosen
      apply (yields_extraction _ _ _ _ _ store).mapError.bind
      intro result last _ extraction
      have incident : row.type = .incident := by
        rw [copied] at type
        exact not_not.mp type
      have extracted := ExtractedFrom.intro found copied incident chosen extraction
      exact Solo.yields_pure extracted

/-! ## Activities that spare the incidents -/

theorem SameIncidents.refl (store : Store) : SameIncidents store store :=
  ⟨fun _ _ _ => Iff.rfl, fun _ _ => Iff.rfl⟩

theorem SameIncidents.trans {first second third : Store} (before : SameIncidents first second)
    (after : SameIncidents second third) : SameIncidents first third where
  rows id row type := (after.rows id row type).trans (before.rows id row type)
  linked id other := (after.linked id other).trans (before.linked id other)

theorem sameIncidents_of_sameEvents {store final : Store} (same : SameEvents store final) :
    SameIncidents store final := by
  refine ⟨fun id row _ => by rw [same.incidents], ?_⟩
  intro id other
  rw [componentIds_of_relation same.relation]

/-- A transaction that rewrites no incident, inserts nothing and links nothing. -/
theorem sameIncidents_of_footprint {β : Type} {statement : EventWrite β} {choice : Choice}
    {store final : Store} (footprint : Footprint choice statement store final)
    (others : ∀ id row, store.incidents.get? id = some row → id ∈ statement.targets →
      row.type ≠ .incident ∧ (statement.rewritten choice id row).type = row.type)
    (inserts : statement.inserted choice = none)
    (links : ∀ id other held, statement.links store.incidents.nextId id other held ↔ held) :
    SameIncidents store final := by
  refine ⟨?_, fun id other => (footprint.linked id other).trans (links _ _ _)⟩
  intro id row type
  cases before : store.incidents.get? id with
  | none =>
    rw [footprint.fresh id before, inserts]
    simp
  | some earlier =>
    rw [footprint.rows id earlier before]
    by_cases target : id ∈ statement.targets
    · rcases others id earlier before target with ⟨different, same⟩
      constructor
      · intro equal
        cases equal
        exact absurd (same.symm.trans type) different
      · intro equal
        cases equal
        exact absurd type different
    · rw [EventWrite.rewritten_of_not_target target]

/-- The activities that are about incidents. -/
def concernsIncidents : Activity → Bool
  | .post _ _ _ | .patch _ _ _ | .extract _ _ _ => true
  | _ => false

section Minor

variable {property : DbEvent → Prop} {unaffected : Unaffected property}
variable {deployment : Deployment} {activity : Activity} {β : Type} {statement : EventWrite β}
variable {choice : Choice} {value : β} {store final : Store}

/-- What the checkers and the editor of texts write is no incident. -/
theorem issued_spares (minor : concernsIncidents activity = false)
    (issued : (alone (fun _ => True) property unaffected).Issued deployment activity store statement)
    (commits : statement.exec choice store = .ok (value, final)) : SameIncidents store final := by
  have footprint := exec_footprint commits
  cases issued with
  | regularCreate | regularMove | systemCreate | systemAdd | systemMove | systemRaise | systemMark
  | patch | reopen => exact nomatch minor
  | extractSave extracts => cases extracts <;> exact nomatch minor
  | extract extracts => cases extracts <;> exact nomatch minor
  | editText =>
    refine sameIncidents_of_footprint footprint ?_ rfl (fun _ _ _ => Iff.rfl)
    intro id row _ target
    cases target
  | checkMaintenance kept listed type submitted later fetched fixes changes =>
    rename_i batchRow row copy fixed now batch before first
    rcases fetched with ⟨_, rfl, _, _, reading⟩
    rcases completes_fixMntMissedStatuses fixes with ⟨added, rfl, _⟩
    rcases reading.alone with ⟨rfl, present, _⟩
    have maintenance := (later.type_eq listed present).trans type
    refine sameIncidents_of_footprint footprint ?_ rfl (fun _ _ _ => Iff.rfl)
    intro id found stored target
    have here : id = copy.id := List.mem_singleton.mp target
    rw [here, present] at stored
    cases stored
    refine ⟨by rw [maintenance]; decide, ?_⟩
    rw [EventWrite.rewritten, if_pos here]
    exact reading.type_eq
  | checkInfo type assumed kept reading later fixes changes unwritten =>
    rename_i row copy fixed now first seen
    rcases completes_fixInfoMissedStatuses fixes with ⟨added, rfl, _⟩
    refine sameIncidents_of_footprint footprint ?_ rfl (fun _ _ _ => Iff.rfl)
    intro id found stored target
    have here : id = copy.id := List.mem_singleton.mp target
    have same := stored.symm.trans (here ▸ unwritten)
    cases same
    refine ⟨by rw [type]; decide, ?_⟩
    rw [EventWrite.rewritten, if_pos here]
    exact reading.type_eq

end Minor

variable {deployment : Deployment} {activity : Activity} {store final : Store}
variable {events : List DbEvent}

theorem sameIncidents_of_minor {outcome : Except ApiError Response}
    (minor : concernsIncidents activity = false)
    (run : Run database (activity.program deployment) store events outcome final) :
    SameIncidents store final := by
  have unaffected : Unaffected (fun event => SameIncidents event.before event.after) :=
    unaffected_of_quiet (fun event _ same => sameIncidents_of_sameEvents same)
  have steps := (run_guarantees unaffected (fun _ _ => trivial)
    (fun statement choice value current next issued commits _ =>
      ⟨trivial, issued_spares minor issued commits⟩) run trivial).1
  exact (run.2.invariant (fun later => SameIncidents store later) (.refl store)
    (fun event member before => before.trans (steps event member))).2

/-! ## A whole activity -/

/-- What an activity does that runs alone and succeeds. -/
theorem effect_of_run {response : Response}
    (run : Run database (activity.program deployment) store events (.ok response) final)
    (clock : ∀ event ∈ events, Ticks reading event) :
    Effect reading deployment activity store final := by
  cases kind : concernsIncidents activity with
  | false => exact .spared (sameIncidents_of_minor kind run)
  | true =>
    cases activity with
    | post route caller data =>
      have created := Solo.run (yields_created deployment route caller data store) run clock
      exact .created created
    | patch caller id data =>
      have patched := Solo.run (yields_patched deployment caller id data store) run clock
      exact .patched patched
    | extract caller id components =>
      have extracted := Solo.run (yields_extracted caller id components store) run clock
      exact .extracted extracted
    | _ => cases kind

/-- An activity that succeeded, or failed before it changed an event. -/
def Whole (entry : Performed) : Prop :=
  entry.outcome.isOk = true ∨ ∀ event ∈ entry.events, ¬ Commits event

instance : DecidablePred Whole := fun _ => inferInstanceAs (Decidable (_ ∨ _))

/-- An activity none of whose transactions commits changes no event. -/
theorem sameEvents_of_quiet {outcome : Except ApiError Response}
    (run : Run database (activity.program deployment) store events outcome final)
    (quiet : ∀ event ∈ events, ¬ Commits event) : SameEvents store final := by
  have unaffected : Unaffected (fun event => ¬ Commits event →
      SameEvents event.before event.after) :=
    unaffected_of_quiet (fun event _ same _ => same)
  have steps := (run_guarantees unaffected (fun _ _ => trivial)
    (fun statement choice value current next issued commits _ =>
      ⟨trivial, fun still => absurd trivial still⟩) run trivial).1
  exact (run.2.invariant (fun later => SameEvents store later) (.refl store)
    (fun event member before => before.trans (steps event member (quiet event member)))).2

/-! ## Sessions -/

/-- The store some events end in. -/
def afterEvents (store : Store) (events : List DbEvent) : Store :=
  events.foldl (fun _ event => event.after) store

theorem afterEvents_eq (chained : Chained store events final) :
    afterEvents store events = final := by
  induction events generalizing store with
  | nil => exact chained
  | cons event events ih => exact ih chained.2

/-- Each activity meets a condition in the store it starts in. -/
def Meets (condition : Store → Activity → Prop) : Store → List Performed → Prop
  | _, [] => True
  | store, entry :: entries => condition store entry.activity ∧
      Meets condition (afterEvents store entry.events) entries

instance Meets.decidable (condition : Store → Activity → Prop)
    [∀ store activity, Decidable (condition store activity)] :
    ∀ store entries, Decidable (Meets condition store entries)
  | _, [] => isTrue trivial
  | store, entry :: entries =>
    have := Meets.decidable condition (afterEvents store entry.events) entries
    inferInstanceAs (Decidable (condition store entry.activity ∧ Meets condition _ entries))

theorem meets_of_forall {condition : Activity → Prop} {entries : List Performed}
    (all : ∀ entry ∈ entries, condition entry.activity) (store : Store) :
    Meets (fun _ => condition) store entries := by
  induction entries generalizing store with
  | nil => trivial
  | cons entry entries ih =>
    exact ⟨all entry List.mem_cons_self,
      ih (fun later member => all later (List.mem_cons_of_mem _ member)) _⟩

/-- An invariant that every effect keeps holds after a session of activities that
succeed or change nothing. -/
theorem session_invariant {invariant : Store → Prop} {condition : Store → Activity → Prop}
    {entries : List Performed} (session : Session deployment store entries final)
    (whole : ∀ entry ∈ entries, Whole entry)
    (clock : ∀ entry ∈ entries, ∀ event ∈ entry.events, Ticks reading event)
    (meets : Meets condition store entries)
    (keeps : ∀ activity current next, condition current activity →
      Effect reading deployment activity current next → invariant current → invariant next)
    (start : invariant store) : invariant final := by
  induction session with
  | rest => exact start
  | @step store next final entry later run tail ih =>
    have effect : Effect reading deployment entry.activity store next := by
      rcases whole entry List.mem_cons_self with answered | quiet
      · cases outcome : entry.outcome with
        | error => simp [outcome, Except.isOk, Except.toBool] at answered
        | ok =>
          rw [outcome] at run
          exact effect_of_run run (clock entry List.mem_cons_self)
      · exact .spared (sameIncidents_of_sameEvents (sameEvents_of_quiet run quiet))
    have onward : Meets condition next later := by
      rw [← afterEvents_eq run.2]
      exact meets.2
    exact ih (fun entry member => whole entry (List.mem_cons_of_mem _ member))
      (fun entry member => clock entry (List.mem_cons_of_mem _ member)) onward
      (keeps entry.activity store next meets.1 effect start)

end StatusDashboard.Sequence
