import StatusDashboard.Handlers.Render

namespace StatusDashboard.Properties

open Event Storage Handlers

/-!
# Annotations in a history

An update that only notes a change carries no status of its own: it is shown
with the status of the update before it.  Two folds of the source do this, one
over the shown updates and one for the status of the event.  Both are described
here by the last row that has a status of its own.
-/

/-- A status that only notes a change. -/
def NotesChange (status : Status) : Prop := status = .changed ∨ status = .impactChanged

instance (status : Status) : Decidable (NotesChange status) :=
  inferInstanceAs (Decidable (_ ∨ _))

/-- A row that is not an update but a description. -/
def isDescription (row : IncidentStatus) : Bool := row.status = statusDescription

/-- The rows that are updates. -/
def updateRows (rows : List IncidentStatus) : List IncidentStatus :=
  rows.filter (fun row => !isDescription row)

/-- The row has a status of its own. -/
def hasOwnStatus (row : IncidentStatus) : Bool := !isDescription row && ¬ NotesChange row.status

theorem collapse_eq (status last : Status) :
    collapse status last = if NotesChange status then last else status := rfl

section Folds

variable (endDate : Option Time) (type : EventType)

/-- The normalized status of the last row with a status of its own, or else the
given one. -/
def nearestStatus (otherwise : Status) (rows : List IncidentStatus) : Status :=
  match rows.reverse.find? hasOwnStatus with
  | some row => normalizeStatus row.status endDate type
  | none => otherwise

variable {endDate type}

variable {row : IncidentStatus}

/-- Normalizing neither makes nor removes such a status. -/
theorem notesChange_normalizeStatus (endDate : Option Time) (type : EventType) (status : Status) :
    NotesChange (normalizeStatus status endDate type) ↔ NotesChange status := by
  unfold normalizeStatus
  split
  · split_ifs <;> simp [NotesChange]
  · split_ifs
    · rfl
    · cases type <;> simp [NotesChange]
  · rfl

theorem nearestStatus_cons (otherwise : Status) (row : IncidentStatus)
    (rows : List IncidentStatus) :
    nearestStatus endDate type otherwise (row :: rows) =
      nearestStatus endDate type (nearestStatus endDate type otherwise [row]) rows := by
  unfold nearestStatus
  rw [List.reverse_cons, List.find?_append]
  cases rows.reverse.find? hasOwnStatus with
  | some | none => rfl

theorem nearestStatus_description (described : isDescription row = true) (otherwise : Status) :
    nearestStatus endDate type otherwise [row] = otherwise := by
  simp [nearestStatus, hasOwnStatus, described]

/-- An update leaves its own status, or the one before it. -/
theorem nearestStatus_update (update : isDescription row = false) (otherwise : Status) :
    nearestStatus endDate type otherwise [row] =
      collapse (normalizeStatus row.status endDate type) otherwise := by
  have same := notesChange_normalizeStatus endDate type row.status
  rw [collapse_eq]
  by_cases noting : NotesChange row.status
  · rw [if_pos (same.mpr noting)]
    simp [nearestStatus, hasOwnStatus, update, noting]
  · rw [if_neg (fun noted => noting (same.mp noted))]
    simp [nearestStatus, hasOwnStatus, update, noting]

/-- The fold over the whole history finds the last status. -/
theorem eventStatusFrom_eq (start : Status) (rows : List IncidentStatus) :
    eventStatusFrom endDate type start rows = nearestStatus endDate type start rows := by
  induction rows generalizing start with
  | nil => rfl
  | cons row rows ih =>
    rw [nearestStatus_cons]
    unfold eventStatusFrom
    split_ifs with described
    · rw [ih, nearestStatus_description (decide_eq_true described)]
    · rw [ih, nearestStatus_update (decide_eq_false described)]

theorem updateRows_cons_of_description (described : isDescription row = true)
    (rows : List IncidentStatus) : updateRows (row :: rows) = updateRows rows := by
  simp [updateRows, described]

theorem updateRows_cons_of_update (update : isDescription row = false) (rows : List IncidentStatus)
    : updateRows (row :: rows) = row :: updateRows rows := by
  simp [updateRows, update]

theorem mapEventUpdatesFrom_description (kind : isDescription row = true) (index : Nat)
    (seed : Status) (described : String) (rows : List IncidentStatus) :
    mapEventUpdatesFrom true endDate type index seed described (row :: rows) =
      mapEventUpdatesFrom true endDate type index seed row.text rows := by
  rw [mapEventUpdatesFrom, if_neg (by simp), if_pos (of_decide_eq_true kind)]

theorem mapEventUpdatesFrom_update (kind : isDescription row = false) (index : Nat) (seed : Status)
    (described : String) (rows : List IncidentStatus) :
    (mapEventUpdatesFrom true endDate type index seed described (row :: rows)).1 =
      { id := index, status := nearestStatus endDate type seed [row], text := row.text,
        timestamp := row.timestamp } :: (mapEventUpdatesFrom true endDate type (index + 1)
          (nearestStatus endDate type seed [row]) described rows).1 := by
  rw [mapEventUpdatesFrom, if_neg (by simp), if_neg (of_decide_eq_false kind),
    nearestStatus_update kind]

/-- An update as the extended view shows it after the rows before it. -/
def shownAfter (endDate : Option Time) (type : EventType) (index : Nat) (seed : Status)
    (earlier : List IncidentStatus) (row : IncidentStatus) : ShownUpdate where
  id := index + (updateRows earlier).length
  status := nearestStatus endDate type seed (earlier ++ [row])
  text := row.text
  timestamp := row.timestamp

/-- The extended view shows every update at its place among the updates. -/
theorem mapEventUpdatesFrom_getElem {rows earlier later : List IncidentStatus}
    (split : rows = earlier ++ row :: later) (update : isDescription row = false) (index : Nat)
    (seed : Status) (described : String) :
    (mapEventUpdatesFrom true endDate type index seed described rows).1[
      (updateRows earlier).length]? = some (shownAfter endDate type index seed earlier row) := by
  subst split
  induction earlier generalizing index seed described with
  | nil =>
    rw [List.nil_append, mapEventUpdatesFrom_update update]
    rfl
  | cons first earlier ih =>
    rw [List.cons_append]
    cases kind : isDescription first with
    | true =>
      rw [mapEventUpdatesFrom_description kind, updateRows_cons_of_description kind, ih,
        shownAfter, shownAfter, List.cons_append, nearestStatus_cons,
        nearestStatus_description kind, updateRows_cons_of_description kind]
    | false =>
      rw [mapEventUpdatesFrom_update kind, updateRows_cons_of_update kind, List.length_cons,
        List.getElem?_cons_succ, ih, shownAfter, shownAfter, List.cons_append,
        nearestStatus_cons seed first (earlier ++ [row]), updateRows_cons_of_update kind, List.length_cons,
        Nat.add_assoc, Nat.add_comm 1]

/-- And nothing else. -/
theorem mapEventUpdatesFrom_length (index : Nat) (seed : Status) (described : String)
    (rows : List IncidentStatus) :
    (mapEventUpdatesFrom true endDate type index seed described rows).1.length =
      (updateRows rows).length := by
  induction rows generalizing index seed described with
  | nil => rfl
  | cons row rows ih =>
    cases kind : isDescription row with
    | true =>
      rw [mapEventUpdatesFrom_description kind, ih, updateRows_cons_of_description kind]
    | false =>
      rw [mapEventUpdatesFrom_update kind, updateRows_cons_of_update kind, List.length_cons,
        List.length_cons, ih]

/-- A row with a status of its own at the end determines the status. -/
theorem nearestStatus_of_last (seed : Status) (rows : List IncidentStatus)
    (own : hasOwnStatus row = true) : nearestStatus endDate type seed (rows ++ [row]) =
      normalizeStatus row.status endDate type := by
  simp [nearestStatus, own]

/-- The status is that of a row with one, or there is none. -/
theorem nearestStatus_cases (seed : Status) (rows : List IncidentStatus) :
    (∃ row, hasOwnStatus row = true ∧ nearestStatus endDate type seed rows =
      normalizeStatus row.status endDate type) ∨
      ∀ row ∈ rows, hasOwnStatus row = false := by
  unfold nearestStatus
  cases found : rows.reverse.find? hasOwnStatus with
  | some row => exact Or.inl ⟨row, List.find?_some found, rfl⟩
  | none =>
    right
    intro row member
    simpa using List.find?_eq_none.mp found row (List.mem_reverse.mpr member)

/-- Descriptions after a row do not matter for the status. -/
theorem nearestStatus_append_descriptions (seed : Status) (rows : List IncidentStatus)
    {later : List IncidentStatus} (descriptions : updateRows later = []) :
    nearestStatus endDate type seed (rows ++ later) = nearestStatus endDate type seed rows := by
  have statusless : later.reverse.find? hasOwnStatus = none := by
    rw [List.find?_eq_none]
    intro row member
    have dropped := List.filter_eq_nil_iff.mp descriptions row (List.mem_reverse.mp member)
    simp only [Bool.not_eq_true, Bool.not_eq_false'] at dropped
    simp [hasOwnStatus, dropped]
  unfold nearestStatus
  rw [List.reverse_append, List.find?_append, statusless, Option.none_or]

/-- A history with an update has a last one. -/
theorem exists_last_update {rows : List IncidentStatus}
    (last : (updateRows rows).getLast? = some row) :
    ∃ earlier later, rows = earlier ++ row :: later ∧ isDescription row = false ∧
      updateRows later = [] ∧ (updateRows rows).length = (updateRows earlier).length + 1 := by
  unfold updateRows at last
  rw [List.getLast?_filter, List.find?_eq_some_iff_append] at last
  rcases last with ⟨update, later, earlier, split, descriptions⟩
  have forward : rows = earlier.reverse ++ row :: later.reverse := by
    rw [← List.reverse_reverse rows, split]
    simp
  have kind : isDescription row = false := by simpa using update
  have silent : updateRows later.reverse = [] := by
    apply List.filter_eq_nil_iff.mpr
    intro other member
    simpa using descriptions other (List.mem_reverse.mp member)
  refine ⟨earlier.reverse, later.reverse, forward, kind, silent, ?_⟩
  rw [forward, updateRows, List.filter_append, List.length_append]
  change _ + (updateRows (row :: later.reverse)).length = _
  rw [updateRows_cons_of_update kind, silent]
  rfl

end Folds

/-! ## The three rules -/

/-- How annotations are shown with the extended view. -/
structure Collapses (event : Incident) : Prop where
  updates : ∀ earlier row later, event.statuses = earlier ++ row :: later →
    isDescription row = false →
    (mapEventUpdates event.statuses true event.status event.endDate event.type).1[
      (updateRows earlier).length]? = some (shownAfter event.endDate event.type 0
        (normalizeStatus event.status event.endDate event.type) earlier row)
  complete : (mapEventUpdates event.statuses true event.status event.endDate event.type).1.length =
    (updateRows event.statuses).length
  agrees : ∀ shown row, (mapEventUpdates event.statuses true event.status event.endDate
      event.type).1.getLast? = some shown → (updateRows event.statuses).getLast? = some row →
    NotesChange event.status ∨ row.status = event.status → eventStatus event = shown.status
  annotated : NotesChange (eventStatus event) → NotesChange event.status ∧
    ∀ row ∈ event.statuses, isDescription row = false → NotesChange row.status

theorem eventStatus_eq (event : Incident) :
    eventStatus event = if NotesChange event.status then
        nearestStatus event.endDate event.type
          (normalizeStatus event.status event.endDate event.type) event.statuses
      else normalizeStatus event.status event.endDate event.type := by
  have same := notesChange_normalizeStatus event.endDate event.type event.status
  unfold eventStatus
  dsimp only
  rw [eventStatusFrom_eq]
  by_cases noting : NotesChange event.status
  · have noted := same.mpr noting
    rw [if_pos noting, if_neg]
    rintro ⟨first, second⟩
    exact noted.elim first second
  · rw [if_neg noting, if_pos]
    exact not_or.mp (fun noted => noting (same.mp noted))

theorem hasOwnStatus_iff (row : IncidentStatus) :
    hasOwnStatus row = true ↔ isDescription row = false ∧ ¬ NotesChange row.status := by
  simp [hasOwnStatus]

theorem annotations_collapse (event : Incident) : Collapses event := by
  have updates : ∀ earlier row later, event.statuses = earlier ++ row :: later →
      isDescription row = false →
      (mapEventUpdates event.statuses true event.status event.endDate event.type).1[
        (updateRows earlier).length]? = some (shownAfter event.endDate event.type 0
          (normalizeStatus event.status event.endDate event.type) earlier row) :=
    fun _ _ _ split update => mapEventUpdatesFrom_getElem split update 0 _ ""
  have complete : (mapEventUpdates event.statuses true event.status event.endDate
      event.type).1.length = (updateRows event.statuses).length :=
    mapEventUpdatesFrom_length 0 _ "" _
  refine ⟨updates, complete, ?_, ?_⟩
  · intro shown row shownLast last agreement
    rcases exists_last_update last with ⟨earlier, later, split, update, silent, count⟩
    -- The last shown update is built from the last update row.
    have built : shown = shownAfter event.endDate event.type 0
        (normalizeStatus event.status event.endDate event.type) earlier row := by
      rw [List.getLast?_eq_getElem?, complete, count] at shownLast
      exact Option.some.inj (shownLast.symm.trans (updates earlier row later split update))
    have regrouped : event.statuses = (earlier ++ [row]) ++ later := by
      rw [split]
      simp
    rw [eventStatus_eq, built]
    split_ifs with noting
    · rw [regrouped, nearestStatus_append_descriptions _ _ silent]
      rfl
    · have same : row.status = event.status := agreement.resolve_left noting
      have own := (hasOwnStatus_iff row).mpr ⟨update, by rw [same]; exact noting⟩
      exact (congrArg (fun status => normalizeStatus status event.endDate event.type)
        same.symm).trans (nearestStatus_of_last _ _ own).symm
  · intro noted
    rw [eventStatus_eq] at noted
    split_ifs at noted with noting
    · refine ⟨noting, ?_⟩
      intro row member update
      by_contra own
      rcases nearestStatus_cases _ event.statuses with ⟨last, lastOwn, status⟩ | statusless
      · rw [status, notesChange_normalizeStatus] at noted
        exact ((hasOwnStatus_iff last).mp lastOwn).2 noted
      · have lacks := statusless row member
        rw [(hasOwnStatus_iff row).mpr ⟨update, own⟩] at lacks
        cases lacks
    · exact absurd ((notesChange_normalizeStatus _ _ _).mp noted) noting

end StatusDashboard.Properties
