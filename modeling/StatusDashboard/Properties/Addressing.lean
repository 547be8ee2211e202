import StatusDashboard.Properties.Collapse
import StatusDashboard.Properties.Ownership

namespace StatusDashboard.Properties

open Event Storage Handlers Process Tables

/-!
# Addressing an update

A reader sees the updates of an event numbered from zero, and an edit of a text
names an update by its number.  The reader's numbers count the rows that are
shown; the edit counts all rows.  Both counts agree up to the first description.
-/

/-! ## Rows and what is shown of them -/

section Shown

variable {endDate : Option Time} {type : EventType}

/-- An update is shown under the number of its place. -/
theorem id_of_shown {rows : List IncidentStatus} (index : Nat) (seed : Status)
    (described : String) {position : Nat} {shown : ShownUpdate}
    (listed : (mapEventUpdatesFrom true endDate type index seed described rows).1[position]? =
      some shown) : shown.id = index + position := by
  induction rows generalizing index seed described position with
  | nil => simp [mapEventUpdatesFrom] at listed
  | cons row rows ih =>
    cases kind : isDescription row with
    | true =>
      rw [mapEventUpdatesFrom_description kind] at listed
      exact ih _ _ _ listed
    | false =>
      rw [mapEventUpdatesFrom_update kind] at listed
      cases position with
      | zero =>
        rw [List.getElem?_cons_zero] at listed
        exact (congrArg ShownUpdate.id (Option.some.inj listed)).symm
      | succ =>
        rw [List.getElem?_cons_succ] at listed
        have later := ih _ _ _ listed
        omega

/-- The description is the text of the last description row. -/
theorem mapEventUpdatesFrom_snd (index : Nat) (seed : Status) (described : String)
    (rows : List IncidentStatus) :
    (mapEventUpdatesFrom true endDate type index seed described rows).2 =
      ((rows.filter isDescription).map IncidentStatus.text).getLastD described := by
  induction rows generalizing index seed described with
  | nil => rfl
  | cons row rows ih =>
    cases kind : isDescription row with
    | true =>
      rw [mapEventUpdatesFrom_description kind, ih, List.filter_cons_of_pos kind,
        List.map_cons, List.getLastD_cons]
    | false =>
      rw [List.filter_cons_of_neg (by simp [kind]), ← ih (index + 1)
        (nearestStatus endDate type seed [row]) described, mapEventUpdatesFrom,
        if_neg (by simp), if_neg (of_decide_eq_false kind), nearestStatus_update kind]

/-- The status of an event depends on the texts of no row. -/
theorem eventStatusFrom_congr {rows others : List IncidentStatus}
    (same : rows.map IncidentStatus.status = others.map IncidentStatus.status) (start : Status) :
    eventStatusFrom endDate type start rows = eventStatusFrom endDate type start others := by
  induction rows generalizing others start with
  | nil =>
    cases others with
    | nil => rfl
    | cons => cases same
  | cons row rows ih =>
    cases others with
    | nil => cases same
    | cons =>
      have heads := (List.cons.inj same).1
      have tails := (List.cons.inj same).2
      unfold eventStatusFrom
      rw [heads, ih tails, ih tails]

variable {row other : IncidentStatus} (status : other.status = row.status)
variable (timestamp : other.timestamp = row.timestamp) (update : isDescription row = false)
include status timestamp update

variable (endDate type) in
/-- Another text of one row is shown at its place and nowhere else. -/
theorem mapEventUpdatesFrom_retext (earlier later : List IncidentStatus) (index : Nat)
    (seed : Status) (described : String) :
    (mapEventUpdatesFrom true endDate type index seed described (earlier ++ other :: later)).1 =
      (mapEventUpdatesFrom true endDate type index seed described (earlier ++ row :: later)).1.set
        (updateRows earlier).length
        { shownAfter endDate type index seed earlier row with text := other.text } := by
  have kind : isDescription other = false := by
    rw [← update, isDescription, isDescription, status]
  have step : ∀ seed, nearestStatus endDate type seed [other] =
      nearestStatus endDate type seed [row] := by
    intro seed
    rw [nearestStatus_update kind, nearestStatus_update update, status]
  induction earlier generalizing index seed described with
  | nil =>
    rw [List.nil_append, List.nil_append, mapEventUpdatesFrom_update kind,
      mapEventUpdatesFrom_update update, step, timestamp]
    rfl
  | cons first earlier ih =>
    rw [List.cons_append, List.cons_append]
    cases firstKind : isDescription first with
    | true =>
      rw [mapEventUpdatesFrom_description firstKind, mapEventUpdatesFrom_description firstKind,
        ih, updateRows_cons_of_description firstKind, shownAfter, shownAfter,
        updateRows_cons_of_description firstKind, List.cons_append,
        nearestStatus_cons seed first, nearestStatus_description firstKind]
    | false =>
      rw [mapEventUpdatesFrom_update firstKind, mapEventUpdatesFrom_update firstKind,
        ih, updateRows_cons_of_update firstKind, List.length_cons,
        List.set_cons_succ, shownAfter, shownAfter, updateRows_cons_of_update firstKind,
        List.length_cons, List.cons_append, nearestStatus_cons seed first (earlier ++ [row]),
        Nat.add_assoc, Nat.add_comm 1]

end Shown

/-! ## The event of a reader -/

/-- What GET of one event answers with the extended view. -/
def extendedView (format : String → Time → String) (choice : Choice) (store : Store) (id : Nat) :
    Except ApiError View :=
  (((ViewRequest.event id).program format true).evaluate database choice store).1

/-- With the extended view the whole stored event is shown. -/
theorem extendedView_eq {format : String → Time → String} {choice : Choice} {store : Store}
    {id : Nat} {row : IncidentRow} (faultless : choice.fault = false)
    (found : store.incidents.get? id = some row) :
    ∃ event, toApiEvent (storedCopy store (id, row)) true = some event ∧
      extendedView format choice store id = .ok (.event event) := by
  have positive : id ≠ 0 := Nat.ne_of_gt (SerialTable.pos_of_get? found)
  rcases shown : toApiEvent (storedCopy store (id, row)) true with _ | event
  · simp [toApiEvent, storedCopy, incidentFromEnt] at shown
  · refine ⟨event, rfl, ?_⟩
    unfold extendedView ViewRequest.program ReadRequest.program getIncidentHandler
      checkEventExistence
    simp only [Bool.not_true, Bool.false_and, Bool.false_eq_true, if_false, if_neg positive]
    rw [Program.evaluate_bind, Program.evaluate_bind, Program.evaluate_mapError,
      evaluate_getIncident faultless found]
    change ((dereference (renderEvent true (.event (storedCopy store (id, row))))).evaluate
      database choice store).1 = _
    unfold renderEvent
    dsimp only
    rw [shown]
    rfl

/-- Rows with the same statuses and descriptions show the same event, but for its updates. -/
theorem toApiEvent_retext {copy : Incident} {event : ApiEvent} {statuses : List IncidentStatus}
    (shown : toApiEvent copy true = some event)
    (same : statuses.map IncidentStatus.status = copy.statuses.map IncidentStatus.status)
    (described : statuses.filter isDescription = copy.statuses.filter isDescription) :
    toApiEvent { copy with statuses := statuses } true = some { event with
      updates := (mapEventUpdates statuses true copy.status copy.endDate copy.type).1 } := by
  have description : (mapEventUpdates statuses true copy.status copy.endDate copy.type).2 =
      (mapEventUpdates copy.statuses true copy.status copy.endDate copy.type).2 := by
    unfold mapEventUpdates
    rw [mapEventUpdatesFrom_snd, mapEventUpdatesFrom_snd, described]
  have status : eventStatus { copy with statuses := statuses } = eventStatus copy := by
    unfold eventStatus
    dsimp only
    rw [eventStatusFrom_congr same]
  unfold toApiEvent at shown ⊢
  dsimp only
  rw [description, status]
  cases title : copy.text with
  | none => simp [title] at shown
  | some =>
    cases start : copy.startDate with
    | none => simp [title, start] at shown
    | some =>
      simp only [title, start, Option.bind_eq_bind, Option.bind_some, Option.pure_def,
        Option.some.injEq] at shown ⊢
      rw [← shown]
      rfl

theorem updates_of_toApiEvent {copy : Incident} {event : ApiEvent}
    (shown : toApiEvent copy true = some event) : event.updates =
      (mapEventUpdates copy.statuses true copy.status copy.endDate copy.type).1 := by
  have same := toApiEvent_retext shown rfl rfl
  exact congrArg ApiEvent.updates (Option.some.inj (shown.symm.trans same))

/-! ## Edits -/

/-- Rows of a history as they are loaded. -/
def loaded (entries : List (Nat × StatusRow)) : List IncidentStatus :=
  entries.map (fun entry => incidentStatusFromEnt entry.1 entry.2)

/-- The update that the extended view makes of a row after the earlier ones. -/
def builtUpdate (row : IncidentRow) (earlier : List (Nat × StatusRow)) (key : Nat)
    (update : StatusRow) : ShownUpdate :=
  shownAfter (optTimePtr row.endDate) row.type 0
    (normalizeStatus (row.status.getD .unset) (optTimePtr row.endDate) row.type)
    (loaded earlier) (incidentStatusFromEnt key update)

/-- The update that is shown is made of this row. -/
def BuiltFrom (store : Store) (id : Nat) (shown : ShownUpdate) (key : Nat) (update : StatusRow) :
    Prop :=
  ∃ row earlier later, store.incidents.get? id = some row ∧
    store.history id = earlier ++ (key, update) :: later ∧ update.status ≠ statusDescription ∧
    shown = builtUpdate row earlier key update

/-- The event with another text in one update. -/
def withText (event : ApiEvent) (shown : ShownUpdate) (text : String) : ApiEvent :=
  { event with updates := event.updates.set shown.id { shown with text := text } }

/-- An edit of an update acts on the update a reader sees under its number. -/
def Addresses (format : String → Time → String) (store : Store) (id index : Nat) (caller : Caller)
    (text : String) (choice later : Choice) : Prop :=
  let edit := (patchEventUpdateText caller id index text).evaluate database choice store
  ∃ event, extendedView format choice store id = .ok (.event event) ∧
    (∀ shown ∈ event.updates, shown.id = index →
      (∃ key update, BuiltFrom store id shown key update ∧
        edit.2 = withUpdate store key (retexted choice.now text update)) ∧
      (∃ updated, edit.1 = .ok (.updateText index updated)) ∧
      extendedView format later edit.2 id = .ok (.event (withText event shown text))) ∧
    ((∀ shown ∈ event.updates, shown.id ≠ index) →
      edit = (.error (.notFound .updateDSNotExist), store))

/-- The row the edit finds is not behind a description. -/
def Aligned (store : Store) (id index : Nat) : Prop :=
  index < (store.history id).length →
    ∀ entry ∈ (store.history id).take (index + 1), entry.2.status ≠ statusDescription

instance (store : Store) (id index : Nat) : Decidable (Aligned store id index) :=
  inferInstanceAs (Decidable (_ → ∀ entry ∈ _, _))

section Edits

variable {format : String → Time → String} {store : Store} {id index : Nat} {row : IncidentRow}
variable {caller : Caller} {text : String} {choice after : Choice}

/-- An edited row stays where it is in the history. -/
theorem history_withUpdate {earlier later : List (Nat × StatusRow)} {key : Nat}
    {update edited : StatusRow} (split : store.history id = earlier ++ (key, update) :: later)
    (same : edited.incidentId = update.incidentId) :
    (withUpdate store key edited).history id = earlier ++ (key, edited) :: later := by
  have member : (key, update) ∈ store.history id := by simp [split]
  have increasing := (store.statuses.rows_increasing).filter
    (fun entry => decide (entry.2.incidentId = id))
  change (store.history id).Pairwise _ at increasing
  rw [split, List.pairwise_append, List.pairwise_cons] at increasing
  rcases increasing with ⟨_, ⟨above, _⟩, below⟩
  rw [history_map_of_edit rfl (mem_history.mp member).1 same, split, List.map_append,
    List.map_cons, if_pos rfl]
  have before : ∀ entry ∈ earlier, entry.1 ≠ key := fun entry listed =>
    Nat.ne_of_lt (below entry listed _ List.mem_cons_self)
  have behind : ∀ entry ∈ later, entry.1 ≠ key := fun entry listed =>
    Nat.ne_of_gt (above entry listed)
  have kept : ∀ entries : List (Nat × StatusRow), (∀ entry ∈ entries, entry.1 ≠ key) →
      entries.map (fun entry => if entry.1 = key then (entry.1, edited) else entry) = entries := by
    intro entries others
    conv_rhs => rw [← List.map_id entries]
    apply List.map_congr_left
    intro entry listed
    exact if_neg (others entry listed)
  rw [kept earlier before, kept later behind]

theorem builtUpdate_id (row : IncidentRow) (earlier : List (Nat × StatusRow)) (key : Nat)
    (update : StatusRow) :
    (builtUpdate row earlier key update).id = (updateRows (loaded earlier)).length :=
  Nat.zero_add _

section Split

variable {earlier later : List (Nat × StatusRow)} {key : Nat} {update : StatusRow}
variable {event : ApiEvent} (shown : toApiEvent (storedCopy store (id, row)) true = some event)
variable (split : store.history id = earlier ++ (key, update) :: later)
variable (kind : update.status ≠ statusDescription)

include split in
theorem loadedHistory_split : loadedHistory store id =
    loaded earlier ++ incidentStatusFromEnt key update :: loaded later := by
  unfold loadedHistory loaded
  rw [split, List.map_append, List.map_cons]

include shown split kind

/-- A row that is no description is shown at its place. -/
theorem shown_at_place : event.updates[(builtUpdate row earlier key update).id]? =
    some (builtUpdate row earlier key update) := by
  rw [updates_of_toApiEvent shown, builtUpdate_id]
  exact mapEventUpdatesFrom_getElem (loadedHistory_split split) (decide_eq_false kind) 0 _ ""

/-- After an edit of a row that is shown, the event is shown with its new text. -/
theorem toApiEvent_withUpdate (now : Time) (text : String) :
    toApiEvent (storedCopy (withUpdate store key (retexted now text update)) (id, row)) true =
      some (withText event (builtUpdate row earlier key update) text) := by
  have before := loadedHistory_split split
  have after := loadedHistory_split
    (history_withUpdate split (rfl : (retexted now text update).incidentId = _))
  have notDescribed : isDescription (incidentStatusFromEnt key update) = false :=
    decide_eq_false kind
  have retextedKind : isDescription (incidentStatusFromEnt key (retexted now text update)) =
      false := decide_eq_false kind
  have updates : (mapEventUpdates (loadedHistory (withUpdate store key (retexted now text update))
        id) true (row.status.getD .unset) (optTimePtr row.endDate) row.type).1 =
      (withText event (builtUpdate row earlier key update) text).updates := by
    have status : (incidentStatusFromEnt key (retexted now text update)).status =
        (incidentStatusFromEnt key update).status := rfl
    have retold := mapEventUpdatesFrom_retext (optTimePtr row.endDate) row.type status rfl
      notDescribed (loaded earlier) (loaded later) 0
      (normalizeStatus (row.status.getD .unset) (optTimePtr row.endDate) row.type) ""
    rw [← before, ← after, ← builtUpdate_id row earlier key update] at retold
    unfold withText
    dsimp only
    rw [updates_of_toApiEvent shown]
    exact retold
  have shape : storedCopy (withUpdate store key (retexted now text update)) (id, row) =
      { storedCopy store (id, row) with
        statuses := loadedHistory (withUpdate store key (retexted now text update)) id } := rfl
  rw [shape, toApiEvent_retext shown]
  · exact congrArg (fun shown => some { event with updates := shown }) updates
  · change List.map _ (loadedHistory _ id) = List.map _ (loadedHistory store id)
    rw [before, after]
    simp [incidentStatusFromEnt, retexted]
  · change List.filter _ (loadedHistory _ id) = List.filter _ (loadedHistory store id)
    rw [before, after, List.filter_append, List.filter_append,
      List.filter_cons_of_neg (Bool.eq_false_iff.mp notDescribed),
      List.filter_cons_of_neg (Bool.eq_false_iff.mp retextedKind)]

end Split

/-- The number an update is shown under finds it. -/
theorem place_of_shown {event : ApiEvent} {shown : ShownUpdate}
    (copied : toApiEvent (storedCopy store (id, row)) true = some event)
    (listed : shown ∈ event.updates) : event.updates[shown.id]? = some shown := by
  rcases List.getElem?_of_mem listed with ⟨position, found⟩
  have place := found
  rw [updates_of_toApiEvent copied] at place
  have number := id_of_shown 0 _ "" place
  rw [Nat.zero_add] at number
  rw [number]
  exact found

/-- No more updates are shown than there are rows. -/
theorem shown_lt {event : ApiEvent} {shown : ShownUpdate}
    (copied : toApiEvent (storedCopy store (id, row)) true = some event)
    (listed : shown ∈ event.updates) : shown.id < (store.history id).length := by
  have inside := (List.getElem?_eq_some_iff.mp (place_of_shown copied listed)).1
  have count : event.updates.length = (updateRows (loadedHistory store id)).length := by
    rw [updates_of_toApiEvent copied]
    exact mapEventUpdatesFrom_length 0 _ "" _
  have fewer := List.length_filter_le (fun row => !isDescription row) (loadedHistory store id)
  have rows : (loadedHistory store id).length = (store.history id).length := List.length_map _
  unfold updateRows at count
  omega

/-- In front of the first description both counts agree. -/
theorem row_of_aligned (row : IncidentRow) (aligned : Aligned store id index)
    (inside : index < (store.history id).length) :
    ∃ earlier key update later, store.history id = earlier ++ (key, update) :: later ∧
      (store.history id)[index]? = some (key, update) ∧ update.status ≠ statusDescription ∧
      (builtUpdate row earlier key update).id = index := by
  have undescribed := aligned inside
  rcases entry : (store.history id)[index] with ⟨key, update⟩
  refine ⟨(store.history id).take index, key, update, (store.history id).drop (index + 1),
    ?_, ?_, ?_, ?_⟩
  · rw [← entry, List.getElem_cons_drop, List.take_append_drop]
  · rw [List.getElem?_eq_getElem inside, entry]
  · apply undescribed (key, update)
    rw [List.take_succ_eq_append_getElem inside, entry]
    exact List.mem_append_right _ List.mem_cons_self
  · have all : updateRows (loaded ((store.history id).take index)) =
        loaded ((store.history id).take index) := by
      apply List.filter_eq_self.mpr
      intro copy member
      rcases List.mem_map.mp member with ⟨earlier, before, rfl⟩
      have other : isDescription (incidentStatusFromEnt earlier.1 earlier.2) = false :=
        decide_eq_false
          (undescribed earlier (List.take_subset_take_left _ (Nat.le_succ index) before))
      rw [other]
      rfl
    rw [builtUpdate_id, all, loaded, List.length_map, List.length_take]
    omega

/-- An edit in front of the first description acts on the update of its number. -/
theorem addresses_of_aligned (found : store.incidents.get? id = some row)
    (aligned : Aligned store id index) (extended : hasExtendedView caller.role = true)
    (nonempty : text ≠ "") (faultless : choice.fault = false) (quiet : after.fault = false) :
    Addresses format store id index caller text choice after := by
  rcases extendedView_eq faultless found with ⟨event, copied, viewed⟩
  unfold Addresses
  rw [evaluate_patchEventUpdateText faultless extended nonempty found]
  refine ⟨event, viewed, ?_, ?_⟩
  · intro shown listed number
    rcases row_of_aligned row aligned (number ▸ shown_lt copied listed) with
      ⟨earlier, key, update, later, split, present, kind, counted⟩
    have same : shown = builtUpdate row earlier key update := by
      have place := place_of_shown copied listed
      have built := shown_at_place copied split kind
      rw [number] at place
      rw [counted] at built
      exact Option.some.inj (place.symm.trans built)
    rw [present]
    refine ⟨⟨key, update, ⟨row, earlier, later, found, split, kind, same⟩, rfl⟩, ⟨_, rfl⟩, ?_⟩
    have still : (withUpdate store key (retexted choice.now text update)).incidents.get? id =
        some row := found
    rcases extendedView_eq quiet still with ⟨changed, shownAgain, viewedAgain⟩
    rw [toApiEvent_withUpdate copied split kind, ← same] at shownAgain
    rw [Option.some.inj shownAgain]
    exact viewedAgain
  · intro hidden
    have outside : ¬ index < (store.history id).length := by
      intro inside
      rcases row_of_aligned row aligned inside with
        ⟨earlier, key, update, later, split, _, kind, counted⟩
      exact hidden _ (List.mem_of_getElem? (shown_at_place copied split kind)) counted
    rw [List.getElem?_eq_none (Nat.le_of_not_lt outside)]

/-- A row is at the place its key has in the history. -/
theorem place_of_key {earlier later : List (Nat × StatusRow)} {key : Nat}
    {update other : StatusRow} (split : store.history id = earlier ++ (key, update) :: later)
    (listed : (store.history id)[index]? = some (key, other)) : earlier.length = index := by
  have increasing := (store.statuses.rows_increasing).filter
    (fun entry => decide (entry.2.incidentId = id))
  change (store.history id).Pairwise _ at increasing
  have apart := List.pairwise_iff_getElem.mp increasing
  rcases List.getElem?_eq_some_iff.mp listed with ⟨inside, found⟩
  have placed : (store.history id)[earlier.length]? = some (key, update) := by
    rw [split, List.getElem?_append_right (Nat.le_refl _), Nat.sub_self, List.getElem?_cons_zero]
  rcases List.getElem?_eq_some_iff.mp placed with ⟨within, here⟩
  rcases Nat.lt_trichotomy earlier.length index with below | same | above
  · have smaller := apart _ _ within inside below
    rw [here, found] at smaller
    exact absurd smaller (Nat.lt_irrefl key)
  · exact same
  · have smaller := apart _ _ inside within above
    rw [here, found] at smaller
    exact absurd smaller (Nat.lt_irrefl key)

/-- An edit behind a description acts on another row than the one of its number. -/
theorem aligned_of_addresses (found : store.incidents.get? id = some row)
    (extended : hasExtendedView caller.role = true) (faultless : choice.fault = false)
    (addresses : ∀ text, text ≠ "" → Addresses format store id index caller text choice after) :
    Aligned store id index := by
  intro inside
  rcases extendedView_eq faultless found with ⟨event, copied, viewed⟩
  rcases entry : (store.history id)[index] with ⟨key, update⟩
  have present : (store.history id)[index]? = some (key, update) := by
    rw [List.getElem?_eq_getElem inside, entry]
  by_cases visible : ∃ shown ∈ event.updates, shown.id = index
  · rcases visible with ⟨shown, listed, number⟩
    -- a text that the update does not have
    have fresh : shown.text ++ "." ≠ "" := by simp
    rcases addresses _ fresh with ⟨seen, viewedToo, acts, _⟩
    cases viewed.symm.trans viewedToo
    rcases (acts shown listed number).1 with
      ⟨origin, built, ⟨_, earlier, later, _, split, kind, made⟩, changed⟩
    rw [evaluate_patchEventUpdateText faultless extended fresh found, present] at changed
    have member : (origin, built) ∈ store.history id := by
      rw [split]
      exact List.mem_append_right _ List.mem_cons_self
    have stored := (mem_history.mp member).1
    have same : origin = key := by
      by_contra apart
      have kept := congrArg (fun store : Store => store.statuses.get? origin) changed
      dsimp only [withUpdate] at kept
      rw [SerialTable.get?_update_self, stored, SerialTable.get?_update, if_neg apart,
        stored] at kept
      have text : built.text = shown.text ++ "." :=
        congrArg StatusRow.text (Option.some.inj kept)
      rw [made] at text
      exact absurd (congrArg String.length text) (by simp [builtUpdate, shownAfter,
        incidentStatusFromEnt])
    subst same
    have length := place_of_key split present
    have counted : (updateRows (loaded earlier)).length = (loaded earlier).length := by
      rw [← builtUpdate_id _ earlier origin built, ← made, number, ← length]
      exact (List.length_map _).symm
    have undescribed := List.length_filter_eq_length_iff.mp counted
    have taken : (store.history id).take (index + 1) = earlier ++ [(origin, built)] := by
      rw [split, ← length, List.take_length_add_append]
      rfl
    intro listedRow front
    rw [taken, List.mem_append, List.mem_singleton] at front
    rcases front with before | here
    · have passes := undescribed _ (List.mem_map_of_mem before)
      rw [Bool.not_eq_true'] at passes
      exact of_decide_eq_false passes
    · rw [here]
      exact kind
  · rcases addresses "text" (by decide) with ⟨seen, viewedToo, _, refused⟩
    cases viewed.symm.trans viewedToo
    have answer := refused (fun shown listed number => visible ⟨shown, listed, number⟩)
    rw [evaluate_patchEventUpdateText faultless extended (by decide) found, present] at answer
    cases (Prod.mk.inj answer).1

end Edits

/-- An edit acts on the update of its number, whatever the text and whoever of
those with the extended view asks, exactly when the row of that number is not
behind a description. -/
theorem update_addressing_iff {store : Store} {id : Nat} {row : IncidentRow}
    (found : store.incidents.get? id = some row) (index : Nat) :
    (∀ (format : String → Time → String) (caller : Caller) (text : String) (choice after : Choice),
      hasExtendedView caller.role = true → text ≠ "" → choice.fault = false →
      after.fault = false → Addresses format store id index caller text choice after) ↔
      Aligned store id index := by
  constructor
  · intro addresses
    have acts : ∀ text, text ≠ "" → Addresses (fun _ _ => "") store id index anAdmin text
        (atTime 0) (atTime 0) :=
      fun text nonempty => addresses _ _ text _ _ rfl nonempty rfl rfl
    exact aligned_of_addresses found rfl rfl acts
  · intro aligned format caller text choice after extended nonempty faultless quiet
    exact addresses_of_aligned found aligned extended nonempty faultless quiet

/-- A maintenance after some changes, with a description among its rows. -/
def describedMaintenance (key : Nat) (changes : List (Activity × Choice)) : Store :=
  withUpdate (replay quietDeployment
    ((.post .events anAdmin (maintenanceRequest 100 200), atTime 20) :: changes) (bareStore 1)).2 key
    { incidentId := 1, status := statusDescription, text := "description", timestamp := 20,
      createdAt := none, modifiedAt := none, deletedAt := none, createdBy := none,
      modifiedBy := none }

/-- The description is the first row. -/
def describedFirst : Store :=
  describedMaintenance 1 [(.patch anAdmin 1 (statusPatch .cancelled 26 (some 2)), atTime 26)]

/-- The description is the last of three rows. -/
def describedLast : Store :=
  describedMaintenance 3 [(.patch anAdmin 1 (statusPatch .reviewed 25 (some 2)), atTime 25),
    (.patch anAdmin 1 (statusPatch .cancelled 26 (some 3)), atTime 26)]

/-- The description is edited when the first update is named. -/
theorem update_addressing_fails :
    ¬ ∀ (format : String → Time → String) (store : Store) (id index : Nat) (row : IncidentRow)
      (caller : Caller) (text : String) (choice after : Choice),
      store.incidents.get? id = some row → hasExtendedView caller.role = true → text ≠ "" →
      choice.fault = false → after.fault = false →
      Addresses format store id index caller text choice after := by
  intro addresses
  have stored : (describedFirst.incidents.get? 1).isSome = true := by decide +kernel
  rcases Option.isSome_iff_exists.mp stored with ⟨row, found⟩
  have acts : ∀ text, text ≠ "" → Addresses (fun _ _ => "") describedFirst 1 0 anAdmin text
      (atTime 30) (atTime 40) :=
    fun text nonempty => addresses _ _ _ _ row _ text _ _ found rfl nonempty rfl rfl
  have misaligned : ¬ Aligned describedFirst 1 0 := by decide +kernel
  exact misaligned (aligned_of_addresses found rfl rfl acts)

/-- The update in the middle can be edited under its number. -/
theorem update_addressing_middle :
    (loadedHistory describedLast 1).length = 3 ∧ ∃ row, describedLast.incidents.get? 1 = some row ∧
      Aligned describedLast 1 1 ∧
      Addresses (fun _ _ => "") describedLast 1 1 anAdmin "text" (atTime 30) (atTime 40) := by
  have stored : (describedLast.incidents.get? 1).isSome = true := by decide +kernel
  rcases Option.isSome_iff_exists.mp stored with ⟨row, found⟩
  have aligned : Aligned describedLast 1 1 := by decide +kernel
  exact ⟨by decide +kernel, row, found, aligned, (update_addressing_iff found 1).mpr aligned _
    anAdmin "text" _ _ rfl (by decide) rfl rfl⟩

end StatusDashboard.Properties
