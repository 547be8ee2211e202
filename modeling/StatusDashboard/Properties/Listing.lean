import StatusDashboard.Properties.Atomicity
import StatusDashboard.Properties.Pagination
import StatusDashboard.Properties.Rendering

namespace StatusDashboard.Properties

open Event Storage Tables Handlers Process

/-!
# What a list answers

A page of the event list is cut at an offset that is computed in 64 bits, while
the numbers it reports are computed from the total alone.  The events of one
component come from a statement of their own, whose filters are written
differently from those of the event list.
-/

/-! ## The arithmetic of a page -/

/-- The request for a page is answered with its index, with as many pages as
hold all matching events, and with the events that remain after the earlier
pages. -/
def AnswersPage (format : String → Time → String) (isAuth : Bool) (params : IncidentsParams)
    (limit page : Nat) (choice : Choice) (store : Store) : Prop :=
  let total := (matching store isAuth params choice.now).length
  ∃ data pages, ((ViewRequest.events (pageRequest params limit page)).program format
      isAuth).evaluate database choice store =
        (.ok (.events data (some ⟨page, limit, total, pages⟩)), store) ∧
    (total : Int) ≤ pages * limit ∧ (pages - 1) * limit < total ∧
    (data.length : Int) = min (limit : Int) (max 0 (total - ((page : Int) - 1) * limit))

section Page

variable {format : String → Time → String} {isAuth : Bool} {params : IncidentsParams}
variable {limit page : Nat} {choice : Choice} {store : Store}

theorem length_of_mapM {α β : Type} {compute : α → Option β} {values : List α} :
    ∀ {results : List β}, values.mapM compute = some results → results.length = values.length := by
  induction values with
  | nil =>
    intro results computed
    cases computed
    rfl
  | cons value values ih =>
    intro results computed
    simp only [List.mapM_cons, Option.bind_eq_bind, Option.bind_eq_some_iff] at computed
    rcases computed with ⟨result, _, others, rest, same⟩
    cases same
    exact congrArg Nat.succ (ih rest)

/-- What the request for a page answers, whatever the offset has become. -/
theorem evaluate_viewPage (format : String → Time → String) {offset : Int} {total : Nat}
    (faultless : choice.fault = false)
    (accepted : params.isActive ≠ some false) (positive : 0 < limit)
    (wraps : wrap64 ((page * limit : Nat) : Int) = offset)
    (counted : (matching store isAuth params choice.now).length = total) (found : total ≠ 0) :
    ∃ data : List ApiEvent, data.length = min limit (total - offset.toNat) ∧
      ((ViewRequest.events (pageRequest params limit (page + 1))).program format isAuth).evaluate
        database choice store =
          (if offset < 0 then .error (.internal .driver)
            else .ok (.events data (some (pagination (pageRequest params limit (page + 1)) total))),
            store) := by
  have asked : (pageRequest params limit (page + 1)).isActive ≠ some false := accepted
  have same : (matching store isAuth (pageRequest params limit (page + 1)) choice.now).length =
    total := counted
  let rows := (((matching store isAuth params choice.now).insertionSort
    (startsBefore choice.rank)).drop offset.toNat).take limit
  have cut : paginate (pageRequest params limit (page + 1))
      ((matching store isAuth params choice.now).insertionSort (startsBefore choice.rank)) =
      if offset < 0 then .error .driver else .ok rows := by
    rw [paginate_later positive, wraps]
  rcases evaluate_eventsRequest faultless asked isAuth store cut with
    ⟨components, statuses, evaluated⟩
  have rendered : (attach rows components statuses).mapM (fun copy => toApiEvent copy isAuth) ≠
      none := mapM_toApiEvent_ne_none (fun copy member => filled_attach member) isAuth
  rcases Option.ne_none_iff_exists'.mp rendered with ⟨data, shown⟩
  refine ⟨data, ?_, ?_⟩
  · have size : data.length = (attach rows components statuses).length :=
      length_of_mapM shown
    rw [size, ← counted]
    simp [attach, rows, List.length_insertionSort]
  · have first : ((ViewRequest.events (pageRequest params limit (page + 1))).program format isAuth) =
        ((ReadRequest.events (pageRequest params limit (page + 1))).program isAuth >>=
          fun response => dereference (renderEvents isAuth (pageRequest params limit (page + 1))
            response)) := rfl
    rw [first, Program.evaluate_bind, evaluated]
    split_ifs with negative
    · rfl
    · have view : renderEvents isAuth (pageRequest params limit (page + 1))
          (.events (attach rows components statuses) total) =
          some (.events data (some (pagination (pageRequest params limit (page + 1)) total))) := by
        dsimp only [renderEvents]
        rw [if_neg found, shown]
        rfl
      change (dereference (renderEvents _ _ (.events _ _))).evaluate database choice store = _
      rw [same, view]
      rfl

/-- A page is answered as described exactly when its offset fits in 64 bits,
or has become one behind all matching events. -/
theorem answersPage_iff (format : String → Time → String) (isAuth : Bool)
    (faultless : choice.fault = false) (accepted : params.isActive ≠ some false)
    (sized : limit = 10 ∨ limit = 20 ∨ limit = 50) (counted : 1 ≤ page)
    (serial : store.incidents.nextId ≤ 2 ^ 31)
    (found : matching store isAuth params choice.now ≠ []) :
    AnswersPage format isAuth params limit page choice store ↔
      (page - 1) * limit < 2 ^ 63 ∨
        ((matching store isAuth params choice.now).length : Int) ≤
          wrap64 (((page - 1) * limit : Nat) : Int) := by
  rcases Nat.exists_eq_add_of_le' counted with ⟨before, rfl⟩
  rw [Nat.add_sub_cancel]
  have few := matching_length_le store isAuth params choice.now
  have nonempty := List.length_pos_iff.mpr found
  have unwrapped : before * limit < 2 ^ 63 →
      wrap64 ((before * limit : Nat) : Int) = ((before * limit : Nat) : Int) :=
    fun small => Int.bmod_eq_of_le (by omega) (by omega)
  have positive : 0 < limit := by omega
  generalize offsetEq : wrap64 ((before * limit : Nat) : Int) = offset at unwrapped ⊢
  generalize totalEq : (matching store isAuth params choice.now).length = total at few nonempty ⊢
  rcases evaluate_viewPage format faultless accepted positive offsetEq totalEq
    (by omega) with ⟨data, size, evaluated⟩
  have paged : pagination (pageRequest params limit (before + 1)) total =
      ⟨(before + 1 : Nat), limit, total, (total + limit - 1) / limit⟩ := by
    simp [pagination, pageRequest, positive.ne']
  have pages : (total : Int) ≤ ((total : Int) + limit - 1) / limit * limit ∧
      (((total : Int) + limit - 1) / limit - 1) * limit < total := by
    rcases sized with rfl | rfl | rfl <;> omega
  unfold AnswersPage
  rw [evaluated, totalEq, paged]
  by_cases negative : offset < 0
  · rw [if_pos negative]
    refine ⟨fun ⟨_, _, same, _⟩ => (nomatch same), ?_⟩
    rintro (small | behind)
    · have := unwrapped small
      omega
    · omega
  · have remaining : (((before + 1 : Nat) : Int) - 1) * limit = ((before * limit : Nat) : Int) := by
      push_cast
      ring
    have length : (data.length : Int) =
        min (limit : Int) (max 0 (total - (((before + 1 : Nat) : Int) - 1) * limit)) ↔
        before * limit < 2 ^ 63 ∨ (total : Int) ≤ offset := by
      rw [remaining, size]
      rcases Nat.lt_or_ge (before * limit) (2 ^ 63) with small | large
      · have := unwrapped small
        omega
      · omega
    rw [if_neg negative, ← length]
    constructor
    · rintro ⟨_, _, same, _, _, held⟩
      cases same
      exact held
    · exact fun held => ⟨data, _, rfl, pages.1, pages.2, held⟩

end Page

/-- The offset of page 2^62 + 1 in pages of 20 is 5 * 2^64, which becomes 0: the
page shows the only event, and none remains for it. -/
theorem answersPage_fails :
    ¬ AnswersPage (fun _ _ => "") false {} 20 (2 ^ 62 + 1) (atTime 0) (startingOn [5]) := by
  have single : (matching (startingOn [5]) false {} 0).length = 1 := by decide +kernel
  have wraps : wrap64 ((2 ^ 62 * 20 : Nat) : Int) = 0 := by decide
  have faultless : (atTime 0).fault = false := rfl
  rcases evaluate_viewPage (fun _ _ => "") faultless (by decide) (by decide) wraps single
    (by decide) with ⟨data, size, evaluated⟩
  rintro ⟨other, pages, answer, _, _, length⟩
  rw [evaluated] at answer
  cases answer
  rw [size] at length
  exact absurd length (by decide +kernel)

/-- The second page of eleven events holds the last one. -/
theorem answersPage_eleven :
    AnswersPage (fun _ _ => "") false {} 10 2 (atTime 0) (startingOn (List.replicate 11 5)) :=
  (answersPage_iff _ false rfl (by decide) (Or.inl rfl) (by decide) (by decide)
    (by decide +kernel)).mpr (Or.inl (by decide))

/-! ## The events of a component -/

/-- The filters for the active events of one component, once for the statement
that reads them and once for the event list. -/
def activeOf (types : Option (List EventType)) (componentIDs : List Nat) : IncidentsParams :=
  { types, componentIDs, isActive := some true }

/-- The two statements list different statuses, but those that only the event
list names are hidden from the public anyway. -/
theorem activeFilters_agree {types : Option (List EventType)} (listed : types ≠ some [])
    (componentID : Nat) (now : Time) (store : Store) (id : Nat) {row : IncidentRow}
    (internal : row.status = some .pendingReview ∨ row.status = some .reviewed →
      row.type = .maintenance) :
    (componentEventConditions componentID (activeOf types []) now store id row).all Truth.selects =
      (applyEventsFilters (activeOf types [componentID]) publicAccess now store id row).all
        Truth.selects := by
  have linked : ((store.componentIds id).any [componentID].contains) =
      (store.componentIds id).contains componentID := by
    rw [Bool.eq_iff_iff, List.any_eq_true, List.contains_iff_mem]
    simp
  by_cases reviewed : row.status = some .pendingReview ∨ row.status = some .reviewed
  · have hidden : (publicEventPredicates store id row).all Truth.selects = false := by
      rcases reviewed with status | status <;>
        simp [publicEventPredicates, statusIn, status, internal, Truth.compare]
    simp [componentEventConditions, applyEventsFilters, publicAccess, hidden]
  · have same : statusIn row [.resolved, .completed, .cancelled, .pendingReview, .reviewed,
        .completed, .cancelled] =
        statusIn row [.resolved, .completed, .cancelled, .completed, .cancelled] := by
      cases known : row.status with
      | none => simp [statusIn, known, Truth.compare]
      | some =>
        simp only [known, Option.some.injEq, not_or] at reviewed
        simp [statusIn, known, Truth.compare, reviewed]
    unfold componentEventConditions applyEventsFilters activeCondition activeOf publicAccess
    rw [same]
    rcases types with _ | (_ | ⟨first, others⟩)
    · simp [dateConditions, linked, Bool.and_comm, Bool.and_left_comm]
    · exact absurd rfl listed
    · simp [dateConditions, linked, Bool.and_comm, Bool.and_left_comm]

/-- The active events of a component are those that the public event list
shows for it. -/
def ActiveListsAgree (types : Option (List EventType)) (componentID : Nat) (choice other : Choice)
    (store : Store) : Prop :=
  ∃ copies shown,
    (getEventsByComponentID componentID (activeOf types [])).evaluate database choice store =
      (.ok copies, store) ∧
    (getEvents publicAccess (activeOf types [componentID])).evaluate database other store =
      (.ok shown, store) ∧
    ∀ copy, copy ∈ copies ↔ copy ∈ shown

/-- Only maintenance is ever under review. -/
def OnlyMaintenanceReviewed (store : Store) : Prop :=
  ∀ id row, store.incidents.get? id = some row →
    row.status = some .pendingReview ∨ row.status = some .reviewed → row.type = .maintenance

/-- The two lists agree unless the list of types is present and empty. -/
theorem activeLists_agree {types : Option (List EventType)} (listed : types ≠ some [])
    (componentID : Nat) {store : Store} (internal : OnlyMaintenanceReviewed store)
    {choice other : Choice} (faultless : choice.fault = false) (otherFaultless : other.fault = false)
    (instant : other.now = choice.now) :
    ActiveListsAgree types componentID choice other store := by
  rcases evaluate_loadEvents faultless (selectRows store (componentEventConditions componentID
    (activeOf types []) choice.now store)) store with ⟨components, statuses, loaded⟩
  have read : ∃ copies, (getEventsByComponentID componentID (activeOf types [])).evaluate database
      choice store = (.ok copies, store) := by
    apply Exists.intro
    unfold getEventsByComponentID
    rw [Program.evaluate_bind]
    change (Storage.read (.eventsByComponent componentID (activeOf types []) choice.now) >>=
      loadEvents).evaluate database choice store = _
    rw [Program.evaluate_bind, evaluate_read faultless]
    exact loaded
  rcases evaluate_getEventsWithCount otherFaultless (by simp [activeOf]) publicAccess store
    (rfl : paginate (activeOf types [componentID]) _ = .ok _) with ⟨linked, updates, counted⟩
  have shown : ∃ copies, (getEvents publicAccess (activeOf types [componentID])).evaluate database
      other store = (.ok copies, store) := by
    apply Exists.intro
    unfold getEvents
    rw [Program.evaluate_bind, counted]
    rfl
  rcases read with ⟨copies, read⟩
  rcases shown with ⟨others, shown⟩
  have readRun := Program.evaluate_run database choice
    (getEventsByComponentID componentID (activeOf types [])) store
  have shownRun := Program.evaluate_run database other
    (getEvents publicAccess (activeOf types [componentID])) store
  rw [read] at readRun
  rw [shown] at shownRun
  rcases Solo.run (Solo.yields_getEventsByComponentID rfl rfl store) readRun
    (ticks_atInstant (clockReadings_trail choice _ store)) with ⟨_, _, rfl, first⟩
  rcases Solo.run (Solo.yields_getEvents rfl ⟨rfl, rfl⟩ store) shownRun
    (ticks_atInstant (clockReadings_trail other _ store)) with ⟨_, _, ⟨rfl, _⟩, second⟩
  refine ⟨copies, others, read, shown, first.mem_iff second ?_⟩
  intro id row found
  rw [activeFilters_agree listed componentID _ store id (internal id row found), instant]

theorem pairedStore_reviewed : OnlyMaintenanceReviewed pairedStore := by
  intro id row found reviewed
  have detected : ∀ entry ∈ pairedStore.incidents.rows, entry.2.status = some .detected := by
    decide +kernel
  have status := detected (id, row) (SerialTable.mem_rows.mpr found)
  rcases reviewed with same | same <;> cases status.symm.trans same

/-- No types at all: the statement for a component ignores an empty list, and
the event list selects nothing. -/
theorem activeLists_agree_fails : OnlyMaintenanceReviewed pairedStore ∧
    ¬ ActiveListsAgree (some []) 1 (atTime 20) (atTime 20) pairedStore := by
  refine ⟨pairedStore_reviewed, ?_⟩
  rintro ⟨copies, shown, read, listed, same⟩
  have one : ((getEventsByComponentID 1 (activeOf (some []) [])).evaluate database (atTime 20)
      pairedStore).1.map (List.map Incident.id) = .ok [1] := by decide +kernel
  have empty : ((getEvents publicAccess (activeOf (some []) [1])).evaluate database (atTime 20)
      pairedStore).1 = .ok [] := by decide +kernel
  rw [read] at one
  rw [listed] at empty
  cases empty
  rcases copies with _ | ⟨copy, others⟩
  · cases one
  · exact List.not_mem_nil ((same copy).mp List.mem_cons_self)

theorem activeLists_agree_paired :
    ActiveListsAgree (some [.incident]) 1 (atTime 20) (atTime 20) pairedStore :=
  activeLists_agree (by decide) 1 pairedStore_reviewed rfl rfl rfl

end StatusDashboard.Properties
