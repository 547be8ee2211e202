import StatusDashboard.Handlers.Activity
import StatusDashboard.Handlers.Read
import StatusDashboard.Storage.Solo
import StatusDashboard.Tables.Pages

namespace StatusDashboard.Properties

open Event Storage Tables Notification Handlers Process

/-!
# The pages of the event list

Each page of `GET /v2/events` is a query of its own, ordered by the start date
only.  Events that start at the same instant may stand in a different order for
each page, so a page boundary between two of them can show one twice and miss
the other.
-/

/-- The request for one page. -/
def pageRequest (params : IncidentsParams) (limit page : Nat) : IncidentsParams :=
  { params with limit := some limit, page := some page }

/-- The events that meet the filters at an instant. -/
def matching (store : Store) (isAuth : Bool) (params : IncidentsParams) (now : Time) :
    List (Nat × IncidentRow) :=
  selectRows store (applyEventsFilters params isAuth now store)

/-- What orders the events of a list. -/
def startOf (entry : Nat × IncidentRow) : Time := entry.2.startDate

/-! ## One page -/

section Order

variable {rank : Nat → Nat}

instance : Std.Total (startsBefore rank) where
  total first second := by
    rcases lt_trichotomy first.2.startDate second.2.startDate with less | same | more
    · exact Or.inr (Or.inl less)
    · rcases Nat.le_total (rank first.1) (rank second.1) with before | after
      · exact Or.inl (Or.inr ⟨same, before⟩)
      · exact Or.inr (Or.inr ⟨same.symm, after⟩)
    · exact Or.inl (Or.inl more)

instance : IsTrans (Nat × IncidentRow) (startsBefore rank) where
  trans first second third := by
    rintro (later | ⟨same, before⟩) (further | ⟨equal, after⟩)
    · exact Or.inl (further.trans later)
    · exact Or.inl (equal ▸ later)
    · exact Or.inl (same ▸ further)
    · exact Or.inr ⟨same.trans equal, before.trans after⟩

end Order

variable {rows : List (Nat × IncidentRow)} {params : IncidentsParams} {limit page : Nat}
variable {store : Store} {isAuth : Bool} {now : Time}

/-- Whatever the database does among equal starts, it orders by the start. -/
theorem ordered_insertionSort (rank : Nat → Nat) (rows : List (Nat × IncidentRow)) :
    Tables.Ordered startOf rows (rows.insertionSort (startsBefore rank)) := by
  refine ⟨List.perm_insertionSort _ _, ?_⟩
  refine (List.pairwise_insertionSort (startsBefore rank) rows).imp ?_
  rintro first second (later | ⟨same, _⟩)
  · exact later.le
  · exact same.ge

/-- Every order by the start is one the database may choose. -/
theorem exists_rank {order : List (Nat × IncidentRow)} (distinct : (rows.map Prod.fst).Nodup)
    (ordered : Tables.Ordered startOf rows order) :
    ∃ rank, rows.insertionSort (startsBefore rank) = order := by
  have ids : (order.map Prod.fst).Nodup := (ordered.perm.map Prod.fst).nodup_iff.mpr distinct
  refine ⟨fun id => (order.map Prod.fst).idxOf id, ?_⟩
  apply List.Perm.eq_of_pairwise _ (List.pairwise_insertionSort _ rows) _
    ((List.perm_insertionSort _ _).trans ordered.perm.symm)
  · intro first second firstListed secondListed before after
    have firstMember := ordered.perm.mem_iff.mpr
      ((List.perm_insertionSort _ _).mem_iff.mp firstListed)
    have sameRank : (order.map Prod.fst).idxOf first.1 = (order.map Prod.fst).idxOf second.1 := by
      rcases before with less | ⟨same, before⟩ <;> rcases after with more | ⟨equal, after⟩
      · exact absurd more less.asymm
      · exact absurd less (equal ▸ lt_irrefl _)
      · exact absurd more (same ▸ lt_irrefl _)
      · exact Nat.le_antisymm before after
    have sameId : first.1 = second.1 :=
      (List.idxOf_inj (List.mem_map_of_mem firstMember)).mp sameRank
    exact List.inj_on_of_nodup_map ids firstMember secondListed sameId
  · rw [List.pairwise_iff_getElem]
    intro first second firstInside secondInside before
    have start := List.pairwise_iff_getElem.mp ordered.sorted first second firstInside secondInside
      before
    have position : ∀ index (inside : index < order.length),
        (order.map Prod.fst).idxOf order[index].1 = index := by
      intro index inside
      have here := ids.idxOf_getElem index (by rw [List.length_map]; exact inside)
      rwa [List.getElem_map] at here
    rcases lt_or_eq_of_le start with less | same
    · exact Or.inl less
    · refine Or.inr ⟨same.symm, ?_⟩
      dsimp only
      rw [position first firstInside, position second secondInside]
      exact before.le

/-- The offset of a page is a product that is kept in 64 bits. -/
theorem pageOffset_pageRequest :
    pageOffset (pageRequest params limit (page + 1)) limit = wrap64 ((page * limit : Nat) : Int) := by
  unfold pageOffset pageRequest
  dsimp only
  split_ifs with later
  · congr 1
    push_cast
    ring
  · have first : page = 0 := by omega
    rw [first, Nat.zero_mul]
    rfl

theorem paginate_later (positive : 0 < limit) :
    paginate (pageRequest params limit (page + 1)) rows =
      if wrap64 ((page * limit : Nat) : Int) < 0 then .error .driver
      else .ok ((rows.drop (wrap64 ((page * limit : Nat) : Int)).toNat).take limit) := by
  have offset : pageOffset (pageRequest params limit (page + 1)) limit = _ := pageOffset_pageRequest
  rw [← offset]
  exact if_pos (Int.natCast_pos.mpr positive)

/-- The offset of a page that exists fits in 64 bits. -/
theorem paginate_pageRequest (positive : 0 < limit) (small : page * limit < 2 ^ 63) :
    paginate (pageRequest params limit (page + 1)) rows = .ok (pageOf limit page rows) := by
  have offset : wrap64 ((page * limit : Nat) : Int) = ((page * limit : Nat) : Int) :=
    Int.bmod_eq_of_le (by omega) (by omega)
  rw [paginate_later positive, offset, if_neg (by omega)]
  rfl

theorem matching_ids_nodup (store : Store) (isAuth : Bool) (params : IncidentsParams) (now : Time) :
    ((matching store isAuth params now).map Prod.fst).Nodup :=
  selectRows_ids_nodup store _

/-- Without the filter for active events the instant does not matter. -/
theorem matching_instant (timeless : params.isActive ≠ some true) (first second : Time) :
    matching store isAuth params first = matching store isAuth params second := by
  unfold matching
  congr 1
  funext id row
  simp [applyEventsFilters, timeless]

/-- What the event query answers for a page. -/
theorem events_page {rank : Nat → Nat} (positive : 0 < limit) (small : page * limit < 2 ^ 63) :
    (Query.events (pageRequest params limit (page + 1)) isAuth now).eval rank store =
      .ok (pageOf limit page ((matching store isAuth params now).insertionSort
        (startsBefore rank))) :=
  paginate_pageRequest positive small

/-- The time that the filters of a page use. -/
theorem yields_filterTime_matching (limit page : Nat) (isAuth : Bool) (store : Store) :
    (solo (atInstant now)).Yields (fun time later => store = later ∧
        matching store isAuth params time = matching store isAuth params now)
      (filterTime (pageRequest params limit page)) store := by
  by_cases active : params.isActive = some true
  · have asked : (pageRequest params limit page).isActive = some true := active
    apply (Solo.yields_filterTime asked store).mono
    rintro time later _ ⟨rfl, clock⟩
    have here : time = now := clock
    rw [here]
    exact ⟨rfl, rfl⟩
  · have silent : filterTime (pageRequest params limit page) = pure zeroTime := if_neg active
    rw [silent]
    apply Regime.yields_pure
    rintro later same _
    exact ⟨same, matching_instant active zeroTime now⟩

/-- A page is cut from some order of all matching events, and carries their number. -/
theorem yields_getEventsPage (accepted : params.isActive ≠ some false) (positive : 0 < limit)
    (small : page * limit < 2 ^ 63) (isAuth : Bool) (store : Store) :
    (solo (atInstant now)).Yields (fun result later => store = later ∧
        result.2 = (matching store isAuth params now).length ∧
        ∃ order, Tables.Ordered startOf (matching store isAuth params now) order ∧
          result.1.map Incident.id = (pageOf limit page order).map Prod.fst)
      (getEventsWithCount isAuth (pageRequest params limit (page + 1))) store := by
  have asked : ¬ (pageRequest params limit (page + 1)).isActive = some false := accepted
  unfold getEventsWithCount
  rw [if_neg asked]
  apply (yields_filterTime_matching limit (page + 1) isAuth store).bind
  rintro time later _ ⟨rfl, same⟩
  apply (Solo.yields_read (.countEvents (pageRequest params limit (page + 1)) isAuth time)
    store).bind
  rintro total later _ ⟨rfl, _, counted⟩
  apply (Solo.yields_read (.events (pageRequest params limit (page + 1)) isAuth time) store).bind
  rintro rows later _ ⟨rfl, rank, answer⟩
  have count : total = (matching store isAuth params now).length := by
    rw [← same]
    exact (Except.ok.inj counted).symm
  have shown : pageOf limit page ((matching store isAuth params now).insertionSort
      (startsBefore rank)) = rows := by
    rw [← same]
    exact Except.ok.inj ((events_page positive small).symm.trans answer)
  have stored := events_eval answer
  apply ((solo (atInstant now)).yields_loadEvents stored.1
    (fun entry member => (stored.2 entry member).1) rfl).bind
  rintro copies later _ ⟨kept, ids, _⟩
  apply Regime.yields_pure
  rintro last onward _
  refine ⟨Eq.trans kept onward, count, _, ordered_insertionSort rank _, ?_⟩
  rw [shown]
  exact ids

/-- A list answers with what its request cuts from the order the database
chose, and with the number of matching events. -/
theorem evaluate_getEventsWithCount {choice : Choice} (faultless : choice.fault = false)
    (accepted : params.isActive ≠ some false) (isAuth : Bool) (store : Store)
    {result : Except DbError (List (Nat × IncidentRow))}
    (cut : paginate params ((matching store isAuth params choice.now).insertionSort
      (startsBefore choice.rank)) = result) :
    ∃ components statuses, (getEventsWithCount isAuth params).evaluate database choice store =
      (result.map (fun rows => (attach rows components statuses,
        (matching store isAuth params choice.now).length)), store) := by
  have filtered : ∃ time, (filterTime params).evaluate database choice store =
      (.ok time, store) ∧
      matching store isAuth params time = matching store isAuth params choice.now := by
    unfold filterTime
    split_ifs with active
    · exact ⟨choice.now, rfl, rfl⟩
    · exact ⟨zeroTime, rfl, matching_instant active _ _⟩
  rcases filtered with ⟨time, clock, same⟩
  have counted : (Query.countEvents params isAuth time).eval choice.rank store =
      .ok (matching store isAuth params choice.now).length := by
    rw [← same]
    rfl
  have found : (Query.events params isAuth time).eval choice.rank store = result := by
    rw [← cut, ← same]
    rfl
  unfold getEventsWithCount
  rw [if_neg accepted, Program.evaluate_bind, clock]
  dsimp only
  rw [Program.evaluate_bind, evaluate_read faultless, counted]
  dsimp only
  rw [Program.evaluate_bind, evaluate_read faultless, found]
  cases result with
  | error => exact ⟨[], [], rfl⟩
  | ok rows =>
    rcases evaluate_loadEvents faultless rows store with ⟨components, statuses, loaded⟩
    refine ⟨components, statuses, ?_⟩
    dsimp only
    rw [Program.evaluate_bind, loaded]
    rfl

theorem evaluate_eventsRequest {choice : Choice} (faultless : choice.fault = false)
    (accepted : params.isActive ≠ some false) (isAuth : Bool) (store : Store)
    {result : Except DbError (List (Nat × IncidentRow))}
    (cut : paginate params ((matching store isAuth params choice.now).insertionSort
      (startsBefore choice.rank)) = result) :
    ∃ components statuses, ((ReadRequest.events params).program isAuth).evaluate database choice
      store = ((result.map (fun rows => Response.events (attach rows components statuses)
        (matching store isAuth params choice.now).length)).mapError .internal, store) := by
  rcases evaluate_getEventsWithCount faultless accepted isAuth store cut with
    ⟨components, statuses, evaluated⟩
  refine ⟨components, statuses, ?_⟩
  change (internalOnError _ >>= _).evaluate database choice store = _
  unfold internalOnError
  rw [Program.evaluate_bind, Program.evaluate_mapError, evaluated]
  cases result <;> rfl

/-! ## All pages -/

/-- A request for a page, on its own and at one instant, may show these events
and report this number of them. -/
def ShowsPage (store : Store) (isAuth : Bool) (params : IncidentsParams) (limit page : Nat)
    (now : Time) (shown : List Incident) (total : Nat) : Prop :=
  ∃ events, Run database ((ReadRequest.events (pageRequest params limit page)).program isAuth)
      store events (.ok (.events shown total)) store ∧
    ∀ time ∈ clockReadings events, time = now

/-- The pages that the first page announces show every matching event exactly
once, whatever each request answers.  Pages are counted from one. -/
def PagesPartition (store : Store) (isAuth : Bool) (params : IncidentsParams) (limit : Nat)
    (now : Time) : Prop :=
  ∀ (shown : Nat → List Incident) (total : Nat),
    (∀ page, page = 0 ∨ page < totalPages total limit →
      ShowsPage store isAuth params limit (page + 1) now (shown page) total) →
    (((List.range (totalPages total limit)).flatMap shown).map Incident.id).Perm
      ((matching store isAuth params now).map Prod.fst)

/-- What a page shows is cut from some order of the matching events. -/
theorem ShowsPage.cut {shown : List Incident} {total : Nat}
    (shows : ShowsPage store isAuth params limit (page + 1) now shown total)
    (accepted : params.isActive ≠ some false) (positive : 0 < limit) (small : page * limit < 2 ^ 63) :
    total = (matching store isAuth params now).length ∧
      ∃ order, Tables.Ordered startOf (matching store isAuth params now) order ∧
        shown.map Incident.id = (pageOf limit page order).map Prod.fst := by
  rcases shows with ⟨events, run, constant⟩
  have yields : (solo (atInstant now)).Yields (fun response _ => ∃ copies count,
      response = .events copies count ∧ count = (matching store isAuth params now).length ∧
      ∃ order, Tables.Ordered startOf (matching store isAuth params now) order ∧
        copies.map Incident.id = (pageOf limit page order).map Prod.fst)
      ((ReadRequest.events (pageRequest params limit (page + 1))).program isAuth) store := by
    apply (yields_getEventsPage accepted positive small isAuth store).mapError.bind
    rintro result later _ ⟨_, count, order, ordered, ids⟩
    apply Regime.yields_pure
    intro _ _ _
    exact ⟨result.1, result.2, rfl, count, order, ordered, ids⟩
  rcases Solo.run yields run (ticks_atInstant constant) with ⟨copies, count, same, held⟩
  cases same
  exact held

/-- Every order of the matching events is one that a page may be cut from. -/
theorem exists_showsPage {order : List (Nat × IncidentRow)}
    (accepted : params.isActive ≠ some false) (positive : 0 < limit) (small : page * limit < 2 ^ 63)
    (ordered : Tables.Ordered startOf (matching store isAuth params now) order) :
    ∃ shown, ShowsPage store isAuth params limit (page + 1) now shown
        (matching store isAuth params now).length ∧
      shown.map Incident.id = (pageOf limit page order).map Prod.fst := by
  rcases exists_rank (matching_ids_nodup store isAuth params now) ordered with ⟨rank, sorted⟩
  let choice : Choice := { now := now, rank := rank }
  have faultless : choice.fault = false := rfl
  have asked : (pageRequest params limit (page + 1)).isActive ≠ some false := accepted
  rcases evaluate_eventsRequest faultless asked isAuth store
    (paginate_pageRequest positive small) with ⟨components, statuses, answered⟩
  have run := Program.evaluate_run database choice
    ((ReadRequest.events (pageRequest params limit (page + 1))).program isAuth) store
  rw [answered] at run
  refine ⟨_, ⟨_, run, clockReadings_trail choice _ store⟩, ?_⟩
  rw [← sorted]
  exact List.map_map

/-! ## When the pages fit together -/

theorem le_totalPages_mul (total : Nat) (positive : 0 < limit) :
    total ≤ totalPages total limit * limit := by
  have division := Nat.div_add_mod' (total + limit - 1) limit
  have remainder := Nat.mod_lt (total + limit - 1) positive
  unfold totalPages
  omega

theorem mul_lt_of_lt_totalPages {total : Nat} (positive : 0 < limit)
    (inside : page < totalPages total limit) : page * limit < total := by
  have covered : (page + 1) * limit ≤ total + limit - 1 :=
    (Nat.le_div_iff_mul_le positive).mp inside
  rw [Nat.succ_mul] at covered
  omega

/-- Rows of a table are determined by their ids. -/
theorem perm_of_ids {others : List (Nat × IncidentRow)} (distinct : (rows.map Prod.fst).Nodup)
    (among : others ⊆ rows) (ids : (others.map Prod.fst).Perm (rows.map Prod.fst)) :
    others.Perm rows := by
  have othersDistinct := List.Nodup.of_map Prod.fst (ids.nodup_iff.mpr distinct)
  rw [List.perm_ext_iff_of_nodup othersDistinct (List.Nodup.of_map Prod.fst distinct)]
  intro entry
  refine ⟨fun member => among member, ?_⟩
  intro member
  rcases List.mem_map.mp (ids.mem_iff.mpr (List.mem_map_of_mem member)) with ⟨other, listed, same⟩
  have equal : other = entry :=
    List.inj_on_of_nodup_map distinct (among listed) member same
  exact equal ▸ listed

theorem flatMap_ids {count : Nat} {shown : Nat → List Incident}
    {pages : Nat → List (Nat × IncidentRow)}
    (ids : ∀ page, page < count → (shown page).map Incident.id = (pages page).map Prod.fst) :
    ((List.range count).flatMap shown).map Incident.id =
      ((List.range count).flatMap pages).map Prod.fst := by
  rw [List.map_flatMap, List.map_flatMap]
  apply List.flatMap_congr
  intro page inside
  exact ids page (List.mem_range.mp inside)

/-- There are no more matching events than ids. -/
theorem matching_length_le (store : Store) (isAuth : Bool) (params : IncidentsParams)
    (now : Time) : (matching store isAuth params now).length ≤ store.incidents.nextId := by
  have among : (matching store isAuth params now).map Prod.fst ⊆
      List.range store.incidents.nextId := by
    intro id listed
    rcases List.mem_map.mp listed with ⟨entry, member, rfl⟩
    exact List.mem_range.mpr (SerialTable.lt_nextId_of_get? (mem_selectRows.mp member).1)
  have bound := ((matching_ids_nodup store isAuth params now).subperm among).length_le
  rwa [List.length_map, List.length_range] at bound

/-- The pages of a list partition the matching events exactly when no page
ends between two events with the same start.  Event ids are 32-bit serial
numbers, so the offset of a page never overflows. -/
theorem pages_partition_iff (store : Store) (isAuth : Bool) {params : IncidentsParams}
    {limit : Nat} (now : Time) (accepted : params.isActive ≠ some false) (positive : 0 < limit)
    (serial : store.incidents.nextId ≤ 2 ^ 31) :
    PagesPartition store isAuth params limit now ↔
      ∀ page, 0 < page * limit → page * limit < (matching store isAuth params now).length →
        Separated startOf (matching store isAuth params now) (page * limit) := by
  have distinct := matching_ids_nodup store isAuth params now
  have any := ordered_insertionSort id (matching store isAuth params now)
  have few := matching_length_le store isAuth params now
  have small : ∀ page, page = 0 ∨
      page < totalPages (matching store isAuth params now).length limit →
      page * limit < 2 ^ 63 := by
    rintro page (rfl | inside)
    · omega
    · have inside := mul_lt_of_lt_totalPages positive inside
      omega
  rw [← pages_perm_iff positive (List.Nodup.of_map Prod.fst distinct)
    (le_totalPages_mul _ positive) any]
  constructor
  · intro partition orders ordered
    have realised : ∀ page, ∃ shown, page = 0 ∨
        page < totalPages (matching store isAuth params now).length limit →
        ShowsPage store isAuth params limit (page + 1) now shown
            (matching store isAuth params now).length ∧
          shown.map Incident.id = (pageOf limit page (orders page)).map Prod.fst := by
      intro page
      by_cases asked : page = 0 ∨
          page < totalPages (matching store isAuth params now).length limit
      · rcases exists_showsPage accepted positive (small page asked) (ordered page) with
          ⟨shown, held⟩
        exact ⟨shown, fun _ => held⟩
      · exact ⟨[], fun held => absurd held asked⟩
    choose shown shows using realised
    have ids := partition shown _ (fun page asked => (shows page asked).1)
    rw [flatMap_ids (fun page inside => (shows page (Or.inr inside)).2)] at ids
    apply perm_of_ids distinct _ ids
    intro entry member
    rcases List.mem_flatMap.mp member with ⟨page, _, listed⟩
    exact (ordered page).perm.mem_iff.mp (List.mem_of_mem_drop (List.mem_of_mem_take listed))
  · intro pages shown total shows
    have count := (shows 0 (Or.inl rfl)).cut accepted positive (by omega) |>.1
    subst count
    have cut : ∀ page, ∃ order, Tables.Ordered startOf (matching store isAuth params now) order ∧
        (page < totalPages (matching store isAuth params now).length limit →
          (shown page).map Incident.id = (pageOf limit page order).map Prod.fst) := by
      intro page
      by_cases inside : page < totalPages (matching store isAuth params now).length limit
      · rcases ((shows page (Or.inr inside)).cut accepted positive
          (small page (Or.inr inside))).2 with ⟨order, ordered, ids⟩
        exact ⟨order, ordered, fun _ => ids⟩
      · exact ⟨_, any, fun held => absurd held inside⟩
    choose orders ordered ids using cut
    rw [flatMap_ids ids]
    exact (pages orders ordered).map Prod.fst

/-- Open incidents with the given starts and nothing else. -/
def startingOn (starts : List Time) : Store :=
  starts.foldl (fun store start => store.insertIncident
    { text := "Incident", description := none, startDate := start, endDate := none, impact := 1,
      system := false, type := .incident, status := some .detected, version := 1,
      createdBy := none, contactEmail := none, createdAt := none, modifiedAt := none,
      deletedAt := none })
    Store.empty

/-- Eleven incidents with one start, in pages of ten: the first page holds the
events 1 to 10, and a second page that lists the latest event first holds the
event 1 again.  The event 11 is on no page. -/
theorem pages_partition_fails :
    ¬ PagesPartition (startingOn (List.replicate 11 5)) false {} 10 0 := by
  intro partition
  have shows : ∀ page rank, page < 2 → ∃ shown,
      ShowsPage (startingOn (List.replicate 11 5)) false {} 10 (page + 1) 0 shown 11 ∧
      shown.map Incident.id = (pageOf 10 page ((matching (startingOn (List.replicate 11 5)) false
        {} 0).insertionSort (startsBefore rank))).map Prod.fst := by
    intro page rank inside
    exact exists_showsPage (by decide) (by decide) (by omega) (ordered_insertionSort rank _)
  rcases shows 0 id (by decide) with ⟨first, showsFirst, firstIds⟩
  rcases shows 1 (fun id => 11 - id) (by decide) with ⟨second, showsSecond, secondIds⟩
  have ids := partition (fun page => if page = 0 then first else second) 11 (by
    intro page asked
    have small : page = 0 ∨ page = 1 := by
      have pages : totalPages 11 10 = 2 := rfl
      omega
    rcases small with rfl | rfl
    · exact showsFirst
    · exact showsSecond)
  have pages : ((List.range (totalPages 11 10)).flatMap
      (fun page => if page = 0 then first else second)).map Incident.id =
      first.map Incident.id ++ second.map Incident.id := by
    simp [totalPages, List.range_succ]
  rw [pages, firstIds, secondIds] at ids
  exact absurd (ids.nodup_iff.mpr (matching_ids_nodup _ _ _ _)) (by decide +kernel)

/-- Ten incidents with one start and ten with a later one: the boundary between
the two pages separates the starts. -/
theorem pages_partition_twenty :
    PagesPartition (startingOn (List.replicate 10 5 ++ List.replicate 10 7)) false {} 10 0 := by
  refine (pages_partition_iff _ false 0 (by decide) (by decide) (by decide)).mpr ?_
  intro page later inside
  have twenty : (matching (startingOn (List.replicate 10 5 ++ List.replicate 10 7)) false {}
      0).length = 20 := by decide +kernel
  have second : page = 1 := by omega
  subst second
  exact ⟨7, by decide +kernel⟩

end StatusDashboard.Properties
