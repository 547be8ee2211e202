import StatusDashboard.Handlers.Activity
import StatusDashboard.Storage.Load

namespace StatusDashboard.Properties

open Event Storage Handlers Process Tables

/-!
# Loading histories in pieces

The histories of many events are loaded by one statement for each piece of the
list of ids, and what the statements return is appended.  An id that is listed
in two pieces is answered twice.
-/

/-! ## Pieces of a list -/

/-- All places of an id are in one piece of the list. -/
def Together (size : Nat) (ids : List Nat) (id : Nat) : Prop :=
  ∀ first second, ids[first]? = some id → ids[second]? = some id → first / size = second / size

section Pieces

variable {size : Nat} {id : Nat}

theorem chunked_succ (fuel : Nat) {ids : List Nat} (nonempty : ids ≠ []) :
    chunked size (fuel + 1) ids = ids.take size :: chunked size fuel (ids.drop size) := by
  cases ids with
  | nil => exact absurd rfl nonempty
  | cons => rfl

/-- The number of pieces that list an id. -/
def pieces (id : Nat) (chunks : List (List Nat)) : Nat :=
  chunks.countP (fun chunk => id ∈ chunk)

theorem pieces_eq_zero {chunks : List (List Nat)} :
    pieces id chunks = 0 ↔ id ∉ chunks.flatten := by
  simp [pieces, List.countP_eq_zero]

theorem pieces_cons (id : Nat) (chunk : List Nat) (chunks : List (List Nat)) :
    pieces id (chunk :: chunks) = pieces id chunks + if id ∈ chunk then 1 else 0 := by
  simp [pieces, List.countP_cons]

variable (positive : 0 < size)
include positive

/-- A place behind the first piece is one piece further than in the rest. -/
theorem place_drop (ids : List Nat) {place : Nat} (behind : size ≤ place) :
    (ids.drop size)[place - size]? = ids[place]? ∧ place / size = (place - size) / size + 1 := by
  refine ⟨?_, ?_⟩
  · rw [List.getElem?_drop, Nat.add_sub_cancel' behind]
  · rw [Nat.div_eq_sub_div positive behind]

/-- The places in the first piece are together. -/
theorem together_of_front {ids : List Nat} (front : id ∉ ids.drop size) : Together size ids id := by
  have early : ∀ place, ids[place]? = some id → place / size = 0 := by
    intro place found
    apply Nat.div_eq_of_lt
    by_contra behind
    have moved := (place_drop positive ids (Nat.le_of_not_lt behind)).1
    rw [found] at moved
    exact front (List.mem_of_getElem? moved)
  intro first second found also
  rw [early first found, early second also]

/-- Without a place in the first piece only the rest counts. -/
theorem together_of_back {ids : List Nat} (back : id ∉ ids.take size) :
    Together size ids id ↔ Together size (ids.drop size) id := by
  have late : ∀ place, ids[place]? = some id → size ≤ place := by
    intro place found
    by_contra early
    apply back
    have kept : (ids.take size)[place]? = some id := by
      rw [List.getElem?_take_of_lt (Nat.lt_of_not_le early), found]
    exact List.mem_of_getElem? kept
  constructor
  · intro together first second found also
    rw [List.getElem?_drop] at found also
    have same := together _ _ found also
    rw [Nat.add_div_left _ positive, Nat.add_div_left _ positive] at same
    exact Nat.succ.inj same
  · intro together first second found also
    have one := place_drop positive ids (late first found)
    have two := place_drop positive ids (late second also)
    rw [one.2, two.2, together _ _ (one.1.trans found) (two.1.trans also)]

/-- With places in the first piece and behind it the places are apart. -/
theorem not_together {ids : List Nat} (front : id ∈ ids.take size) (back : id ∈ ids.drop size) :
    ¬ Together size ids id := by
  intro together
  rcases List.getElem?_of_mem front with ⟨early, found⟩
  rcases List.getElem?_of_mem back with ⟨late, also⟩
  have inside : early < size := by
    have bound := (List.getElem?_eq_some_iff.mp found).1
    rw [List.length_take] at bound
    omega
  rw [List.getElem?_take_of_lt inside] at found
  rw [List.getElem?_drop] at also
  have same := together _ _ found also
  rw [Nat.div_eq_of_lt inside, Nat.add_div_left _ positive] at same
  exact absurd same.symm (Nat.succ_ne_zero _)

/-- A listed id is in exactly one piece if its places are together. -/
theorem pieces_chunked {ids : List Nat} {fuel : Nat} (enough : ids.length ≤ fuel)
    (listed : id ∈ ids) : pieces id (chunked size fuel ids) = 1 ↔ Together size ids id := by
  induction fuel generalizing ids with
  | zero =>
    rw [List.length_eq_zero_iff.mp (Nat.le_zero.mp enough)] at listed
    exact absurd listed List.not_mem_nil
  | succ fuel ih =>
    have nonempty : ids ≠ [] := List.ne_nil_of_mem listed
    have shorter : (ids.drop size).length ≤ fuel := by
      have longer := List.length_pos_iff.mpr nonempty
      rw [List.length_drop]
      omega
    have rest : pieces id (chunked size fuel (ids.drop size)) = 0 ↔ id ∉ ids.drop size := by
      rw [pieces_eq_zero, chunked_flatten positive _ shorter]
    rw [chunked_succ fuel nonempty, pieces_cons]
    by_cases front : id ∈ ids.take size
    · rw [if_pos front, Nat.add_eq_right, rest]
      constructor
      · intro back
        exact together_of_front positive back
      · intro together back
        exact not_together positive front back together
    · have back : id ∈ ids.drop size := by
        rw [← List.take_append_drop size ids, List.mem_append] at listed
        exact listed.resolve_left front
      rw [if_neg front, Nat.add_zero, ih shorter back, together_of_back positive front]

end Pieces

/-! ## Histories -/

/-- The statements for the pieces of the list answer the histories of the listed
ids as one statement for the whole list does: every update once, by id. -/
def ExactHistories (choice : Choice) (store : Store) (ids : List Nat) : Prop :=
  ∃ rows direct, (statusesByIncident ids).evaluate database choice store = (.ok rows, store) ∧
    (read (.statuses ids)).evaluate database choice store = (.ok direct, store) ∧
    ∀ id ∈ ids, statusesOf id rows = statusesOf id direct ∧
      statusesOf id direct = loadedHistory store id

/-- Every component is answered with its incidents, each with its history. -/
def ExactComponents (choice : Choice) (store : Store) : Prop :=
  ∃ loaded, getComponentsWithIncidents.evaluate database choice store = (.ok loaded, store) ∧
    loaded = (ranked choice.rank store.components.rows).map (fun entry =>
      (componentFromEnt entry.1 entry.2, (linkedIncidents choice.rank store entry.1).map (fun incident =>
        incidentFromEnt incident.1 incident.2 [] (loadedHistory store incident.1))))

/-- Every event of the feed of a region has its history. -/
def ExactFeed (choice : Choice) (store : Store) (region : String) : Prop :=
  ∃ copies, (getIncidents region "").evaluate database choice store = (.ok copies, store) ∧
    ∀ copy ∈ copies, copy.statuses = loadedHistory store copy.id

/-- No id with a history is listed in two pieces. -/
def KeptTogether (store : Store) (ids : List Nat) : Prop :=
  ∀ id ∈ ids, store.history id ≠ [] → Together incidentStatusChunkSize ids id

/-- The incidents of all components, one component after another. -/
def incidentIDs (rank : Nat → Nat) (store : Store) : List Nat :=
  (ranked rank store.components.rows).flatMap (fun entry =>
    (linkedIncidents rank store entry.1).map Prod.fst)

section Histories

variable {choice : Choice} (faultless : choice.fault = false) {store : Store}

/-- An id gets its history once for each piece that lists it. -/
theorem statusesOf_chunkRows (id : Nat) (chunks : List (List Nat)) :
    statusesOf id (chunkRows store chunks) =
      (List.replicate (pieces id chunks) (loadedHistory store id)).flatten := by
  induction chunks with
  | nil => rfl
  | cons chunk chunks ih =>
    have answer : (Query.statuses chunk).eval (fun place => place) store =
        .ok (store.statuses.rows.filter (fun entry => entry.2.incidentId ∈ chunk)) := rfl
    have unfolded : chunkRows store (chunk :: chunks) = store.statuses.rows.filter
        (fun entry => entry.2.incidentId ∈ chunk) ++ chunkRows store chunks := rfl
    rw [unfolded, statusesOf_append, statusesOf_read answer, ih, pieces_cons]
    split_ifs
    · rw [List.replicate_succ, List.flatten_cons]
    · rw [List.nil_append, Nat.add_zero]

/-- Repeating a list gives the list if it is empty or repeated once. -/
theorem flatten_replicate_eq_self {α : Type} {times : Nat} {items : List α} :
    (List.replicate times items).flatten = items ↔ items = [] ∨ times = 1 := by
  constructor
  · intro same
    have lengths := congrArg List.length same
    rw [List.length_flatten, List.map_replicate, List.sum_replicate, smul_eq_mul] at lengths
    rcases Nat.eq_zero_or_pos items.length with none | longer
    · exact Or.inl (List.length_eq_zero_iff.mp none)
    · exact Or.inr (Nat.eq_of_mul_eq_mul_right longer (lengths.trans (Nat.one_mul _).symm))
  · intro once
    rcases once with none | one
    · simp [none]
    · simp [one]

/-- An id gets its history exactly if the places where it is listed are together. -/
theorem statusesOf_chunked_iff {ids : List Nat} {id : Nat} (listed : id ∈ ids) :
    statusesOf id (chunkRows store (chunked incidentStatusChunkSize ids.length ids)) =
        loadedHistory store id ↔
      (store.history id ≠ [] → Together incidentStatusChunkSize ids id) := by
  rw [statusesOf_chunkRows, flatten_replicate_eq_self,
    pieces_chunked (by decide) (Nat.le_refl _) listed, loadedHistory, List.map_eq_nil_iff]
  exact or_iff_not_imp_left

include faultless

theorem exactHistories_iff (ids : List Nat) :
    ExactHistories choice store ids ↔ KeptTogether store ids := by
  have pieced : (statusesByIncident ids).evaluate database choice store = _ :=
    evaluate_loadStatuses faultless (chunked incidentStatusChunkSize ids.length ids) store
  have whole : (Query.statuses ids).eval choice.rank store =
      .ok (store.statuses.rows.filter (fun entry => entry.2.incidentId ∈ ids)) := rfl
  have direct : (read (.statuses ids)).evaluate database choice store = _ :=
    evaluate_read faultless (.statuses ids) store
  rw [whole] at direct
  have named : ∀ id ∈ ids, statusesOf id (store.statuses.rows.filter
      (fun entry => entry.2.incidentId ∈ ids)) = loadedHistory store id := by
    intro id listed
    rw [statusesOf_read whole, if_pos listed]
  constructor
  · intro exactly id listed
    rcases exactly with ⟨rows, found, evaluated, single, same⟩
    cases pieced.symm.trans evaluated
    have once := (same id listed).1.trans (same id listed).2
    exact (statusesOf_chunked_iff listed).mp once
  · intro together
    refine ⟨_, _, pieced, direct, ?_⟩
    intro id listed
    have once := (statusesOf_chunked_iff listed).mpr (together id listed)
    exact ⟨once.trans (named id listed).symm, named id listed⟩

/-- All components are loaded, with what the pieces return for their incidents. -/
theorem evaluate_getComponentsWithIncidents :
    getComponentsWithIncidents.evaluate database choice store =
      (.ok ((ranked choice.rank store.components.rows).map (fun entry =>
        (componentFromEnt entry.1 entry.2, attach (linkedIncidents choice.rank store entry.1) []
          (chunkRows store (chunked incidentStatusChunkSize (incidentIDs choice.rank store).length
            (incidentIDs choice.rank store)))))), store) := by
  set components := (ranked choice.rank store.components.rows).map
    (fun entry => componentFromEnt entry.1 entry.2) with listed
  have keys : components.map Component.id =
      (ranked choice.rank store.components.rows).map Prod.fst := by
    rw [listed, List.map_map]
    rfl
  have answer : (Query.allComponents).eval choice.rank store = .ok components := rfl
  have loaded : ∃ linked, (loadIncidents (components.map Component.id)).evaluate database choice
      store = (.ok linked, store) ∧
      ∀ entry ∈ ranked choice.rank store.components.rows,
        incidentsOf entry.1 linked = linkedIncidents choice.rank store entry.1 := by
    have linked : (Query.incidentsOfComponents (components.map Component.id)).eval choice.rank
        store = .ok _ := rfl
    unfold loadIncidents
    split_ifs with none
    · refine ⟨[], rfl, ?_⟩
      intro entry member
      rw [keys, List.map_eq_nil_iff] at none
      rw [none] at member
      exact absurd member List.not_mem_nil
    · refine ⟨_, evaluate_read faultless _ store, ?_⟩
      intro entry member
      apply incidentsOf_read linked
      · rw [keys]
        exact ((List.perm_insertionSort _ _).map Prod.fst).nodup_iff.mpr
          store.components.rows_ids_nodup
      · rw [keys]
        exact List.mem_map_of_mem member
  rcases loaded with ⟨linked, evaluated, grouped⟩
  have ids : components.flatMap (fun component =>
      (incidentsOf component.id linked).map Prod.fst) = incidentIDs choice.rank store := by
    rw [listed, List.flatMap_map]
    apply List.flatMap_congr
    intro entry member
    exact congrArg (List.map Prod.fst) (grouped entry member)
  unfold getComponentsWithIncidents statusesByIncident
  rw [Program.evaluate_bind, evaluate_read faultless, answer]
  dsimp only
  rw [Program.evaluate_bind, evaluated]
  dsimp only
  rw [Program.evaluate_bind, ids, evaluate_loadStatuses faultless]
  change (Except.ok (components.map _), store) = _
  rw [listed, List.map_map]
  apply congrArg (fun copies => (Except.ok copies, store))
  apply List.map_congr_left
  intro entry member
  exact congrArg (fun rows => (componentFromEnt entry.1 entry.2, attach rows [] _))
    (grouped entry member)

theorem exactComponents_iff :
    ExactComponents choice store ↔ KeptTogether store (incidentIDs choice.rank store) := by
  have evaluated : getComponentsWithIncidents.evaluate database choice store = _ :=
    evaluate_getComponentsWithIncidents faultless
  have attached : ∀ entry : Nat × ComponentRow, entry ∈ ranked choice.rank store.components.rows →
      ∀ incident ∈ linkedIncidents choice.rank store entry.1,
        incident.1 ∈ incidentIDs choice.rank store := by
    intro entry member incident linked
    exact List.mem_flatMap.mpr ⟨entry, member, List.mem_map_of_mem linked⟩
  constructor
  · intro exactly id listed
    rcases exactly with ⟨loaded, answered, shape⟩
    rw [evaluated] at answered
    cases answered
    rw [List.map_inj_left] at shape
    rcases List.mem_flatMap.mp listed with ⟨entry, member, inside⟩
    rcases List.mem_map.mp inside with ⟨incident, linked, rfl⟩
    have same := congrArg Prod.snd (shape entry member)
    unfold attach at same
    rw [List.map_inj_left] at same
    have once := congrArg Incident.statuses (same incident linked)
    exact (statusesOf_chunked_iff listed).mp once
  · intro together
    refine ⟨_, evaluated, ?_⟩
    apply List.map_congr_left
    intro entry member
    apply congrArg (fun copies => (componentFromEnt entry.1 entry.2, copies))
    unfold attach
    apply List.map_congr_left
    intro incident linked
    have listed := attached entry member incident linked
    have once := (statusesOf_chunked_iff listed).mpr (together incident.1 listed)
    exact congrArg (fun statuses => incidentFromEnt incident.1 incident.2 [] statuses) once

/-- The feed of a region lists too few events to be loaded in pieces. -/
theorem exactFeed {region : String} (given : region ≠ "") : ExactFeed choice store region := by
  rcases evaluate_getIncidentsByComponentAttr faultless store
    { name := regionAttrName, value := region } (by decide : maxIncidents ≠ 0) (by decide) with
    ⟨copies, evaluated, _, stored⟩
  refine ⟨copies, ?_, ?_⟩
  · unfold getIncidents
    rw [if_neg (by simp), if_pos given]
    exact evaluated
  · intro copy member
    rcases stored copy member with ⟨row, _, shape⟩
    exact congrArg Incident.statuses shape

end Histories

/-- Histories are loaded as by one statement exactly when no id that has one is
listed in two pieces, for a list of ids and for the incidents of all components;
and always for the feed of a region. -/
theorem chunked_history_iff {choice : Choice} (faultless : choice.fault = false) (store : Store) :
    (∀ ids, ExactHistories choice store ids ↔ KeptTogether store ids) ∧
      (ExactComponents choice store ↔ KeptTogether store (incidentIDs choice.rank store)) ∧
      ∀ region, region ≠ "" → ExactFeed choice store region :=
  ⟨exactHistories_iff faultless, exactComponents_iff faultless,
    fun _ given => exactFeed faultless given⟩

/-- A list that fits one statement is not cut. -/
theorem keptTogether_of_short (store : Store) {ids : List Nat}
    (short : ids.length ≤ incidentStatusChunkSize) : KeptTogether store ids := by
  intro id _ _
  apply together_of_front (by decide)
  rw [List.drop_eq_nil_of_le short]
  exact List.not_mem_nil

/-- A store with one maintenance. -/
def oneMaintenance : Store :=
  (replay quietDeployment
    [(.post .events anAdmin (maintenanceRequest 100 200), atTime 20)] (bareStore 1)).2

/-- An id that is listed more often than a piece is long gets its history twice. -/
theorem chunked_history_fails :
    ¬ ∀ (choice : Choice) (store : Store) (ids : List Nat), choice.fault = false →
      ExactHistories choice store ids := by
  intro exactly
  have repeated : ∀ place, place < 1001 → (List.replicate 1001 1)[place]? = some 1 := by
    intro place inside
    rw [List.getElem?_replicate, if_pos inside]
  have together := (exactHistories_iff rfl (List.replicate 1001 1)).mp
    (exactly (atTime 30) oneMaintenance _ rfl) 1 (List.mem_of_getElem? (repeated 0 (by decide)))
    (by decide +kernel) 0 1000 (repeated 0 (by decide)) (repeated 1000 (by decide))
  exact absurd together (by decide)

/-- An id that is listed twice in one piece gets its history once. -/
theorem chunked_history_short : ExactHistories (atTime 30) oneMaintenance [1, 1] :=
  ((chunked_history_iff rfl oneMaintenance).1 [1, 1]).mpr
    (keptTogether_of_short oneMaintenance (by decide))

end StatusDashboard.Properties
