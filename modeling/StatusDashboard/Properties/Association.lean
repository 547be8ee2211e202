import StatusDashboard.Properties.Relocation

namespace StatusDashboard.Properties

open Event Storage Tables Handlers Process Provenance

/-!
# Associations under concurrency

A move and an extraction write back two whole copies and make the stored links
match them.  What another request has linked to one of the two incidents since
the copy was read is deleted, and an end date it has set is cleared.  A step is
harmless when it deletes only links of components its request names and ends no
closure, unless it serves a request to reopen.  Moves and extractions are
harmless exactly when their copies are fresh; every other step always is.
-/

variable {activity : Activity} {event : DbEvent} {store final : Store}

/-- The components a request names. -/
def namedComponents : Activity → List Nat
  | .post _ _ data => data.components
  | .extract _ _ components => components
  | _ => []

/-- A request to reopen an event. -/
def Reopens : Activity → Nat → Prop
  | .patch _ target data, id => id = target ∧ data.status = .reopened
  | _, _ => False

/-- What a step may do to the work of others. -/
structure Harmless (activity : Activity) (event : DbEvent) : Prop where
  links : ∀ id component, component ∈ event.before.componentIds id →
    component ∉ event.after.componentIds id → component ∈ namedComponents activity
  closures : ∀ id row later, event.before.incidents.get? id = some row →
    event.after.incidents.get? id = some later → row.endDate ≠ none → later.endDate = none →
    Reopens activity id

/-- A copy that misses no stored component but those the request names, and no
stored end date. -/
def CopyFresh (named : List Nat) (copy : Incident) (store : Store) : Prop :=
  (∀ component ∈ store.componentIds copy.id, component ∉ named → component ∈ copy.componentIds) ∧
    ∀ row ∈ store.incidents.get? copy.id, row.endDate ≠ none → copy.endDate ≠ none

instance (named : List Nat) (copy : Incident) (store : Store) :
    Decidable (CopyFresh named copy store) :=
  inferInstanceAs (Decidable (_ ∧ _))

/-- The copies a committed move or extraction writes back: the source, and the
target unless the source overwrites it. -/
def writtenCopies (event : DbEvent) : List Incident :=
  match event with
  | { operation := .write (.moveComponent _ incOld incNew _), result := .ok _, .. } =>
    if incNew.id = incOld.id then [incOld] else [incOld, incNew]
  | { operation := .write (.extractComponents _ incident incOld), result := .ok _, .. } =>
    if incident.id = incOld.id then [incOld] else [incOld, incident]
  | _ => []

/-- All copies a step writes back whole are fresh. -/
def FreshCopies (activity : Activity) (event : DbEvent) : Prop :=
  ∀ copy ∈ writtenCopies event, CopyFresh (namedComponents activity) copy event.before

instance (activity : Activity) (event : DbEvent) : Decidable (FreshCopies activity event) :=
  inferInstanceAs (Decidable (∀ copy ∈ writtenCopies event, _))

theorem freshCopies_of_none (none : writtenCopies event = []) : FreshCopies activity event := by
  intro copy member
  rw [none] at member
  cases member

theorem writtenCopies_of_quiet (quiet : ¬ Commits event) :
    writtenCopies event = [] := by
  rcases event with ⟨operation, result, before, after⟩
  cases operation with
  | write statement =>
    cases result with
    | ok => exact absurd trivial quiet
    | error => cases statement <;> rfl
  | _ => rfl

/-! ## Steps that are always harmless -/

theorem harmless_of_sameEvents (same : SameEvents event.before event.after) :
    Harmless activity event where
  links id component held lost := by
    rw [componentIds_of_relation same.relation] at lost
    exact absurd held lost
  closures id row later found present closed reopened := by
    rw [same.incidents, found] at present
    cases present
    exact absurd reopened closed

/-- A write that unlinks nothing and clears no end date. -/
theorem harmless_of_footprint {β : Type} {choice : Choice} {statement : EventWrite β} {value : β}
    (footprint : Footprint choice statement store final)
    (grows : ∀ id other, other ∈ store.componentIds id →
      statement.links store.incidents.nextId id other (other ∈ store.componentIds id))
    (keeps : ∀ id ∈ statement.targets, ∀ row, row.endDate ≠ none →
      (statement.rewritten choice id row).endDate = none → Reopens activity id) :
    Harmless activity (committed statement value store final) where
  links id component held lost :=
    absurd ((footprint.linked id component).mpr (grows id component held)) lost
  closures id row later found present closed reopened := by
    have rewritten := footprint.rows id row found
    rw [show final.incidents.get? id = some later from present] at rewritten
    cases rewritten
    by_cases target : id ∈ statement.targets
    · exact keeps id target row closed reopened
    · rw [EventWrite.rewritten_of_not_target target] at reopened
      exact absurd reopened closed

theorem endDate_of_or {given stored : Option Time} (closed : stored ≠ none) :
    given.or stored ≠ none := by
  cases given with
  | none => exact closed
  | some time => exact Option.some_ne_none time

/-! ## Copies written back -/

/-- A step that keeps what others did to one incident. -/
def KeptAt (named : List Nat) (id : Nat) (store final : Store) : Prop :=
  (∀ component ∈ store.componentIds id, component ∉ final.componentIds id → component ∈ named) ∧
    ∀ row later, store.incidents.get? id = some row → final.incidents.get? id = some later →
      row.endDate ≠ none → later.endDate ≠ none

theorem harmless_iff_keptAt (never : ∀ id, ¬ Reopens activity id) :
    Harmless activity event ↔
      ∀ id, KeptAt (namedComponents activity) id event.before event.after := by
  constructor
  · intro harmless id
    exact ⟨harmless.links id, fun row later found present closed opens =>
      never id (harmless.closures id row later found present closed opens)⟩
  · intro kept
    exact ⟨fun id => (kept id).1, fun id row later found present closed opens =>
      absurd opens ((kept id).2 row later found present closed)⟩

/-- Writing back a copy keeps what others did exactly when the copy is fresh. -/
theorem keptAt_iff_fresh {named : List Nat} {copy : Incident}
    (linked : ∀ component, component ∉ named →
      (component ∈ final.componentIds copy.id ↔ component ∈ copy.wantedIds))
    (ending : ∀ row, store.incidents.get? copy.id = some row →
      ∃ later, final.incidents.get? copy.id = some later ∧ later.endDate = copy.endDate) :
    KeptAt named copy.id store final ↔ CopyFresh named copy store := by
  constructor
  · rintro ⟨links, closures⟩
    refine ⟨?_, ?_⟩
    · intro component held unnamed
      by_contra missing
      apply unnamed (links component held _)
      intro kept
      exact missing (mem_wantedIds.mp ((linked component unnamed).mp kept)).1
    · intro row found closed
      rcases ending row found with ⟨later, present, same⟩
      rw [← same]
      exact closures row later found present closed
  · rintro ⟨links, closures⟩
    refine ⟨?_, ?_⟩
    · intro component held lost
      by_contra unnamed
      apply lost
      exact (linked component unnamed).mpr (mem_wantedIds.mpr
        ⟨links component held unnamed, Store.pos_of_mem_componentIds held⟩)
    · intro row later found present closed
      rcases ending row found with ⟨written, stored, same⟩
      rw [present] at stored
      cases stored
      rw [same]
      exact closures row found closed

/-- A pair of copies written back is harmless exactly when the copies are fresh. -/
theorem harmless_pair_iff {β : Type} {choice : Choice} {statement : EventWrite β} {value : β}
    {first second source : Incident} (footprint : Footprint choice statement store final)
    (rewrites : ∀ id row, statement.rewritten choice id row =
      writtenRow choice.now first second id row)
    (links : ∀ fresh id other stored, statement.links fresh id other stored ↔
      if id = second.id then other ∈ second.wantedIds
      else if id = first.id then other ∈ first.wantedIds else stored)
    (sameId : second.id = source.id) (sameEnding : second.endDate = source.endDate)
    (sameComponents : ∀ other, other ∉ namedComponents activity →
      (other ∈ second.wantedIds ↔ other ∈ source.wantedIds)) (never : ∀ id, ¬ Reopens activity id) :
    Harmless activity (committed statement value store final) ↔
      ∀ copy ∈ if first.id = source.id then [source] else [source, first],
        CopyFresh (namedComponents activity) copy store := by
  have rows : ∀ id row, store.incidents.get? id = some row → ∃ later,
      final.incidents.get? id = some later ∧ later.endDate = if id = second.id then second.endDate
        else if id = first.id then first.endDate else row.endDate := by
    intro id row found
    refine ⟨_, footprint.rows id row found, ?_⟩
    rw [rewrites]
    exact (writtenRow_fields _ _ _ _ _).2.1
  have linked := fun id other => (footprint.linked id other).trans
    (links store.incidents.nextId id other (other ∈ store.componentIds id))
  have atSource : KeptAt (namedComponents activity) source.id store final ↔
      CopyFresh (namedComponents activity) source store := by
    apply keptAt_iff_fresh
    · intro component unnamed
      rw [linked, if_pos sameId.symm, sameComponents component unnamed]
    · intro row found
      rcases rows source.id row found with ⟨later, present, ending⟩
      rw [if_pos sameId.symm, sameEnding] at ending
      exact ⟨later, present, ending⟩
  have atFirst : first.id ≠ source.id → (KeptAt (namedComponents activity) first.id store final ↔
      CopyFresh (namedComponents activity) first store) := by
    intro apart
    apply keptAt_iff_fresh
    · intro component _
      rw [linked, if_neg (sameId ▸ apart), if_pos rfl]
    · intro row found
      rcases rows first.id row found with ⟨later, present, ending⟩
      rw [if_neg (sameId ▸ apart), if_pos rfl] at ending
      exact ⟨later, present, ending⟩
  have elsewhere : ∀ id, id ≠ source.id → id ≠ first.id →
      KeptAt (namedComponents activity) id store final := by
    intro id notSource notFirst
    rw [← sameId] at notSource
    refine ⟨?_, ?_⟩
    · intro component held lost
      rw [linked, if_neg notSource, if_neg notFirst] at lost
      exact absurd held lost
    · intro row later found present closed
      rcases rows id row found with ⟨written, stored, ending⟩
      rw [present] at stored
      cases stored
      rw [ending, if_neg notSource, if_neg notFirst]
      exact closed
  rw [harmless_iff_keptAt never]
  constructor
  · intro kept copy member
    split_ifs at member with same
    · rw [List.mem_singleton.mp member]
      exact atSource.mp (kept source.id)
    · rcases List.mem_cons.mp member with rfl | rest
      · exact atSource.mp (kept copy.id)
      · rw [List.mem_singleton.mp rest]
        exact (atFirst same).mp (kept first.id)
  · intro fresh id
    by_cases isSource : id = source.id
    · rw [isSource]
      apply atSource.mpr (fresh source _)
      split_ifs <;> exact List.mem_cons_self
    · by_cases isFirst : id = first.id
      · have apart : first.id ≠ source.id := isFirst ▸ isSource
        rw [isFirst]
        apply (atFirst apart).mpr (fresh first _)
        rw [if_neg apart]
        exact List.mem_cons_of_mem _ List.mem_cons_self
      · exact elsewhere id isSource isFirst

/-! ## The writes of all activities -/

section Activities

variable {assume property : DbEvent → Prop} {unaffected : Unaffected property}
variable {deployment : Deployment} {activity : Activity}

variable {incOld : Incident} {choice : Choice}

theorem mem_releasedSource_of_ne {component : Component} {close : Bool} {other : Nat}
    (different : other ≠ component.id) :
    other ∈ (releasedSource component incOld close).wantedIds ↔ other ∈ incOld.wantedIds := by
  unfold releasedSource
  split_ifs
  · rw [mem_wantedIds, mem_wantedIds]
    unfold dropIncidentComponent Incident.componentIds
    simp only [List.mem_map, List.mem_filter, ne_eq, decide_eq_true_eq]
    constructor
    · rintro ⟨⟨held, ⟨member, _⟩, rfl⟩, nonzero⟩
      exact ⟨⟨held, member, rfl⟩, nonzero⟩
    · rintro ⟨⟨held, member, rfl⟩, nonzero⟩
      exact ⟨⟨held, ⟨member, different⟩, rfl⟩, nonzero⟩
  · exact Iff.rfl

/-- A move of a named component. -/
theorem harmless_move_iff {component : Component} {incNew : Incident} {close : Bool}
    {copies : Incident × Incident} (named : component.id ∈ namedComponents activity)
    (never : ∀ id, ¬ Reopens activity id)
    (commits : (EventWrite.moveComponent component incOld incNew close).exec choice store =
      .ok (copies, final)) :
    Harmless activity
        (committed (.moveComponent component incOld incNew close) copies store final) ↔
      FreshCopies activity
        (committed (.moveComponent component incOld incNew close) copies store final) := by
  apply harmless_pair_iff (exec_footprint commits) (fun _ _ => rfl) _ (releasedSource_id _ _ _)
  · unfold releasedSource
    split_ifs <;> rfl
  · intro other unnamed
    exact mem_releasedSource_of_ne (fun same => unnamed (same ▸ named))
  · exact never
  · intro fresh id other stored
    rw [releasedSource_id]
    exact Iff.rfl

/-- An extraction of named components. -/
theorem harmless_extract_iff {components : List Component} {incident : Incident}
    {copies : Incident × Incident} (named : components.map Component.id ⊆ namedComponents activity)
    (never : ∀ id, ¬ Reopens activity id)
    (commits : (EventWrite.extractComponents components incident incOld).exec choice store =
      .ok (copies, final)) :
    Harmless activity
        (committed (.extractComponents components incident incOld) copies store final) ↔
      FreshCopies activity
        (committed (.extractComponents components incident incOld) copies store final) := by
  apply harmless_pair_iff (exec_footprint commits) (fun _ _ => rfl) _
    (dropIncidentComponents_id _ _)
  · rw [dropIncidentComponents_fields]
  · intro other unnamed
    rw [mem_dropIncidentComponents]
    exact and_iff_left (fun listed => unnamed (named listed))
  · exact never
  · intro fresh id other stored
    rw [dropIncidentComponents_id]
    exact Iff.rfl

theorem extracts_named {setting : Setting} {components : List Component} {old : Incident}
    {impact : Int} {text : String} {description : Option String}
    (extracts : setting.Extracts activity store components old impact text description) :
    components.map Component.id ⊆ namedComponents activity ∧ ∀ id, ¬ Reopens activity id := by
  cases extracts with
  | system names =>
    exact ⟨List.cons_subset.mpr ⟨names.named, List.nil_subset _⟩, fun _ => id⟩
  | request fetched type distinct chosen =>
    rw [(Setting.getComponentsToExtract_ok chosen).1]
    exact ⟨List.Subset.refl _, fun _ => id⟩

/-- Every committed write is harmless exactly when the copies it writes back
whole are fresh. -/
theorem issued_harmless {setting : Setting} {β : Type} {statement : EventWrite β} {value : β}
    (issued : setting.Issued deployment activity store statement)
    (commits : statement.exec choice store = .ok (value, final)) :
    Harmless activity (committed statement value store final) ↔
      FreshCopies activity (committed statement value store final) := by
  have footprint := exec_footprint commits
  cases issued with
  | regularMove regular valid names => exact harmless_move_iff names (fun _ => id) commits
  | systemMove names same =>
    exact harmless_move_iff (same ▸ names.named) (fun _ => id) commits
  | extract extracts =>
    rcases extracts_named extracts with ⟨named, never⟩
    exact harmless_extract_iff named never commits
  | regularCreate | systemCreate | extractSave =>
    exact iff_of_true (harmless_of_footprint footprint (fun _ _ held => Or.inl held)
      (fun _ new => by cases new)) (freshCopies_of_none rfl)
  | editText =>
    exact iff_of_true (harmless_of_footprint footprint (fun _ _ held => held)
      (fun _ new => by cases new)) (freshCopies_of_none rfl)
  | systemAdd =>
    refine iff_of_true (harmless_of_footprint footprint (fun _ _ held => Or.inl held) ?_)
      (freshCopies_of_none rfl)
    intro id target row closed opens
    rw [EventWrite.rewritten, if_pos (List.mem_singleton.mp target)] at opens
    exact absurd opens closed
  | reopen status =>
    refine iff_of_true (harmless_of_footprint footprint (fun _ _ held => held) ?_)
      (freshCopies_of_none rfl)
    intro id target _ _ _
    exact ⟨List.mem_singleton.mp target, status⟩
  | systemRaise | systemMark | patch | checkMaintenance | checkInfo =>
    refine iff_of_true (harmless_of_footprint footprint (fun _ _ held => held) ?_)
      (freshCopies_of_none rfl)
    intro id target row closed opens
    rw [EventWrite.rewritten, if_pos (List.mem_singleton.mp target)] at opens
    exact absurd opens (endDate_of_or closed)

end Activities

/-- In every interleaving a step is harmless exactly when the copies it writes
back whole are fresh.  As long as all of them are, a link that is present at
some point and missing at the end was deleted by a request that names the
component, and a closed incident that is open at the end was reopened by a
request to do so. -/
theorem pool_harmless {ι : Type} [DecidableEq ι] {deployment : Deployment}
    {activities : ι → Activity} {store final : Store} {trace : List (ι × DbEvent)}
    (pool : Pool deployment activities store trace final) :
    (∀ entry ∈ trace,
      Harmless (activities entry.1) entry.2 ↔ FreshCopies (activities entry.1) entry.2) ∧
    ((∀ entry ∈ trace, FreshCopies (activities entry.1) entry.2) →
      ∀ earlier later middle, trace = earlier ++ later →
        Chained middle (later.map Prod.snd) final →
        (∀ id component, component ∈ middle.componentIds id → component ∉ final.componentIds id →
          ∃ entry ∈ later, component ∈ namedComponents (activities entry.1)) ∧
        ∀ id row last, middle.incidents.get? id = some row → row.endDate ≠ none →
          final.incidents.get? id = some last → last.endDate = none →
          ∃ entry ∈ later, Reopens (activities entry.1) id) := by
  have steps := (pool_guarantees pool (fun _ => Or.inr rfl) evolution (fun _ _ => True)
    (fun party event => Harmless (activities party) event ↔ FreshCopies (activities party) event)
    (fun party => unaffected_of_quiet (fun event quiet same => iff_of_true
      (harmless_of_sameEvents same) (freshCopies_of_none (writtenCopies_of_quiet quiet))))
    (fun party _ statement choice value current next issued commits evolves _ _ =>
      ⟨evolves, issued_harmless issued commits⟩) trivial (fun _ _ => trivial)).1
  refine ⟨fun entry member => (steps entry member).1, ?_⟩
  intro fresh earlier later middle split chained
  have listed : ∀ entry ∈ later, entry ∈ trace := by
    intro entry member
    rw [split]
    exact List.mem_append_right earlier member
  have harmless : ∀ entry ∈ later, Harmless (activities entry.1) entry.2 := fun entry member =>
    (steps entry (listed entry member)).1.mpr (fresh entry (listed entry member))
  constructor
  · intro id component held lost
    by_contra unnamed
    refine lost (chained.invariant (fun state => component ∈ state.componentIds id) held ?_).2
    intro event member before
    rcases List.mem_map.mp member with ⟨entry, entryListed, rfl⟩
    by_contra after
    exact unnamed ⟨entry, entryListed, (harmless entry entryListed).links id component before after⟩
  · intro id row last found closed present opens
    by_contra unopened
    have closedThen : ∃ row, final.incidents.get? id = some row ∧ row.endDate ≠ none := by
      refine (chained.invariant (fun state => ∃ row, state.incidents.get? id = some row ∧
        row.endDate ≠ none) ⟨row, found, closed⟩ ?_).2
      intro event member before
      rcases List.mem_map.mp member with ⟨entry, entryListed, rfl⟩
      rcases before with ⟨stored, storedFound, storedClosed⟩
      have evolves : Evolves entry.2.before entry.2.after :=
        (steps entry (listed entry entryListed)).2.1
      rcases evolves.rows id stored storedFound with ⟨next, nextFound, _⟩
      refine ⟨next, nextFound, ?_⟩
      intro nextOpens
      exact unopened ⟨entry, entryListed, (harmless entry entryListed).closures id stored next
        storedFound nextFound storedClosed nextOpens⟩
    rcases closedThen with ⟨stored, storedFound, storedClosed⟩
    rw [present] at storedFound
    cases storedFound
    exact storedClosed opens

/-! ## Stale copies -/

/-- Requests that relocate components. -/
def relocates : Activity → Bool
  | .post _ _ _ => true
  | .extract _ _ _ => true
  | _ => false

/-- Components 1 and 2 share a system incident of impact 1. -/
def sharedIncident : Store :=
  (replay quietDeployment [(.post .events anAdmin (incidentReport true [1, 2] 1), atTime 20)]
    (bareStore 3)).2

/-- A regular creation for component 1, at the same time as another request. -/
def creationAnd (other : Activity) : Bool → Activity
  | true => .post .events anAdmin (incidentReport false [1] 2)
  | false => other

/-- The creation reads the active events, then the other request runs, then the
creation goes on. -/
def overtaken (other : Activity) : List (Bool × DbEvent) × Store :=
  schedule database (fun party => (creationAnd other party).program quietDeployment)
    (List.replicate 6 (true, atTime 30) ++ List.replicate 20 (false, atTime 40) ++
      List.replicate 10 (true, atTime 50)) sharedIncident

theorem overtaken_pool (other : Activity) :
    Pool quietDeployment (creationAnd other) sharedIncident (overtaken other).1
      (overtaken other).2 :=
  schedule_interleaving database _ _ _

/-- A system creation adds component 3 to the incident, and the regular creation
deletes the link.  A PATCH resolves the incident, and the regular creation opens
it again. -/
theorem pool_harmless_fails :
    (¬ ∀ (deployment : Deployment) (activities : Bool → Activity) (store final : Store)
      (trace : List (Bool × DbEvent)), Pool deployment activities store trace final →
      (∀ party, relocates (activities party) = true) →
      ∀ entry ∈ trace, ∀ id component, component ∈ entry.2.before.componentIds id →
        component ∉ entry.2.after.componentIds id →
        component ∈ namedComponents (activities entry.1)) ∧
    (¬ ∀ (deployment : Deployment) (activities : Bool → Activity) (store final : Store)
      (trace : List (Bool × DbEvent)), Pool deployment activities store trace final →
      ∀ entry ∈ trace, relocates (activities entry.1) = true → ∀ id,
        Ongoing entry.2.after id → Ongoing entry.2.before id ∨
          entry.2.before.incidents.get? id = none) := by
  constructor
  · intro claimed
    have lost : ∃ entry ∈ (overtaken (.post .events anAdmin (incidentReport true [3] 1))).1,
        3 ∈ entry.2.before.componentIds 1 ∧ 3 ∉ entry.2.after.componentIds 1 ∧
          3 ∉ namedComponents
            (creationAnd (.post .events anAdmin (incidentReport true [3] 1)) entry.1) := by
      decide +kernel
    rcases lost with ⟨entry, member, held, gone, unnamed⟩
    exact unnamed (claimed _ _ _ _ _ (overtaken_pool _) (by decide) entry member 1 3 held gone)
  · intro claimed
    have reopened : ∃ entry ∈ (overtaken (.patch anAdmin 1 (statusPatch .resolved 35 none))).1,
        relocates (creationAnd (.patch anAdmin 1 (statusPatch .resolved 35 none)) entry.1) = true ∧
          Ongoing entry.2.after 1 ∧ ¬ Ongoing entry.2.before 1 ∧
          entry.2.before.incidents.get? 1 ≠ none := by
      decide +kernel
    rcases reopened with ⟨entry, member, relocating, opened, closed, stored⟩
    rcases claimed _ _ _ _ _ (overtaken_pool _) entry member relocating 1 opened with ongoing | missing
    · exact closed ongoing
    · exact stored missing

/-- The system creation starts after the regular creation has finished. -/
def inTurn : List (Bool × DbEvent) × Store :=
  schedule database (fun party =>
      (creationAnd (.post .events anAdmin (incidentReport true [3] 1)) party).program
        quietDeployment)
    (List.replicate 20 (true, atTime 30) ++ List.replicate 20 (false, atTime 40)) sharedIncident

theorem pool_harmless_inTurn :
    (∀ entry ∈ inTurn.1, FreshCopies
      (creationAnd (.post .events anAdmin (incidentReport true [3] 1)) entry.1) entry.2) ∧
    (∃ entry ∈ inTurn.1, writtenCopies entry.2 ≠ []) ∧
    ∀ id component, component ∈ sharedIncident.componentIds id →
      component ∉ inTurn.2.componentIds id → ∃ entry ∈ inTurn.1, component ∈ namedComponents
        (creationAnd (.post .events anAdmin (incidentReport true [3] 1)) entry.1) := by
  have fresh : ∀ entry ∈ inTurn.1, FreshCopies
      (creationAnd (.post .events anAdmin (incidentReport true [3] 1)) entry.1) entry.2 := by
    decide +kernel
  have pool : Pool quietDeployment
      (creationAnd (.post .events anAdmin (incidentReport true [3] 1))) sharedIncident inTurn.1
      inTurn.2 := schedule_interleaving database _ _ _
  exact ⟨fresh, by decide +kernel,
    ((pool_harmless pool).2 fresh [] inTurn.1 sharedIncident rfl pool.chained).1⟩

end StatusDashboard.Properties
