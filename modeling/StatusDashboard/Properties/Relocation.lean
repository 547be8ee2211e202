import StatusDashboard.Provenance.Alone

namespace StatusDashboard.Properties

open Event Storage Tables Handlers Process Provenance

/-!
# Moving components between incidents

Which incidents are ongoing and which components they hold after a component
was moved or extracted, when the copies that were written back agree with the
stored incidents.  `Relocated` states it for both transactions: a source gives
components to a target and may be closed.
-/

variable {store final : Store} {choice : Choice} {timeNow : Time} {old new : Incident}
variable {close : Bool}

/-- A stored event of type incident without an end date. -/
def Ongoing (store : Store) (id : Nat) : Prop :=
  ∃ row ∈ store.incidents.get? id, row.type = .incident ∧ row.endDate = none

instance (store : Store) (id : Nat) : Decidable (Ongoing store id) :=
  inferInstanceAs (Decidable (∃ row ∈ store.incidents.get? id, _))

/-- A component of some incident with a property. -/
def HeldBy (store : Store) (holder : Nat → Prop) (component : Nat) : Prop :=
  ∃ id, holder id ∧ component ∈ store.componentIds id

theorem heldBy_iff {holder : Nat → Prop} {component : Nat} :
    HeldBy store holder component ↔
      ∃ pair ∈ store.relation.pairs, holder pair.1 ∧ pair.2 = component := by
  constructor
  · rintro ⟨id, holds, linked⟩
    exact ⟨(id, component), JoinTable.mem_right.mp linked, holds, rfl⟩
  · rintro ⟨pair, member, holds, rfl⟩
    exact ⟨pair.1, holds, JoinTable.mem_right.mpr member⟩

instance (store : Store) (holder : Nat → Prop) [DecidablePred holder] (component : Nat) :
    Decidable (HeldBy store holder component) :=
  decidable_of_iff _ heldBy_iff.symm

/-- How a source gives the components `moved` to a target, which then holds
`gained`.  `keeps` says whether the source is open afterwards, `opens` whether
the target is. -/
structure Relocated (source target : Nat) (moved gained : Nat → Prop) (keeps opens : Prop)
    (store final : Store) : Prop where
  apart : source ≠ target
  sourceOpen : Ongoing final source ↔ keeps
  targetOpen : Ongoing final target ↔ opens
  othersOpen : ∀ id, id ≠ source → id ≠ target → (Ongoing final id ↔ Ongoing store id)
  released : ∀ other, other ∈ final.componentIds source ↔
    other ∈ store.componentIds source ∧ ¬ moved other
  received : ∀ other, other ∈ final.componentIds target ↔ gained other
  elsewhere : ∀ id, id ≠ source → id ≠ target →
    ∀ other, other ∈ final.componentIds id ↔ other ∈ store.componentIds id

theorem ongoing_of_row {id : Nat} {row : IncidentRow} (found : store.incidents.get? id = some row) :
    Ongoing store id ↔ row.type = .incident ∧ row.endDate = none := by
  unfold Ongoing
  rw [found]
  simp

/-- A pair of copies written back decides which of two incidents is ongoing. -/
theorem ongoing_written {β : Type} {statement : EventWrite β} {first second : Incident}
    (footprint : Footprint choice statement store final)
    (rewrites : ∀ id row, statement.rewritten choice id row =
      writtenRow choice.now first second id row) (inserts : statement.inserted choice = none)
    (firstStored : ∃ row, store.incidents.get? first.id = some row)
    (secondStored : ∃ row, store.incidents.get? second.id = some row)
    (firstType : first.type = .incident) (secondType : second.type = .incident)
    (apart : second.id ≠ first.id) :
    (Ongoing final second.id ↔ second.endDate = none) ∧
      (Ongoing final first.id ↔ first.endDate = none) ∧
      ∀ id, id ≠ second.id → id ≠ first.id → (Ongoing final id ↔ Ongoing store id) := by
  have stored : ∀ id row, store.incidents.get? id = some row → (Ongoing final id ↔
      (writtenRow choice.now first second id row).type = .incident ∧
        (writtenRow choice.now first second id row).endDate = none) := by
    intro id row found
    have later := footprint.rows id row found
    rw [rewrites] at later
    exact ongoing_of_row later
  refine ⟨?_, ?_, ?_⟩
  · rcases secondStored with ⟨row, found⟩
    rw [stored _ row found, (writtenRow_fields _ _ _ _ _).1, (writtenRow_fields _ _ _ _ _).2.1,
      if_pos rfl, if_pos rfl]
    exact and_iff_right secondType
  · rcases firstStored with ⟨row, found⟩
    rw [stored _ row found, (writtenRow_fields _ _ _ _ _).1, (writtenRow_fields _ _ _ _ _).2.1,
      if_neg (Ne.symm apart), if_neg (Ne.symm apart), if_pos rfl, if_pos rfl]
    exact and_iff_right firstType
  · intro id notSecond notFirst
    cases found : store.incidents.get? id with
    | some row =>
      rw [stored id row found, ongoing_of_row found, (writtenRow_fields _ _ _ _ _).1,
        (writtenRow_fields _ _ _ _ _).2.1, if_neg notSecond, if_neg notSecond, if_neg notFirst,
        if_neg notFirst]
    | none =>
      have missing := footprint.fresh id found
      rw [inserts] at missing
      unfold Ongoing
      rw [missing, found]
      simp

theorem mem_releasedSource {component : Component} {other : Nat} (nonzero : component.id ≠ 0) :
    other ∈ (movedSource timeNow component old new close).wantedIds ↔
      other ∈ old.wantedIds ∧ ¬ (close = false ∧ other = component.id) := by
  have same : other ∈ (releaseComponent timeNow component old new close).wantedIds ↔
      other ∈ old.wantedIds := by
    rw [mem_wantedIds, mem_wantedIds, Incident.componentIds, releaseComponent_components]
    rfl
  unfold movedSource releasedSource
  cases close with
  | true => simpa using same
  | false =>
    rw [if_pos ⟨rfl, nonzero⟩, mem_dropIncidentComponent, same]
    simp

/-- The source of a move is open afterwards if it was and is not closed. -/
theorem releasedSource_ongoing {component : Component} :
    (movedSource timeNow component old new close).endDate =
      none ↔ close = false ∧ old.endDate = none := by
  unfold movedSource releasedSource
  cases close with
  | true => simp [releaseComponent]
  | false => split_ifs <;> simp [releaseComponent, dropIncidentComponent]

/-! ## The copies of a move -/

/-- After one entry of a list was replaced, each entry is the new one or another
one of the old list. -/
theorem mem_replaced {before after : List Incident} {old new copy : Incident}
    (distinct : ((before ++ old :: after).map Incident.id).Nodup)
    (listed : copy ∈ before ++ new :: after) :
    copy = new ∨ (copy ∈ before ++ old :: after ∧ copy.id ≠ old.id) := by
  rw [List.map_append, List.map_cons, List.nodup_middle, List.nodup_cons,
    ← List.map_append] at distinct
  have elsewhere : copy ∈ before ++ after → copy.id ≠ old.id :=
    fun member same => distinct.1 (same ▸ List.mem_map_of_mem member)
  rcases List.mem_append.mp listed with front | back
  · exact Or.inr ⟨List.mem_append_left _ front, elsewhere (List.mem_append_left _ front)⟩
  · rcases List.mem_cons.mp back with same | back
    · exact Or.inl same
    · exact Or.inr ⟨List.mem_append_right _ (List.mem_cons_of_mem _ back),
        elsewhere (List.mem_append_right _ back)⟩

/-- The other entries of a list stay when one is replaced. -/
theorem mem_kept {before after : List Incident} {old new copy : Incident}
    (listed : copy ∈ before ++ old :: after) (other : copy.id ≠ old.id) :
    copy ∈ before ++ new :: after := by
  rcases List.mem_append.mp listed with front | back
  · exact List.mem_append_left _ front
  · rcases List.mem_cons.mp back with rfl | back
    · exact absurd rfl other
    · exact List.mem_append_right _ (List.mem_cons_of_mem _ back)

/-- The stored status of an event reads as the copy shows it. -/
def ShowsStatus (copy : Incident) (store : Store) : Prop :=
  ∀ row ∈ store.incidents.get? copy.id, row.status.getD .unset = copy.status

section Copies

variable {named : Component} {copies : Incident × Incident}

theorem not_target_of_move {id : Nat} (notOld : id ≠ old.id) (notNew : id ≠ new.id) :
    id ∉ EventWrite.targets (moveStatement timeNow named old new close) := by
  simp [EventWrite.targets, receiveComponent, notOld, notNew]

/-- The source of a move as it is returned. -/
theorem moved_source (apart : old.id ≠ new.id)
    (commits : (moveStatement timeNow named old new close).exec choice store =
      .ok (copies, final)) :
    copies.1.id = old.id ∧ copies.1.type = old.type ∧ Settled copies.1 ∧
      ShowsStatus copies.1 final := by
  rcases moveComponentTx_ok commits with ⟨saved, ⟨statuses, settled, shape⟩, _⟩
  have releasedId := movedSource_id timeNow named old new close
  refine ⟨by rw [shape]; exact releasedId, ?_, by rw [shape]; exact settled, ?_⟩
  · rw [shape]
    exact movedSource_type timeNow named old new close
  · intro row found
    rw [shape] at found ⊢
    have written := saved.get? (movedSource timeNow named old new close).id
    rcases saved.secondPresent with ⟨earlier, present⟩
    rw [present, Option.map_some, writtenRow_second (by rw [releasedId]; exact apart)] at written
    cases written.symm.trans found
    rfl

/-- The target of a move as it is returned. -/
theorem moved_target
    (commits : (moveStatement timeNow named old new close).exec choice store =
      .ok (copies, final)) :
    copies.2.id = new.id ∧ copies.2.type = new.type ∧ Settled copies.2 ∧
      copies.2.components = new.components ++ [named] := by
  rcases moveComponentTx_ok commits with ⟨_, _, ⟨statuses, settled, shape⟩⟩
  rw [shape]
  exact ⟨rfl, rfl, settled, rfl⟩

end Copies

/-- A committed move.  The source keeps its components when it is closed. -/
theorem moved_relocated {named : Component} {moved : Incident × Incident}
    (oldSync : InSync old store) (newSync : InSync new store) (oldType : old.type = .incident)
    (newType : new.type = .incident) (apart : old.id ≠ new.id) (nonzero : named.id ≠ 0)
    (commits : (moveStatement timeNow named old new close).exec choice store = .ok (moved, final)) :
    Relocated old.id new.id (fun other => close = false ∧ other = named.id)
      (fun other => other ∈ store.componentIds new.id ∨ other = named.id)
      (close = false ∧ old.endDate = none) (new.endDate = none) store final := by
  have footprint := exec_footprint commits
  rcases oldSync.stored with ⟨oldRow, oldFound, _⟩
  rcases newSync.stored with ⟨newRow, newFound, _⟩
  have releasedId := movedSource_id timeNow named old new close
  have releasedType := (movedSource_type timeNow named old new close).trans oldType
  rcases ongoing_written footprint (fun _ _ => rfl) rfl ⟨newRow, newFound⟩
    ⟨oldRow, releasedId.symm ▸ oldFound⟩ newType releasedType (releasedId.symm ▸ apart) with
    ⟨source, target, others⟩
  rw [releasedId] at source
  refine ⟨apart, source.trans releasedSource_ongoing, target, ?_, ?_, ?_, ?_⟩
  · intro id notSource notTarget
    exact others id (releasedId.symm ▸ notSource) notTarget
  · intro other
    rw [footprint.linked, EventWrite.links, releaseComponent_id, if_pos rfl,
      mem_releasedSource nonzero, oldSync.linked]
  · intro other
    have target : new.id = (receiveComponent timeNow named old new).id := rfl
    rw [footprint.linked, EventWrite.links, releaseComponent_id, if_neg (Ne.symm apart),
      if_pos target, newSync.linked, mem_wantedIds, mem_wantedIds]
    unfold receiveComponent Incident.componentIds
    rw [List.map_append, List.mem_append]
    constructor
    · rintro ⟨held | received, named⟩
      · exact Or.inl ⟨held, named⟩
      · exact Or.inr (List.mem_singleton.mp received)
    · rintro (⟨held, named⟩ | rfl)
      · exact ⟨Or.inl held, named⟩
      · exact ⟨Or.inr (List.mem_singleton.mpr rfl), nonzero⟩
  · intro id notSource notTarget other
    rw [footprint.linked, EventWrite.links, releaseComponent_id, if_neg notSource,
      if_neg (show id ≠ (receiveComponent timeNow named old new).id from notTarget)]

/-- A committed extraction. -/
theorem extracted_relocated {components : List Component} {saved : Incident} {impact : Int}
    {text : String} {description : Option String} {copies : Incident × Incident}
    (oldSync : InSync old store) (savedSync : InSync saved store) (oldType : old.type = .incident)
    (inserted : Setting.ExtractionSaved timeNow components impact text description saved)
    (apart : old.id ≠ saved.id)
    (commits : (extractStatement timeNow components old saved).exec choice store =
      .ok (copies, final)) :
    Relocated old.id saved.id (fun other => other ∈ components.map Component.id)
      (fun other => other ∈ components.map Component.id ∧ other ≠ 0) (old.endDate = none) True
      store final := by
  have footprint := exec_footprint commits
  rcases oldSync.stored with ⟨oldRow, oldFound, _⟩
  rcases savedSync.stored with ⟨savedRow, savedFound, _⟩
  have savedType : saved.type = .incident := by rw [inserted.same]; rfl
  have savedEnding : saved.endDate = none := by rw [inserted.same]; rfl
  have savedComponents : saved.components = components := by rw [inserted.same]; rfl
  have sourceId : (extractedSource timeNow components old saved).id = old.id :=
    dropIncidentComponents_id _ _
  have sourceType : (extractedSource timeNow components old saved).type = .incident :=
    (dropIncidentComponents_type _ _).trans oldType
  have sourceEnding : (extractedSource timeNow components old saved).endDate = old.endDate := by
    rw [extractedSource, dropIncidentComponents_fields]
    rfl
  rcases ongoing_written footprint (fun _ _ => rfl) rfl ⟨savedRow, savedFound⟩
    ⟨oldRow, sourceId.symm ▸ oldFound⟩ savedType sourceType (sourceId.symm ▸ apart) with
    ⟨source, target, others⟩
  rw [sourceId, sourceEnding] at source
  have oldId : (extractionSource timeNow components (extractionTarget timeNow components old saved)
      old).id = old.id := rfl
  have savedId : (extractionTarget timeNow components old saved).id = saved.id := rfl
  refine ⟨apart, source, ?_, ?_, ?_, ?_, ?_⟩
  · exact target.trans (iff_true_intro savedEnding)
  · intro id notSource notTarget
    exact others id (sourceId.symm ▸ notSource) notTarget
  · intro other
    rw [footprint.linked, EventWrite.links, oldId, if_pos rfl, mem_dropIncidentComponents,
      oldSync.linked]
    rfl
  · intro other
    rw [footprint.linked, EventWrite.links, oldId, savedId, if_neg (Ne.symm apart), if_pos rfl,
      mem_wantedIds]
    change other ∈ saved.components.map Component.id ∧ other ≠ 0 ↔ _
    rw [savedComponents]
  · intro id notSource notTarget other
    rw [footprint.linked, EventWrite.links, oldId, savedId, if_neg notSource, if_neg notTarget]

/-- A write that only inserts a row leaves the other incidents as they are. -/
theorem others_of_insert {β : Type} {statement : EventWrite β}
    (footprint : Footprint choice statement store final) (nothing : statement.targets = [])
    {id : Nat} (old : id ≠ store.incidents.nextId) :
    final.incidents.get? id = store.incidents.get? id ∧
      ∀ other, other ∈ final.componentIds id ↔ other ∈ store.componentIds id := by
  have untouched : id ∉ statement.targets := by
    rw [nothing]
    exact List.not_mem_nil
  constructor
  · cases found : store.incidents.get? id with
    | none => rw [footprint.fresh id found, if_neg old]
    | some row =>
      rw [footprint.rows id row found, EventWrite.rewritten_of_not_target untouched]
  · intro other
    rw [footprint.linked, EventWrite.links_of_not_target untouched old]

/-- Both transactions of an extraction, from the store the first one starts in. -/
theorem extraction_relocated {saving moving : Choice} {components : List Component}
    {saved : Incident} {impact : Int} {text : String} {description : Option String}
    {copies : Incident × Incident} {middle : Store} (oldSync : InSync old store)
    (oldType : old.type = .incident)
    (saves : (EventWrite.saveIncident (extractedIncident timeNow components impact text
      description)).exec saving store = .ok (saved, middle))
    (moves : (extractStatement timeNow components old saved).exec moving middle =
      .ok (copies, final)) :
    Relocated old.id saved.id (fun other => other ∈ components.map Component.id)
      (fun other => other ∈ components.map Component.id ∧ other ≠ 0) (old.endDate = none) True
      store final := by
  have inserted : Setting.ExtractionSaved timeNow components impact text description saved := by
    rcases saveIncidentTx_ok saves with ⟨_, statuses, settled, rfl⟩
    exact ⟨rfl, settled⟩
  have savedId := (saved_row saves).id
  have apart : old.id ≠ saved.id := by
    rcases oldSync.stored with ⟨row, found, _⟩
    rw [savedId]
    exact Nat.ne_of_lt (SerialTable.lt_nextId_of_get? found)
  have relocated := extracted_relocated (oldSync.kept (exec_footprint saves) List.not_mem_nil)
    (saved_inSync rfl rfl saves) oldType inserted apart moves
  have spared : ∀ id, id ≠ saved.id → middle.incidents.get? id = store.incidents.get? id ∧
      ∀ other, other ∈ middle.componentIds id ↔ other ∈ store.componentIds id :=
    fun id different => others_of_insert (exec_footprint saves) rfl (savedId ▸ different)
  refine ⟨apart, relocated.sourceOpen, relocated.targetOpen, ?_, ?_, relocated.received, ?_⟩
  · intro id notSource notTarget
    rw [relocated.othersOpen id notSource notTarget]
    unfold Ongoing
    rw [(spared id notTarget).1]
  · intro other
    rw [relocated.released, (spared old.id apart).2]
  · intro id notSource notTarget other
    rw [relocated.elsewhere id notSource notTarget, (spared id notTarget).2]

/-! ## Conditions on moves -/

/-- The component, the source and the target of a committed move. -/
def movement (event : DbEvent) : Option (Nat × Nat × Nat) :=
  match event with
  | { operation := .write (.moveComponent component incOld incNew _), result := .ok _, .. } =>
    some (component.id, incOld.id, incNew.id)
  | _ => none

theorem movement_of_quiet {event : DbEvent} (quiet : ¬ Commits event) : movement event = none := by
  rcases event with ⟨operation, result, before, after⟩
  cases operation with
  | write statement =>
    cases result with
    | ok => exact absurd trivial quiet
    | error => cases statement <;> rfl
  | _ => rfl

/-- The moves of a system creation meet a condition. -/
def SystemMoves (condition : Store → Nat → Nat → Nat → Prop) (data : IncidentData)
    (event : DbEvent) : Prop :=
  data.system = some true → ∀ move ∈ movement event,
    condition event.before move.1 move.2.1 move.2.2

instance (condition : Store → Nat → Nat → Nat → Prop)
    [∀ store component source target, Decidable (condition store component source target)]
    (data : IncidentData) (event : DbEvent) : Decidable (SystemMoves condition data event) :=
  inferInstanceAs (Decidable (data.system = some true → ∀ move ∈ movement event, _))

/-- A condition on the moves of system creations says nothing about other writes. -/
theorem systemMoves_of_no_movement {condition : Store → Nat → Nat → Nat → Prop}
    {data : IncidentData} {event : DbEvent} (still : movement event = none) :
    SystemMoves condition data event := by
  intro _ move member
  rw [still] at member
  cases member

end StatusDashboard.Properties
