import StatusDashboard.Provenance.Revision
import StatusDashboard.Provenance.Shared

namespace StatusDashboard.Properties

open Event Storage Tables Handlers Process Provenance Checker

/-!
# Drafts and the checker

The checker skips drafts when it loads the batch, and does not look again when
it loads one maintenance for its write.  A PATCH that takes an event back to
`pending_review` in between makes it advance a draft.  As long as no PATCH does
that, a maintenance that was once submitted stays submitted, and every draft
that leaves `pending_review` does so by a PATCH of it.
-/

/-- A maintenance in review. -/
def Draft (store : Store) (id : Nat) : Prop :=
  ∃ row ∈ store.incidents.get? id, row.type = .maintenance ∧ row.status = some .pendingReview

instance (store : Store) (id : Nat) : Decidable (Draft store id) :=
  inferInstanceAs (Decidable (∃ row ∈ store.incidents.get? id, _))

/-- The copy a committed PATCH or checker write puts back. -/
def modification (event : DbEvent) : Option Incident :=
  match event with
  | { operation := .write statement, result := .ok _, .. } => statement.modifies
  | _ => none

/-- No event that is not in review is taken to `pending_review`.  Only a PATCH
could do that: no checker ever computes this status. -/
def KeepsSubmitted (event : DbEvent) : Prop :=
  ∀ copy ∈ modification event, copy.status = .pendingReview → Draft event.before copy.id

instance (event : DbEvent) : Decidable (KeepsSubmitted event) :=
  inferInstanceAs (Decidable (∀ copy ∈ modification event, _))

/-- A stored maintenance that is not in review stays so. -/
def StaysSubmitted (store later : Store) : Prop :=
  ∀ id row, store.incidents.get? id = some row → row.type = .maintenance → ¬ Draft store id →
    ¬ Draft later id

theorem draft_of_row {store : Store} {id : Nat} {row : IncidentRow}
    (found : store.incidents.get? id = some row) :
    Draft store id ↔ row.type = .maintenance ∧ row.status = some .pendingReview := by
  unfold Draft
  rw [found]
  simp

/-- Surroundings in which no submitted maintenance returns to review. -/
def submitting : Surroundings where
  drift store later := Evolves store later ∧ StaysSubmitted store later
  invariant _ := True
  preorder :=
    { refl := fun store => ⟨Evolves.refl store, fun _ _ _ _ submitted => submitted⟩
      trans := by
        rintro first second third ⟨evolves, stays⟩ ⟨evolvesOn, staysOn⟩
        refine ⟨evolves.trans evolvesOn, ?_⟩
        intro id row found maintenance submitted
        rcases evolves.rows id row found with ⟨middle, present, type, _⟩
        exact staysOn id middle present (type.trans maintenance)
          (stays id row found maintenance submitted) }
  evolves := And.left
  keeps _ _ := trivial
  quiet := by
    intro store later same
    refine ⟨evolves_of_sameEvents same, ?_⟩
    intro id row found maintenance submitted draft
    apply submitted
    unfold Draft at draft ⊢
    rwa [same.incidents] at draft

/-- A step that takes a draft out of review serves a PATCH of it. -/
def AdvancedByPatch (activity : Activity) (event : DbEvent) : Prop :=
  ∀ id, Draft event.before id → ¬ Draft event.after id →
    ∃ caller data, activity = .patch caller id data

theorem advancedByPatch_of_sameEvents {activity : Activity} {event : DbEvent}
    (same : SameEvents event.before event.after) : AdvancedByPatch activity event := by
  intro id draft advanced
  unfold Draft at draft advanced
  rw [same.incidents] at advanced
  exact absurd draft advanced

theorem currentMntStatus_ne (now : Time) (mn : Incident) :
    currentMntStatus now mn ≠ .unset ∧ currentMntStatus now mn ≠ .pendingReview := by
  have computed := currentMntStatus_mem now mn
  constructor <;>
    · intro equal
      rw [equal] at computed
      simp at computed

section Writes

variable {assume property : DbEvent → Prop} {unaffected : Unaffected property}
variable {deployment : Deployment} {activity : Activity}

theorem issued_submitted {β : Type} {statement : EventWrite β} {choice : Choice} {value : β}
    {store final : Store}
    (issued : (shared submitting assume property unaffected).Issued deployment activity store
      statement)
    (commits : statement.exec choice store = .ok (value, final))
    (submits : KeepsSubmitted (committed statement value store final)) :
    StaysSubmitted store final ∧ AdvancedByPatch activity (committed statement value store final) := by
  constructor
  · intro id row found maintenance submitted draft
    rcases shared_evolving.maintenance_row issued commits found maintenance with same |
      ⟨incident, modifies, rfl, revision, stored⟩
    · exact submitted ((draft_of_row found).mpr ((draft_of_row same).mp draft))
    · have written := ((draft_of_row stored).mp draft).2
      have set : incident.status ≠ .unset := by
        cases revision with
        | patch bound =>
          intro unset
          change _ = Status.unset at unset
          simp [PatchIncidentData.bound, patchedIncident, updateFields] at bound unset
          exact bound.1.2 unset
        | check =>
          exact (currentMntStatus_ne _ _).1
      rw [modifiedRow_status _ _ _ _ set] at written
      exact submitted (submits incident modifies (Option.some.inj written))
  · intro id draft advanced
    rcases draft with ⟨row, found, maintenance, review⟩
    rcases shared_evolving.maintenance_row issued commits found maintenance with same |
      ⟨incident, modifies, rfl, revision, stored⟩
    · exact absurd ((draft_of_row same).mpr ⟨maintenance, review⟩) advanced
    · cases revision with
      | patch bound fetched =>
        rcases fetched with ⟨same, _⟩
        exact ⟨_, _, by rw [← same]; rfl⟩
      | @check batchRow current copy fixed now batch before first _ kept listed type submitted
          later fetched fixes changes =>
          rcases fetched with ⟨_, reached, _, _, reading⟩
          rcases completes_fixMntMissedStatuses fixes with ⟨added, rfl, _⟩
          have drifted : submitting.drift batch store :=
            submitting.preorder.trans _ _ _ later
              (submitting.preorder.trans _ _ _ reached reading.reaches)
          have notDraft : ¬ Draft batch copy.id := by
            intro review
            apply submitted
            rw [((draft_of_row listed).mp review).2]
            rfl
          exact absurd ((draft_of_row found).mpr ⟨maintenance, review⟩)
            (drifted.2 copy.id batchRow listed type notDraft)

end Writes

/-- In every interleaving in which no PATCH takes an event back to review, every
draft that leaves review does so by a PATCH of it.  So no round of a checker
commits a change to a draft. -/
theorem pool_drafts {ι : Type} [DecidableEq ι] {deployment : Deployment}
    {activities : ι → Activity} {store final : Store} {trace : List (ι × DbEvent)}
    (pool : Pool deployment activities store trace final)
    (submits : ∀ entry ∈ trace, KeepsSubmitted entry.2) :
    ∀ entry ∈ trace, ∀ id, Draft entry.2.before id → ¬ Draft entry.2.after id →
      ∃ caller data, activities entry.1 = .patch caller id data := by
  have steps := (pool_guarantees pool (fun _ => Or.inr rfl) submitting (fun _ => KeepsSubmitted)
    (fun party => AdvancedByPatch (activities party))
    (fun party => unaffected_of_quiet (fun event _ same => advancedByPatch_of_sameEvents same))
    (fun party _ statement choice value current next issued commits evolves _ assumed =>
      have held := issued_submitted issued commits assumed
      ⟨⟨evolves, held.1⟩, held.2⟩) trivial submits).1
  exact fun entry member => (steps entry member).1

/-! ## A draft that is advanced -/

/-- A planned maintenance that was reviewed once more. -/
def reviewedMaintenance : Store :=
  (replay quietDeployment
    [(.post .events anAdmin (maintenanceRequest 100 200), atTime 20),
      (.patch anAdmin 1 (statusPatch .reviewed 25 (some 2)), atTime 25)] (bareStore 1)).2

/-- A round of the checker, at the same time as a PATCH. -/
def checkAndPatch : Bool → Activity
  | true => .checkMaintenance
  | false => .patch anAdmin 1 (statusPatch .pendingReview 35 (some 3))

/-- The checker loads its batch, then the PATCH runs, then the checker goes on. -/
def patchedBehind : List (Bool × DbEvent) × Store :=
  schedule database (fun party => (checkAndPatch party).program quietDeployment)
    (List.replicate 2 (true, atTime 30) ++ List.replicate 20 (false, atTime 40) ++
      List.replicate 10 (true, atTime 50)) reviewedMaintenance

/-- The PATCH takes the maintenance back to review, and the checker plans it. -/
theorem pool_drafts_fails :
    ¬ ∀ (deployment : Deployment) (activities : Bool → Activity) (store final : Store)
      (trace : List (Bool × DbEvent)), Pool deployment activities store trace final →
      ∀ entry ∈ trace, activities entry.1 = .checkMaintenance →
        ∀ id, Draft entry.2.before id → Draft entry.2.after id := by
  intro claimed
  have advanced : ∃ entry ∈ patchedBehind.1, entry.1 = true ∧ Draft entry.2.before 1 ∧
      ¬ Draft entry.2.after 1 := by decide +kernel
  have pool : Pool quietDeployment checkAndPatch reviewedMaintenance patchedBehind.1
      patchedBehind.2 := schedule_interleaving database _ _ _
  rcases advanced with ⟨entry, member, checks, draft, left⟩
  exact left (claimed _ _ _ _ _ pool entry member (by rw [checks]; rfl) 1 draft)

/-- A draft, and a round of the checker beside a PATCH that keeps it in review and
one that takes it out. -/
def checkAndReview : Nat → Activity
  | 0 => .post .events { anAdmin with role := .creator } (maintenanceRequest 100 200)
  | 1 => .patch anAdmin 1 (statusPatch .pendingReview 35 (some 2))
  | 2 => .patch anAdmin 1 (statusPatch .reviewed 45 (some 3))
  | _ => .checkMaintenance

/-- The checker loads its batch before the first PATCH and goes on after it. -/
def reviewedBeside : List (Nat × DbEvent) × Store :=
  schedule database (fun party => (checkAndReview party).program quietDeployment)
    (List.replicate 20 (0, atTime 20) ++ List.replicate 2 (3, atTime 30) ++
      List.replicate 20 (1, atTime 40) ++ List.replicate 10 (3, atTime 45) ++
      List.replicate 20 (2, atTime 50)) (bareStore 1)

theorem pool_drafts_reviewed :
    (∃ entry ∈ reviewedBeside.1, entry.1 = 1 ∧ (modification entry.2).isSome = true ∧
      Draft entry.2.before 1 ∧ Draft entry.2.after 1) ∧
    (∃ entry ∈ reviewedBeside.1, entry.1 = 2 ∧ Draft entry.2.before 1 ∧ ¬ Draft entry.2.after 1) ∧
    (∃ entry ∈ reviewedBeside.1, entry.1 = 3) ∧
    ∀ entry ∈ reviewedBeside.1, ∀ id, Draft entry.2.before id → ¬ Draft entry.2.after id →
      ∃ caller data, checkAndReview entry.1 = .patch caller id data := by
  refine ⟨by decide +kernel, by decide +kernel, by decide +kernel, ?_⟩
  exact pool_drafts (schedule_interleaving database
    (fun party => (checkAndReview party).program quietDeployment) _ (bareStore 1))
    (by decide +kernel)

end StatusDashboard.Properties
