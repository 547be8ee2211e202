import StatusDashboard.Process.Regime
import StatusDashboard.Storage.Database

namespace StatusDashboard.Storage

open Process

/-!
# Statements under a regime

How one statement of a program is verified while other parties move the store.
A discipline is a regime of the database that asks nothing of operations that
change nothing.  A read is answered in some store the others have reached by
then; a write commits on such a store, or fails and leaves it as it is.
-/

namespace Op

/-- Operations that cannot change the store. -/
def silent : {β : Type} → Op β → Bool
  | _, .now => true
  | _, .read _ => true
  | _, .write _ => false
  | _, .deliver _ => false
  | _, .send _ _ => true
  | _, .backoff _ => true

end Op

theorem perform_silent {β : Type} (choice : Choice) {operation : Op β}
    (silent : operation.silent = true) (store : Store) :
    (database.perform choice operation store).2 = store := by
  cases operation with
  | now | read | send | backoff => rfl
  | write | deliver => cases silent

structure Discipline extends Regime database where
  silent : ∀ {β : Type} (choice : Choice) (operation : Op β) (store : Store),
    operation.silent = true → guarantee (database.event choice operation store)

theorem eq_preorder : IsPreorder Store Eq := inferInstance

namespace Discipline

variable (discipline : Discipline) {α β : Type}

/-- A query that was answered in the store `seen`, on the way from `store` to `later`. -/
structure Answered (query : Query β) (value : β) (store seen later : Store) : Prop where
  reached : discipline.rely store seen
  kept : discipline.always seen
  answer : ∃ choice, discipline.assume (database.event choice (.read query) seen) ∧
    query.eval choice.rank seen = .ok value
  onward : discipline.rely seen later

/-- A transaction that took the store from `before` to `after`, on the way from
`store` to `later`. -/
structure Committed (statement : EventWrite β) (value : β) (store before after later : Store) :
    Prop where
  reached : discipline.rely store before
  kept : discipline.always before
  commits : ∃ choice, statement.exec choice before = .ok (value, after) ∧
    discipline.assume (database.event choice (.write statement) before) ∧
    discipline.guarantee (database.event choice (.write statement) before) ∧
    (database.perform choice (.write statement) before).2 = after
  onward : discipline.rely after later

variable {discipline}

theorem yields_currentTime (discipline : Discipline) (store : Store) :
    discipline.Yields (fun _ later => discipline.rely store later) currentTime store := by
  apply Regime.yields_perform
  · intro later choice _ _ _
    exact discipline.silent choice .now later rfl
  · intro later choice related _ _ _
    apply Regime.yields_done
    intro further onward _
    exact trans_of _ related onward

theorem yields_read (discipline : Discipline) (query : Query β) (store : Store) :
    discipline.Yields (fun value later => ∃ seen, discipline.Answered query value store seen later)
      (read query) store := by
  apply Regime.yields_perform
  · intro later choice _ _ _
    exact discipline.silent choice (.read query) later rfl
  · intro seen choice related kept assumed _
    rw [perform_read]
    cases fault : choice.fault with
    | true =>
      rw [if_pos rfl]
      exact Regime.yields_fail _
    | false =>
      rw [if_neg (by simp)]
      cases answer : query.eval choice.rank seen with
      | error => exact Regime.yields_fail _
      | ok =>
        apply Regime.yields_done
        intro later onward _
        exact ⟨seen, related, kept, ⟨choice, assumed, answer⟩, onward⟩

theorem yields_write (discipline : Discipline) {statement : EventWrite β} {store : Store}
    (promised : ∀ later choice, discipline.rely store later → discipline.always later →
      discipline.assume (database.event choice (.write statement) later) →
      discipline.guarantee (database.event choice (.write statement) later)) :
    discipline.Yields
      (fun value later => ∃ before after,
        discipline.Committed statement value store before after later)
      (write statement) store := by
  apply Regime.yields_perform promised
  intro before choice related kept assumed guaranteed
  rw [perform_write]
  rcases commit_cases choice (statement.exec choice) before with ⟨error, shape⟩ |
    ⟨value, after, commits, shape⟩
  · rw [shape]
    exact Regime.yields_fail _
  · rw [shape]
    apply Regime.yields_done
    intro later onward _
    have performed : (database.perform choice (.write statement) before).2 = after := by
      rw [perform_write, shape]
    exact ⟨before, after, related, kept, ⟨choice, commits, assumed, guaranteed, performed⟩, onward⟩

end Discipline

end StatusDashboard.Storage
