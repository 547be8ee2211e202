import StatusDashboard.Provenance.Issue

namespace StatusDashboard.Provenance

open Event Storage Notification Process Handlers

/-!
# Sound settings

The laws a setting has to satisfy so that an activity can be followed through
all its operations: every write the activity can attempt is as owed, what is
owed moves the store along `across`, and a tracked copy stays tracked, a
current row current, as long as the activity does not rewrite the event.  `Wrote` is what the activity knows after a write
of its own.
-/

namespace Setting

structure Sound (setting : Setting) (deployment : Deployment) (activity : Activity) : Prop where
  acrossPreorder : IsPreorder Store setting.across
  within : ∀ {store later : Store}, setting.rely store later → setting.across store later
  drifts : ∀ {β : Type} (choice : Choice) (operation : Op β) (store : Store),
    setting.always store → setting.assume (database.event choice operation store) →
    setting.guarantee (database.event choice operation store) →
    setting.across store (database.perform choice operation store).2
  promised : ∀ {β : Type} (statement : EventWrite β) (choice : Choice) (store : Store),
    setting.Issued deployment activity store statement → setting.always store →
    setting.assume (database.event choice (.write statement) store) →
    setting.guarantee (database.event choice (.write statement) store)
  delivered : ∀ {β : Type} (statement : OutboxWrite β) (choice : Choice) (store : Store),
    setting.always store → setting.assume (database.event choice (.deliver statement) store) →
    setting.guarantee (database.event choice (.deliver statement) store)
  present : ∀ {copy : Incident} {store : Store}, setting.tracked copy store →
    ∃ row, store.incidents.get? copy.id = some row
  stable : ∀ {copy : Incident} {store later : Store}, setting.rely store later →
    setting.tracked copy store → setting.tracked copy later
  loaded : ∀ {copy : Incident} {row : IncidentRow} {first later : Store}, setting.always first →
    Reading setting.rely linkedComponents copy row first later → setting.tracked copy later
  kept : ∀ {β : Type} {statement : EventWrite β} {choice : Choice} {value : β}
    {store final : Store} {copy : Incident}, setting.Issued deployment activity store statement →
    statement.exec choice store = .ok (value, final) → copy.id ∉ statement.targets →
    setting.tracked copy store → setting.tracked copy final
  written : ∀ {β : Type} {statement : EventWrite β} {choice : Choice} {value : β}
    {store final : Store}, setting.Issued deployment activity store statement →
    statement.exec choice store = .ok (value, final) →
    ∀ copy ∈ statement.returned value, setting.tracked copy final
  seen : ∀ {load : Store → Nat → List Component} {copy : Incident} {row : IncidentRow}
    {first later : Store}, Reading setting.rely load copy row first later →
    setting.current copy.id row later
  steady : ∀ {id : Nat} {row : IncidentRow} {store later : Store}, setting.rely store later →
    setting.current id row store → setting.current id row later
  spared : ∀ {β : Type} {statement : EventWrite β} {choice : Choice} {value : β}
    {store final : Store} {id : Nat} {row : IncidentRow},
    statement.exec choice store = .ok (value, final) → id ∉ statement.targets →
    setting.current id row store → setting.current id row final

variable {setting : Setting} {deployment : Deployment} {activity : Activity} {β : Type}

/-- A write of the activity that committed on the way from `store` to `later`. -/
structure Wrote (setting : Setting) (deployment : Deployment) (activity : Activity)
    (statement : EventWrite β) (choice : Choice) (value : β)
    (store before after later : Store) : Prop where
  reached : setting.rely store before
  issued : setting.Issued deployment activity before statement
  commits : statement.exec choice before = .ok (value, after)
  drift : setting.across before after
  onward : setting.rely after later

namespace Sound

variable (sound : setting.Sound deployment activity)
include sound

variable {statement : EventWrite β} {store before after later : Store} {choice : Choice} {value : β}

theorem across_refl (store : Store) : setting.across store store :=
  sound.acrossPreorder.refl store

theorem across_trans {first second third : Store} (before : setting.across first second)
    (after : setting.across second third) : setting.across first third :=
  sound.acrossPreorder.trans _ _ _ before after

theorem yields_write (issued : ∀ later, setting.rely store later → setting.always later →
      setting.Issued deployment activity later statement) :
    setting.Yields (fun value later => ∃ choice before after,
        setting.Wrote deployment activity statement choice value store before after later)
      (write statement) store := by
  have promised : ∀ later choice, setting.rely store later → setting.always later →
      setting.assume (database.event choice (.write statement) later) →
      setting.guarantee (database.event choice (.write statement) later) := by
    intro later choice related kept assumed
    exact sound.promised statement choice later (issued later related kept) kept assumed
  apply (setting.yields_write promised).mono
  intro value later _ committed
  rcases committed with ⟨before, after, reached, kept,
    ⟨choice, commits, assumed, guaranteed, performed⟩, onward⟩
  have drift := sound.drifts choice (.write statement) before kept assumed guaranteed
  rw [performed] at drift
  exact ⟨choice, before, after, reached, issued before reached kept, commits, drift, onward⟩

theorem wrote_across
    (wrote : setting.Wrote deployment activity statement choice value store before after later) :
    setting.across store later :=
  sound.across_trans (sound.within wrote.reached)
    (sound.across_trans wrote.drift (sound.within wrote.onward))

theorem wrote_kept {copy : Incident}
    (wrote : setting.Wrote deployment activity statement choice value store before after later)
    (untouched : copy.id ∉ statement.targets) (tracked : setting.tracked copy store) :
    setting.tracked copy later :=
  sound.stable wrote.onward (sound.kept wrote.issued wrote.commits untouched
    (sound.stable wrote.reached tracked))

theorem wrote_spared {id : Nat} {row : IncidentRow}
    (wrote : setting.Wrote deployment activity statement choice value store before after later)
    (untouched : id ∉ statement.targets) (current : setting.current id row store) :
    setting.current id row later :=
  sound.steady wrote.onward (sound.spared wrote.commits untouched
    (sound.steady wrote.reached current))

theorem wrote_returned
    (wrote : setting.Wrote deployment activity statement choice value store before after later)
    (copy : Incident) (member : copy ∈ statement.returned value) : setting.tracked copy later :=
  sound.stable wrote.onward (sound.written wrote.issued wrote.commits copy member)

end Sound

end Setting

end StatusDashboard.Provenance
