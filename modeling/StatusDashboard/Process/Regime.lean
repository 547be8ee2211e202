import StatusDashboard.Process.Interleaving

namespace StatusDashboard.Process

/-!
# Verification under a regime

A regime fixes what a program may count on and what it owes: how the others
move the store, what each event may be assumed to satisfy and has to satisfy,
and a property `always` of every store that neither the others nor an event as
owed destroys.  Under a regime a program `Yields` a postcondition when each of
its events is as owed, every store it leaves is as `always` says, and a
returned value meets the postcondition.  An early exit owes nothing more, so the rules below need no
case for failures.
-/

universe u

variable {F : Type → Type u} {ε ε' α β γ χ σ : Type}

structure Regime (machine : Machine F χ σ) where
  rely : σ → σ → Prop
  assume : Event F σ → Prop
  guarantee : Event F σ → Prop
  always : σ → Prop
  preorder : IsPreorder σ rely
  keeps : ∀ {state later : σ}, rely state later → always state → always later
  steps : ∀ {β : Type} (choice : χ) (operation : F β) (state : σ), always state →
    assume (machine.event choice operation state) →
    guarantee (machine.event choice operation state) →
    always (machine.perform choice operation state).2

namespace Regime

variable {machine : Machine F χ σ} (regime : Regime machine)

instance : IsPreorder σ regime.rely := regime.preorder

def Yields (post : α → σ → Prop) (program : Program F ε α) (state : σ) : Prop :=
  regime.always state →
    Ensures machine regime.rely regime.assume regime.guarantee
      (fun outcome final => regime.always final ∧
        ∀ value, outcome = .ok value → post value final) program state

variable {regime} {post : α → σ → Prop} {state : σ}

variable {program : Program F ε α}

theorem yields_done {value : α}
    (holds : ∀ later, regime.rely state later → regime.always later → post value later) :
    regime.Yields post (.done value : Program F ε α) state := by
  intro start later related
  have reached := regime.keeps related start
  refine ⟨reached, ?_⟩
  intro returned equal
  cases equal
  exact holds later related reached

theorem yields_pure {value : α}
    (holds : ∀ later, regime.rely state later → regime.always later → post value later) :
    regime.Yields post (pure value : Program F ε α) state :=
  yields_done holds

theorem yields_value (value : α) :
    regime.Yields (fun _ _ => True) (pure value : Program F ε α) state :=
  yields_pure (fun _ _ _ => trivial)

theorem yields_fail (error : ε) : regime.Yields post (.fail error) state := by
  intro start later related
  refine ⟨regime.keeps related start, ?_⟩
  intro value equal
  cases equal

/-- A check that exits early establishes what it checks. -/
theorem yields_unless (condition : Prop) [Decidable condition] (error : ε) :
    regime.Yields (fun _ _ => ¬ condition)
      (if condition then .fail error else pure () : Program F ε Unit) state := by
  split_ifs with failed
  · exact yields_fail error
  · exact yields_pure (fun _ _ _ => failed)

theorem yields_perform {operation : F β} {next : β → Program F ε α}
    (promised : ∀ later choice, regime.rely state later → regime.always later →
      regime.assume (machine.event choice operation later) →
      regime.guarantee (machine.event choice operation later))
    (continues : ∀ later choice, regime.rely state later → regime.always later →
      regime.assume (machine.event choice operation later) →
      regime.guarantee (machine.event choice operation later) →
      regime.Yields post (next (machine.perform choice operation later).1)
        (machine.perform choice operation later).2) :
    regime.Yields post (.perform operation next) state := by
  intro start later related choice assumed
  have reached := regime.keeps related start
  have guaranteed := promised later choice related reached assumed
  refine ⟨guaranteed, ?_⟩
  apply continues later choice related reached assumed guaranteed
  exact regime.steps choice operation later reached assumed guaranteed

theorem Yields.mono {weaker : α → σ → Prop} (yields : regime.Yields post program state)
    (implies : ∀ value later, regime.always later → post value later → weaker value later) :
    regime.Yields weaker program state := by
  intro start
  apply (yields start).mono
  intro outcome final held
  refine ⟨held.1, ?_⟩
  intro value equal
  exact implies value final held.1 (held.2 value equal)

theorem Yields.and {other : α → σ → Prop} (first : regime.Yields post program state)
    (second : regime.Yields other program state) :
    regime.Yields (fun value later => post value later ∧ other value later) program state := by
  intro start
  apply ((first start).and (second start)).mono
  intro outcome final held
  refine ⟨held.1.1, ?_⟩
  intro value equal
  exact ⟨held.1.2 value equal, held.2.2 value equal⟩

theorem Yields.bind {middle : α → σ → Prop} {post : γ → σ → Prop} {rest : α → Program F ε γ}
    (first : regime.Yields middle program state)
    (second : ∀ value later, regime.always later → middle value later →
      regime.Yields post (rest value) later) :
    regime.Yields post (program >>= rest) state := by
  intro start
  apply (first start).bind
  · intro value later held
    exact second value later held.1 (held.2 value rfl) held.1
  · intro error later held
    refine ⟨held.1, ?_⟩
    intro value equal
    cases equal

/-- Of the answer made from the value of a program nothing is asked. -/
theorem Yields.answer {middle : α → σ → Prop} {answer : α → γ}
    (first : regime.Yields middle program state) :
    regime.Yields (fun _ _ => True) (program >>= fun value => pure (answer value)) state :=
  first.bind (fun value _ _ _ => yields_value (answer value))

theorem Yields.mapError {rename : ε → ε'} (yields : regime.Yields post program state) :
    regime.Yields post (program.mapError rename) state := by
  intro start
  rw [ensures_mapError]
  apply (yields start).mono
  intro outcome final held
  refine ⟨held.1, ?_⟩
  intro value equal
  cases outcome with
  | error => cases equal
  | ok =>
    cases equal
    exact held.2 value rfl

section Drift

variable {relation : σ → σ → Prop} [IsPreorder σ relation]

/-- Whatever a program does, it moves the store along any relation that the
others and the owed events respect. -/
private theorem ensures_drift
    (within : ∀ {first second : σ}, regime.rely first second → relation first second)
    (drifts : ∀ {β : Type} (choice : χ) (operation : F β) (store : σ), regime.always store →
      regime.assume (machine.event choice operation store) →
      regime.guarantee (machine.event choice operation store) →
      relation store (machine.perform choice operation store).2) {post : Except ε α → σ → Prop}
    (start : regime.always state)
    (ensures : Ensures machine regime.rely regime.assume regime.guarantee post program state) :
    Ensures machine regime.rely regime.assume regime.guarantee
      (fun outcome final => post outcome final ∧ relation state final) program state := by
  induction program generalizing state with
  | done | fail =>
    intro later related
    exact ⟨ensures later related, within related⟩
  | perform operation next ih =>
    intro later related choice assumed
    rcases ensures later related choice assumed with ⟨guaranteed, rest⟩
    have reached := regime.keeps related start
    have moved := drifts choice operation later reached assumed guaranteed
    refine ⟨guaranteed, ?_⟩
    apply (ih _ (regime.steps choice operation later reached assumed guaranteed) rest).mono
    intro outcome final held
    exact ⟨held.1, trans_of relation (within related) (trans_of relation moved held.2)⟩

/-- A caught failure has drifted like any other outcome. -/
theorem Yields.attempt
    (within : ∀ {first second : σ}, regime.rely first second → relation first second)
    (drifts : ∀ {β : Type} (choice : χ) (operation : F β) (store : σ), regime.always store →
      regime.assume (machine.event choice operation store) →
      regime.guarantee (machine.event choice operation store) →
      relation store (machine.perform choice operation store).2)
    (yields : regime.Yields post program state) :
    regime.Yields (fun outcome later => relation state later ∧
        ∀ value, outcome = .ok value → post value later)
      (program.attempt : Program F ε' (Except ε α)) state := by
  intro start
  rw [ensures_attempt]
  apply (ensures_drift within drifts start (yields start)).mono
  intro outcome final held
  refine ⟨held.1.1, ?_⟩
  intro returned equal
  cases equal
  exact ⟨held.2, held.1.2⟩

end Drift

/-- What a yielding program does when it is run alone. -/
theorem Yields.run {events : List (Event F σ)} {outcome : Except ε α} {final : σ}
    (yields : regime.Yields post program state) (start : regime.always state)
    (run : Run machine program state events outcome final)
    (assumed : ∀ event ∈ events, regime.assume event) :
    (∀ event ∈ events, regime.guarantee event) ∧ regime.always final :=
  have held := (yields start).run run assumed
  ⟨held.1, held.2.1⟩

end Regime

end StatusDashboard.Process
