import StatusDashboard.Process.Program

namespace StatusDashboard.Process

/-!
# Runs taken apart

What a run of a composed program says about the runs of its parts.  A run of a
sequence either fails in its first part or is a run of the first part followed
by one of the second; a run that starts with an operation is that operation
followed by the rest.  `Program.follow` computes a run in which the environment
changes its mind, as it does when the store is lost halfway.
-/

universe u

variable {F : Type → Type u} {ε ε' α γ χ σ : Type} {machine : Machine F χ σ}
  {state final : σ} {events : List (Event F σ)}

/-! ## Runs -/

theorem Run.done_cases {value : α} {outcome : Except ε α}
    (run : Run machine (.done value) state events outcome final) :
    events = [] ∧ outcome = .ok value ∧ final = state := by
  rcases run with ⟨walk, chained⟩
  generalize ends : (Program.finished outcome : Program F ε α) = last at walk
  cases walk with
  | rest =>
    cases outcome with
    | ok =>
      cases ends
      exact ⟨rfl, rfl, chained.symm⟩
    | error => cases ends

theorem Run.fail_cases {error : ε} {outcome : Except ε α}
    (run : Run machine (.fail error) state events outcome final) :
    events = [] ∧ outcome = .error error ∧ final = state := by
  rcases run with ⟨walk, chained⟩
  generalize ends : (Program.finished outcome : Program F ε α) = last at walk
  cases walk with
  | rest =>
    cases outcome with
    | ok => cases ends
    | error =>
      cases ends
      exact ⟨rfl, rfl, chained.symm⟩

theorem Run.perform_cases {β : Type} {operation : F β} {next : β → Program F ε α}
    {outcome : Except ε α}
    (run : Run machine (.perform operation next) state events outcome final) :
    ∃ choice later, events = machine.event choice operation state :: later ∧
      Run machine (next (machine.perform choice operation state).1)
        (machine.perform choice operation state).2 later outcome final := by
  rcases run with ⟨walk, chained⟩
  generalize ends : (Program.finished outcome : Program F ε α) = last at walk
  cases walk with
  | rest => cases outcome <;> cases ends
  | step choice other tail =>
    rcases chained with ⟨start, rest⟩
    cases start
    subst ends
    exact ⟨choice, _, rfl, tail, rest⟩

/-- A run of a sequence fails in the first part, or passes it. -/
theorem Run.bind_cases {program : Program F ε α} {rest : α → Program F ε γ}
    {outcome : Except ε γ} (run : Run machine (program >>= rest) state events outcome final) :
    (∃ error, outcome = .error error ∧ Run machine program state events (.error error) final) ∨
      ∃ value first second middle, events = first ++ second ∧
        Run machine program state first (.ok value) middle ∧
        Run machine (rest value) middle second outcome final := by
  induction program generalizing state events with
  | done value => exact Or.inr ⟨value, [], events, state, rfl, ⟨.rest _, rfl⟩, run⟩
  | fail error =>
    rcases Run.fail_cases run with ⟨rfl, rfl, rfl⟩
    exact Or.inl ⟨error, rfl, .rest _, rfl⟩
  | perform operation next ih =>
    rcases Run.perform_cases run with ⟨choice, later, rfl, remaining⟩
    rcases ih _ remaining with ⟨error, failed, walk, chained⟩ |
      ⟨value, first, second, middle, rfl, ⟨walk, chained⟩, passed⟩
    · exact Or.inl ⟨error, failed, .step choice state walk, rfl, chained⟩
    · exact Or.inr ⟨value, _ :: first, second, middle, rfl,
        ⟨.step choice state walk, rfl, chained⟩, passed⟩

/-- A failing run of the first part is a run of the sequence. -/
theorem Run.bind_error {program : Program F ε α} (rest : α → Program F ε γ) {error : ε}
    (run : Run machine program state events (.error error) final) :
    Run machine (program >>= rest) state events (.error error) final := by
  induction program generalizing state events with
  | done =>
    rcases Run.done_cases run with ⟨_, impossible, _⟩
    cases impossible
  | fail =>
    rcases Run.fail_cases run with ⟨rfl, same, rfl⟩
    cases same
    exact ⟨.rest _, rfl⟩
  | perform operation next ih =>
    rcases Run.perform_cases run with ⟨choice, later, rfl, remaining⟩
    rcases ih _ remaining with ⟨walk, chained⟩
    exact ⟨.step choice state walk, rfl, chained⟩

/-- A run of the first part is continued by a run of what follows it. -/
theorem Run.bind_ok {program : Program F ε α} {rest : α → Program F ε γ} {value : α} {middle : σ}
    {later : List (Event F σ)} {outcome : Except ε γ}
    (first : Run machine program state events (.ok value) middle)
    (second : Run machine (rest value) middle later outcome final) :
    Run machine (program >>= rest) state (events ++ later) outcome final := by
  induction program generalizing state events with
  | done =>
    rcases Run.done_cases first with ⟨rfl, same, rfl⟩
    cases same
    exact second
  | fail =>
    rcases Run.fail_cases first with ⟨_, impossible, _⟩
    cases impossible
  | perform operation next ih =>
    rcases Run.perform_cases first with ⟨choice, others, rfl, remaining⟩
    rcases ih _ remaining with ⟨walk, chained⟩
    exact ⟨.step choice state walk, rfl, chained⟩

/-- Renaming the error of a program renames the error of its runs. -/
theorem Run.mapError_cases {rename : ε → ε'} {program : Program F ε α} {outcome : Except ε' α}
    (run : Run machine (program.mapError rename) state events outcome final) :
    ∃ inner, outcome = inner.mapError rename ∧ Run machine program state events inner final := by
  induction program generalizing state events with
  | done value =>
    rcases Run.done_cases run with ⟨rfl, rfl, rfl⟩
    exact ⟨.ok value, rfl, .rest _, rfl⟩
  | fail error =>
    rcases Run.fail_cases run with ⟨rfl, rfl, rfl⟩
    exact ⟨.error error, rfl, .rest _, rfl⟩
  | perform operation next ih =>
    rcases Run.perform_cases run with ⟨choice, later, rfl, remaining⟩
    rcases ih _ remaining with ⟨inner, renamed, walk, chained⟩
    exact ⟨inner, renamed, .step choice state walk, rfl, chained⟩

/-- A relation that all events respect leads from what one of them leaves to the
end. -/
theorem Chained.onward {relation : σ → σ → Prop} (reflexive : ∀ state, relation state state)
    (transitive : ∀ first second third,
      relation first second → relation second third → relation first third)
    (chained : Chained state events final)
    (respects : ∀ event ∈ events, relation event.before event.after)
    {event : Event F σ} (member : event ∈ events) : relation event.after final := by
  rcases List.append_of_mem member with ⟨earlier, later, split⟩
  subst split
  rcases chained_append.mp chained with ⟨middle, _, _, rest⟩
  exact rest.relates reflexive transitive (fun other listed =>
    respects other (List.mem_append_right earlier (List.mem_cons_of_mem event listed)))

/-- Sequences of programs associate. -/
theorem Program.bind_assoc {δ : Type} (program : Program F ε α) (rest : α → Program F ε γ)
    (last : γ → Program F ε δ) :
    (program >>= rest) >>= last = program >>= fun value => rest value >>= last := by
  induction program with
  | done | fail => rfl
  | perform operation next ih =>
    exact congrArg (Program.perform operation) (funext ih)

/-! ## Computing a run -/

/-- Run a program under listed choices of the environment, one for each
operation, and under one choice from then on. -/
def Program.follow (machine : Machine F χ σ) (later : χ) :
    List χ → Program F ε α → σ → List (Event F σ) × Except ε α × σ
  | _, .done value, state => ([], .ok value, state)
  | _, .fail error, state => ([], .error error, state)
  | choices, .perform operation next, state =>
    let choice := choices.headD later
    let outcome := machine.perform choice operation state
    let rest := (next outcome.1).follow machine later choices.tail outcome.2
    (machine.event choice operation state :: rest.1, rest.2)

theorem Program.follow_run (machine : Machine F χ σ) (later : χ) (choices : List χ)
    (program : Program F ε α) (state : σ) :
    Run machine program state (program.follow machine later choices state).1
      (program.follow machine later choices state).2.1
      (program.follow machine later choices state).2.2 := by
  induction program generalizing choices state with
  | done | fail => exact ⟨.rest _, rfl⟩
  | perform operation next ih =>
    rcases ih _ choices.tail (machine.perform (choices.headD later) operation state).2 with
      ⟨walk, chained⟩
    exact ⟨.step (choices.headD later) state walk, rfl, chained⟩

end StatusDashboard.Process
