import StatusDashboard.Process.Interleaving

namespace StatusDashboard.Process

/-!
# Monitors

A monitor watches the events of one program and keeps a memory of them.  A
program obeys it when each event is allowed by what is remembered at that
moment and the outcome fits what is remembered in the end.  This is about the
order of operations inside one program: nothing is assumed about the stores in
which they are performed, so it holds whatever other parties do in between.

`Program.Only` is the special case without memory: a program all of whose
operations are of one kind.
-/

universe u

variable {F : Type → Type u} {ε ε' α γ χ σ μ : Type}

/-! ## Operations of one kind -/

def Program.Only (kind : {β : Type} → F β → Prop) : Program F ε α → Prop
  | .done _ => True
  | .fail _ => True
  | .perform operation next => kind operation ∧ ∀ result, (next result).Only kind

section Only

variable {kind : {β : Type} → F β → Prop}

variable {program : Program F ε α}

theorem Program.only_bind {rest : α → Program F ε γ} (first : program.Only kind)
    (second : ∀ value, (rest value).Only kind) :
    (program >>= rest).Only kind := by
  induction program with
  | done value => exact second value
  | fail => exact trivial
  | perform operation next ih => exact ⟨first.1, fun result => ih result (first.2 result)⟩

theorem Program.only_mapError {rename : ε → ε'} (only : program.Only kind) :
    (program.mapError rename).Only kind := by
  induction program with
  | done | fail => exact trivial
  | perform operation next ih => exact ⟨only.1, fun result => ih result (only.2 result)⟩

theorem Program.only_callExcept {operation : F (Except ε β)} (of : kind operation) :
    (Program.callExcept operation).Only kind := by
  refine ⟨of, ?_⟩
  intro result
  cases result <;> exact trivial

/-- A program whose operations all meet the guarantee ensures it, whatever the
others do. -/
theorem Program.Only.ensures {machine : Machine F χ σ} {rely : σ → σ → Prop}
    {assume guarantee : Event F σ → Prop} (only : program.Only kind)
    (owed : ∀ {β : Type} (choice : χ) (operation : F β) (state : σ), kind operation →
      guarantee (machine.event choice operation state)) (state : σ) :
    Ensures machine rely assume guarantee (fun _ _ => True) program state := by
  induction program generalizing state with
  | done | fail => exact fun _ _ => trivial
  | perform operation next ih =>
    intro later _ choice _
    exact ⟨owed choice operation later only.1, ih _ (only.2 _) _⟩

end Only

/-! ## Errors that do not occur -/

/-- No outcome of the program is the given error, whatever the stores are. -/
def Program.Avoids (machine : Machine F χ σ) (error : ε) : Program F ε α → Prop
  | .done _ => True
  | .fail other => other ≠ error
  | .perform operation next =>
    ∀ choice state, (next (machine.perform choice operation state).1).Avoids machine error

section Avoids

variable {machine : Machine F χ σ} {error : ε}

variable {program : Program F ε α}

theorem Program.avoids_bind {rest : α → Program F ε γ} (first : program.Avoids machine error)
    (second : ∀ value, (rest value).Avoids machine error) :
    (program >>= rest).Avoids machine error := by
  induction program with
  | done value => exact second value
  | fail => exact first
  | perform operation next ih => exact fun choice state => ih _ (first choice state)

theorem Program.avoids_mapError {renamed : ε'} {rename : ε → ε'}
    (first : program.Avoids machine error) (only : ∀ other, rename other = renamed → other = error) :
    (program.mapError rename).Avoids machine renamed := by
  induction program with
  | done => exact trivial
  | fail other => exact fun same => first (only other same)
  | perform operation next ih => exact fun choice state => ih _ (first choice state)

theorem Program.avoids_callExcept {β : Type} {operation : F (Except ε β)}
    (answers : ∀ choice state, (machine.perform choice operation state).1 ≠ .error error) :
    (Program.callExcept operation).Avoids machine error := by
  intro choice state
  have answered := answers choice state
  cases result : (machine.perform choice operation state).1 with
  | ok => trivial
  | error =>
    rw [result] at answered
    exact fun same => answered (congrArg Except.error same)

theorem Program.Avoids.run {events : List (Event F σ)} {outcome : Except ε α} {state final : σ}
    (avoids : program.Avoids machine error) (run : Run machine program state events outcome final) :
    outcome ≠ .error error := by
  have walk := run.1
  clear run
  generalize shape : Program.finished outcome = last at walk
  induction walk with
  | rest =>
    rintro rfl
    rw [← shape] at avoids
    exact avoids rfl
  | step choice state tail ih => exact ih (avoids choice state) shape

theorem Program.Avoids.ensures (avoids : program.Avoids machine error) (rely : σ → σ → Prop)
    (assume : Event F σ → Prop) (state : σ) :
    Ensures machine rely assume (fun _ => True) (fun outcome _ => outcome ≠ .error error) program
      state := by
  induction program generalizing state with
  | done => exact fun _ _ => nofun
  | fail => exact fun _ _ same => avoids (Except.error.inj same)
  | perform operation next ih =>
    intro later _ choice _
    exact ⟨trivial, ih _ (avoids choice later) _⟩

end Avoids

/-! ## Programs that end well -/

/-- The program returns a value as long as its operations are answered. -/
def Program.Delivers (answered : {β : Type} → F β → β → Prop) : Program F ε α → Prop
  | .done _ => True
  | .fail _ => False
  | .perform operation next =>
    ∀ result, answered operation result → (next result).Delivers answered

section Delivers

variable {answered : {β : Type} → F β → β → Prop}

theorem Program.delivers_bind {program : Program F ε α} {rest : α → Program F ε γ}
    (first : program.Delivers answered) (second : ∀ value, (rest value).Delivers answered) :
    (program >>= rest).Delivers answered := by
  induction program with
  | done value => exact second value
  | fail => exact first.elim
  | perform operation next ih => exact fun result fine => ih result (first result fine)

theorem Program.delivers_callExcept {operation : F (Except ε β)}
    (refused : ∀ error, ¬ answered operation (.error error)) :
    (Program.callExcept operation).Delivers answered := by
  intro result fine
  cases result with
  | ok => trivial
  | error error => exact absurd fine (refused error)

theorem Program.Delivers.ensures {machine : Machine F χ σ} {program : Program F ε α}
    (delivers : program.Delivers answered) (rely : σ → σ → Prop) {assume : Event F σ → Prop}
    (implies : ∀ event, assume event → answered event.operation event.result) (state : σ) :
    Ensures machine rely assume (fun _ => True) (fun outcome _ => ∃ value, outcome = .ok value)
      program state := by
  induction program generalizing state with
  | done value => exact fun _ _ => ⟨value, rfl⟩
  | fail => exact delivers.elim
  | perform operation next ih =>
    intro later _ choice assumed
    exact ⟨trivial, ih _ (delivers _ (implies _ assumed)) _⟩

end Delivers

/-! ## Monitored programs -/

structure Monitor (F : Type → Type u) (σ μ : Type) where
  allowed : μ → Event F σ → Prop
  advance : μ → Event F σ → μ

namespace Monitor

variable (monitor : Monitor F σ μ) (machine : Machine F χ σ)

/-- What is remembered after a list of events. -/
def memory (start : μ) (events : List (Event F σ)) : μ :=
  events.foldl monitor.advance start

def Obeys (post : μ → Except ε α → Prop) : Program F ε α → μ → Prop
  | .done value, memory => post memory (.ok value)
  | .fail error, memory => post memory (.error error)
  | .perform operation next, memory => ∀ choice state,
      monitor.allowed memory (machine.event choice operation state) ∧
        Obeys post (next (machine.perform choice operation state).1)
          (monitor.advance memory (machine.event choice operation state))

variable {monitor machine} {post : μ → Except ε α → Prop}

variable {program : Program F ε α} {start : μ}

theorem Obeys.mono {weaker : μ → Except ε α → Prop}
    (obeys : monitor.Obeys machine post program start)
    (implies : ∀ memory outcome, post memory outcome → weaker memory outcome) :
    monitor.Obeys machine weaker program start := by
  induction program generalizing start with
  | done | fail => exact implies _ _ obeys
  | perform operation next ih =>
    intro choice state
    exact ⟨(obeys choice state).1, ih _ (obeys choice state).2⟩

theorem Obeys.bind {post : μ → Except ε γ → Prop} {middle : μ → Except ε α → Prop}
    {rest : α → Program F ε γ} (first : monitor.Obeys machine middle program start)
    (second : ∀ memory value, middle memory (.ok value) →
      monitor.Obeys machine post (rest value) memory)
    (failed : ∀ memory error, middle memory (.error error) → post memory (.error error)) :
    monitor.Obeys machine post (program >>= rest) start := by
  induction program generalizing start with
  | done value => exact second start value first
  | fail error => exact failed start error first
  | perform operation next ih =>
    intro choice state
    exact ⟨(first choice state).1, ih _ (first choice state).2⟩

theorem Obeys.mapError {rename : ε → ε'} {post : μ → Except ε' α → Prop}
    (obeys : monitor.Obeys machine (fun memory outcome => post memory (outcome.mapError rename))
      program start) :
    monitor.Obeys machine post (program.mapError rename) start := by
  induction program generalizing start with
  | done | fail => exact obeys
  | perform operation next ih =>
    intro choice state
    exact ⟨(obeys choice state).1, ih _ (obeys choice state).2⟩

/-- Operations that the monitor ignores leave its memory alone. -/
theorem obeys_of_only {kind : {β : Type} → F β → Prop} (only : program.Only kind)
    (ignored : ∀ {β : Type} (choice : χ) (operation : F β) (state : σ), kind operation →
      monitor.allowed start (machine.event choice operation state) ∧
        monitor.advance start (machine.event choice operation state) = start) :
    monitor.Obeys machine (fun memory _ => memory = start) program start := by
  induction program with
  | done | fail => rfl
  | perform operation next ih =>
    intro choice state
    rcases ignored choice operation state only.1 with ⟨allowed, same⟩
    refine ⟨allowed, ?_⟩
    rw [same]
    exact ih _ (only.2 _)

/-- Along a walk of an obedient program every event is allowed by the memory of
the events before it, and what is left to do obeys with the memory of them all. -/
theorem Obeys.walk {last : Program F ε α} {events : List (Event F σ)}
    (obeys : monitor.Obeys machine post program start) (walk : Walk machine program events last) :
    (∀ earlier event later, events = earlier ++ event :: later →
      monitor.allowed (monitor.memory start earlier) event) ∧
      monitor.Obeys machine post last (monitor.memory start events) := by
  induction walk generalizing start with
  | rest =>
    refine ⟨?_, obeys⟩
    intro earlier event later split
    exact absurd split (by simp)
  | step choice state tail ih =>
    rcases obeys choice state with ⟨allowed, rest⟩
    rcases ih rest with ⟨others, ending⟩
    refine ⟨?_, ending⟩
    intro earlier event later split
    cases earlier with
    | nil =>
      cases split
      exact allowed
    | cons first earlier =>
      cases split
      exact others earlier event later rfl

end Monitor

end StatusDashboard.Process
