import Mathlib

namespace StatusDashboard.Process

/-!
# Programs over atomic operations

A server that talks to a shared store is a tree of atomic operations: between
two of them any other party may act.  A `Program` is such a tree.  It names
its operations by a signature `F`, so the same text can be run alone, run
against a failing store, or interleaved with other programs.

What an operation does is given by a `Machine`.  A machine is deterministic
once its surroundings have chosen the values they control (a clock reading,
the order of rows that compare equal, a failure), and those choices are an
explicit argument.  Quantifying over choices therefore quantifies over
everything the environment can do at that operation.

An execution is recorded as a list of `Event`s.  `Walk` says that a list of
events follows one program, `Chained` that the events act on one store one
after another.  A sequential run is a chained walk; an interleaving is a
chained list of events whose restriction to each party is a walk.
-/

universe u

/-- A finite tree of atomic operations with results, an early exit and a
returned value. -/
inductive Program (F : Type → Type u) (ε α : Type) : Type (max 1 u) where
  | done (value : α) : Program F ε α
  | fail (error : ε) : Program F ε α
  | perform {β : Type} (operation : F β) (next : β → Program F ε α) : Program F ε α

variable {F : Type → Type u} {ε ε' α γ χ σ : Type}

namespace Program

protected def bind (program : Program F ε α) (rest : α → Program F ε γ) : Program F ε γ :=
  match program with
  | .done value => rest value
  | .fail error => .fail error
  | .perform operation next => .perform operation (fun result => (next result).bind rest)

instance : Monad (Program F ε) where
  pure := .done
  bind := Program.bind

/-- Perform one operation and return its result. -/
def call {β : Type} (operation : F β) : Program F ε β :=
  .perform operation .done

/-- Perform one operation that reports its own failure. -/
def callExcept {β : Type} (operation : F (Except ε β)) : Program F ε β :=
  .perform operation (fun
    | .ok value => .done value
    | .error error => .fail error)

/-- Run a program to its end and return its outcome instead of failing. -/
def attempt (program : Program F ε α) : Program F ε' (Except ε α) :=
  match program with
  | .done value => .done (.ok value)
  | .fail error => .done (.error error)
  | .perform operation next => .perform operation (fun result => (next result).attempt)

/-- Rename the error of a program. -/
def mapError (rename : ε → ε') (program : Program F ε α) : Program F ε' α :=
  match program with
  | .done value => .done value
  | .fail error => .fail (rename error)
  | .perform operation next =>
    .perform operation (fun result => (next result).mapError rename)

/-- A program with nothing left to do but report its outcome. -/
def finished : Except ε α → Program F ε α
  | .ok value => .done value
  | .error error => .fail error

@[simp] theorem pure_eq_done (value : α) :
    (pure value : Program F ε α) = .done value := rfl

@[simp] theorem done_bind (value : α) (rest : α → Program F ε γ) :
    (Program.done value >>= rest) = rest value := rfl

end Program

variable {state final : σ}

/-- The meaning of the operations, given what the environment chooses. -/
structure Machine (F : Type → Type u) (χ σ : Type) where
  perform : {β : Type} → χ → F β → σ → β × σ

/-- One executed operation: what it returned, and the store around it. -/
structure Event (F : Type → Type u) (σ : Type) where
  {β : Type}
  operation : F β
  result : β
  before : σ
  after : σ

/-- The event of performing an operation under a choice of the environment. -/
def Machine.event (machine : Machine F χ σ) (choice : χ) {β : Type}
    (operation : F β) (state : σ) : Event F σ where
  operation := operation
  result := (machine.perform choice operation state).1
  before := state
  after := (machine.perform choice operation state).2

/-- A list of events that one program produces, and what it has left to do.
The stores of consecutive events need not be related: other parties may act
in between. -/
inductive Walk (machine : Machine F χ σ) :
    Program F ε α → List (Event F σ) → Program F ε α → Prop where
  | rest (program : Program F ε α) : Walk machine program [] program
  | step {β : Type} {operation : F β} {next : β → Program F ε α}
      {events : List (Event F σ)} {last : Program F ε α}
      (choice : χ) (state : σ)
      (tail : Walk machine (next (machine.perform choice operation state).1) events last) :
      Walk machine (.perform operation next)
        (machine.event choice operation state :: events) last

/-- Each event starts in the store the previous one left. -/
def Chained : σ → List (Event F σ) → σ → Prop
  | state, [], final => state = final
  | state, event :: events, final =>
    event.before = state ∧ Chained event.after events final

/-- A program run from start to finish with nobody else acting on the store. -/
def Run (machine : Machine F χ σ) (program : Program F ε α) (state : σ)
    (events : List (Event F σ)) (outcome : Except ε α) (final : σ) : Prop :=
  Walk machine program events (.finished outcome) ∧ Chained state events final

/-! ## Walks -/

theorem walk_append {machine : Machine F χ σ} {program last : Program F ε α}
    {first second : List (Event F σ)} :
    Walk machine program (first ++ second) last ↔
      ∃ middle, Walk machine program first middle ∧ Walk machine middle second last := by
  induction first generalizing program with
  | nil =>
    constructor
    · intro walk
      exact ⟨program, .rest program, walk⟩
    · rintro ⟨middle, before, after⟩
      cases before
      exact after
  | cons event events ih =>
    constructor
    · intro walk
      cases walk with
      | step choice state tail =>
        rcases ih.mp tail with ⟨middle, before, after⟩
        exact ⟨middle, .step choice state before, after⟩
    · rintro ⟨middle, before, after⟩
      cases before with
      | step choice state tail =>
        exact .step choice state (ih.mpr ⟨middle, tail, after⟩)

/-! ## Chained events -/

theorem chained_append {first second : List (Event F σ)} :
    Chained state (first ++ second) final ↔
      ∃ middle, Chained state first middle ∧ Chained middle second final := by
  induction first generalizing state with
  | nil =>
    constructor
    · intro chained
      exact ⟨state, rfl, chained⟩
    · rintro ⟨middle, equal, chained⟩
      cases equal
      exact chained
  | cons event events ih =>
    simp only [List.cons_append, Chained, ih]
    constructor
    · rintro ⟨start, middle, before, after⟩
      exact ⟨middle, ⟨start, before⟩, after⟩
    · rintro ⟨middle, ⟨start, before⟩, after⟩
      exact ⟨start, middle, before, after⟩

/-- A reflexive and transitive relation that every event respects relates the
two ends of a chained list of events. -/
theorem Chained.relates {relation : σ → σ → Prop} (reflexive : ∀ state, relation state state)
    (transitive : ∀ first second third,
      relation first second → relation second third → relation first third)
    {events : List (Event F σ)} (chained : Chained state events final)
    (respects : ∀ event ∈ events, relation event.before event.after) :
    relation state final := by
  induction events generalizing state with
  | nil =>
    cases chained
    exact reflexive _
  | cons event events ih =>
    rcases chained with ⟨start, rest⟩
    subst start
    have first := respects event List.mem_cons_self
    have others := ih rest (fun other member =>
      respects other (List.mem_cons_of_mem event member))
    exact transitive _ _ _ first others

/-- Such a relation also leads from what an event leaves to what every later
event finds. -/
theorem Chained.pairwise {relation : σ → σ → Prop} (reflexive : ∀ state, relation state state)
    (transitive : ∀ first second third,
      relation first second → relation second third → relation first third)
    {events : List (Event F σ)} (chained : Chained state events final)
    (respects : ∀ event ∈ events, relation event.before event.after) :
    events.Pairwise (fun earlier later => relation earlier.after later.before) := by
  induction events generalizing state with
  | nil => exact List.Pairwise.nil
  | cons event events ih =>
    rcases chained with ⟨start, rest⟩
    have others : ∀ other ∈ events, relation other.before other.after := fun other member =>
      respects other (List.mem_cons_of_mem event member)
    refine List.Pairwise.cons ?_ (ih rest others)
    intro later member
    rcases List.append_of_mem member with ⟨between, after, split⟩
    subst split
    rcases chained_append.mp rest with ⟨middle, reached, equal, _⟩
    rw [equal]
    exact reached.relates reflexive transitive (fun other listed =>
      others other (List.mem_append_left _ listed))

/-- A property that every event preserves holds around every event and at the
end, once it holds at the start. -/
theorem Chained.invariant {events : List (Event F σ)} {state final : σ}
    (chained : Chained state events final) (holds : σ → Prop) (start : holds state)
    (preserves : ∀ event ∈ events, holds event.before → holds event.after) :
    (∀ event ∈ events, holds event.before ∧ holds event.after) ∧ holds final := by
  induction events generalizing state with
  | nil =>
    cases chained
    exact ⟨nofun, start⟩
  | cons event events ih =>
    rcases chained with ⟨equal, rest⟩
    subst equal
    have after := preserves event List.mem_cons_self start
    rcases ih rest after (fun other member =>
      preserves other (List.mem_cons_of_mem event member)) with ⟨around, ending⟩
    exact ⟨List.forall_mem_cons.mpr ⟨⟨start, after⟩, around⟩, ending⟩

/-! ## What a program ensures

`Ensures` is the weakest precondition of a program for all choices of the
environment, while other parties may move the store along `rely` before each
operation and before the outcome is used.  Each event may be assumed to
satisfy `assume`, and has to satisfy `guarantee`; the outcome has to satisfy
`post`.  With equality as `rely` nobody else acts and the program is run
alone. -/

def Ensures (machine : Machine F χ σ) (rely : σ → σ → Prop)
    (assume guarantee : Event F σ → Prop) (post : Except ε α → σ → Prop) :
    Program F ε α → σ → Prop
  | .done value, state => ∀ later, rely state later → post (.ok value) later
  | .fail error, state => ∀ later, rely state later → post (.error error) later
  | .perform operation next, state =>
    ∀ later, rely state later → ∀ choice : χ,
      assume (machine.event choice operation later) →
        guarantee (machine.event choice operation later) ∧
          Ensures machine rely assume guarantee post
            (next (machine.perform choice operation later).1)
            (machine.perform choice operation later).2

section Ensures

variable {machine : Machine F χ σ} {rely : σ → σ → Prop}
variable {assume guarantee : Event F σ → Prop}

variable {post : Except ε α → σ → Prop} {state : σ} {program : Program F ε α}

theorem ensures_perform {β : Type} {operation : F β} {next : β → Program F ε α} :
    Ensures machine rely assume guarantee post (.perform operation next) state ↔
      ∀ later, rely state later → ∀ choice : χ,
        assume (machine.event choice operation later) →
          guarantee (machine.event choice operation later) ∧
            Ensures machine rely assume guarantee post
              (next (machine.perform choice operation later).1)
              (machine.perform choice operation later).2 :=
  Iff.rfl

theorem Ensures.mono {weaker : Except ε α → σ → Prop}
    (ensures : Ensures machine rely assume guarantee post program state)
    (implies : ∀ outcome final, post outcome final → weaker outcome final) :
    Ensures machine rely assume guarantee weaker program state := by
  induction program generalizing state with
  | done | fail =>
    intro later related
    exact implies _ _ (ensures later related)
  | perform operation next ih =>
    intro later related choice assumed
    rcases ensures later related choice assumed with ⟨guaranteed, rest⟩
    exact ⟨guaranteed, ih _ rest⟩

theorem Ensures.and {other : Except ε α → σ → Prop}
    (first : Ensures machine rely assume guarantee post program state)
    (second : Ensures machine rely assume guarantee other program state) :
    Ensures machine rely assume guarantee (fun outcome final => post outcome final ∧
      other outcome final) program state := by
  induction program generalizing state with
  | done | fail => exact fun later related => ⟨first later related, second later related⟩
  | perform operation next ih =>
    intro later related choice assumed
    rcases first later related choice assumed with ⟨guaranteed, rest⟩
    exact ⟨guaranteed, ih _ rest (second later related choice assumed).2⟩

/-- Two guarantees that a program gives are given together. -/
theorem Ensures.both {other : Event F σ → Prop} {second : Except ε α → σ → Prop}
    (first : Ensures machine rely assume guarantee post program state)
    (also : Ensures machine rely assume other second program state) :
    Ensures machine rely assume (fun event => guarantee event ∧ other event)
      (fun outcome final => post outcome final ∧ second outcome final) program state := by
  induction program generalizing state with
  | done | fail => exact fun later related => ⟨first later related, also later related⟩
  | perform operation next ih =>
    intro later related choice assumed
    rcases first later related choice assumed with ⟨guaranteed, rest⟩
    rcases also later related choice assumed with ⟨given, remaining⟩
    exact ⟨⟨guaranteed, given⟩, ih _ rest remaining⟩

/-- More may be assumed about the events, and less guaranteed. -/
theorem Ensures.adapt {stronger weaker : Event F σ → Prop}
    (ensures : Ensures machine rely assume guarantee post program state)
    (implies : ∀ event, stronger event → assume event)
    (weakens : ∀ event, guarantee event → weaker event) :
    Ensures machine rely stronger weaker post program state := by
  induction program generalizing state with
  | done | fail => exact ensures
  | perform operation next ih =>
    intro later related choice assumed
    rcases ensures later related choice (implies _ assumed) with ⟨guaranteed, rest⟩
    exact ⟨weakens _ guaranteed, ih _ rest⟩

section Preorder

variable [IsPreorder σ rely]

/-- What a program ensures survives what the others do. -/
theorem Ensures.stable {moved : σ}
    (ensures : Ensures machine rely assume guarantee post program state)
    (related : rely state moved) :
    Ensures machine rely assume guarantee post program moved := by
  cases program with
  | done | fail | perform =>
    intro later further
    exact ensures later (trans_of rely related further)

/-- The sequencing rule: what the first program ensures is what the second
one starts from, and a failure skips the second. -/
theorem Ensures.bind {rest : α → Program F ε γ} {middle : Except ε α → σ → Prop}
    {post : Except ε γ → σ → Prop}
    (first : Ensures machine rely assume guarantee middle program state)
    (second : ∀ value store, middle (.ok value) store →
      Ensures machine rely assume guarantee post (rest value) store)
    (failed : ∀ error store, middle (.error error) store → post (.error error) store) :
    Ensures machine rely assume guarantee post (program >>= rest) state := by
  induction program generalizing state with
  | done value => exact second value state (first state (refl_of rely state))
  | fail error =>
    intro later related
    exact failed error later (first later related)
  | perform operation next ih =>
    intro later related choice assumed
    rcases first later related choice assumed with ⟨guaranteed, after⟩
    exact ⟨guaranteed, ih _ after⟩

private theorem ensures_walk {events : List (Event F σ)} {last : Program F ε α}
    (walk : Walk machine program events last) :
    ∀ {outcome : Except ε α} {post : Except ε α → σ → Prop} {state final : σ},
      last = .finished outcome →
      Ensures machine rely assume guarantee post program state →
      Chained state events final →
      (∀ event ∈ events, assume event) →
      (∀ event ∈ events, guarantee event) ∧ post outcome final := by
  induction walk with
  | rest =>
    intro outcome post state final finished ensures chained _
    cases chained
    subst finished
    refine ⟨nofun, ?_⟩
    cases outcome with
    | ok | error => exact ensures _ (refl_of rely _)
  | step choice start tail ih =>
    intro outcome post state final finished ensures chained assumed
    rcases chained with ⟨equal, rest⟩
    change start = state at equal
    subst equal
    rcases ensures start (refl_of rely start) choice (assumed _ List.mem_cons_self)
      with ⟨guaranteed, after⟩
    rcases ih finished after rest
      (fun event member => assumed event (List.mem_cons_of_mem _ member))
      with ⟨others, ending⟩
    refine ⟨?_, ending⟩
    intro event member
    rcases List.mem_cons.mp member with equal | later
    · exact equal ▸ guaranteed
    · exact others event later

/-- `Ensures` speaks about every run: when all events of a run meet the
assumption, all of them meet the guarantee and the outcome meets the
postcondition. -/
theorem Ensures.run {final : σ} {events : List (Event F σ)} {outcome : Except ε α}
    (ensures : Ensures machine rely assume guarantee post program state)
    (run : Run machine program state events outcome final)
    (assumed : ∀ event ∈ events, assume event) :
    (∀ event ∈ events, guarantee event) ∧ post outcome final :=
  ensures_walk run.1 rfl ensures run.2 assumed

end Preorder

theorem ensures_attempt {post : Except ε' (Except ε α) → σ → Prop} :
    Ensures machine rely assume guarantee post (program.attempt) state ↔
      Ensures machine rely assume guarantee (fun outcome final => post (.ok outcome) final)
        program state := by
  induction program generalizing state with
  | done | fail => exact Iff.rfl
  | perform operation next ih =>
    simp only [Program.attempt, ensures_perform, ih]

theorem ensures_mapError {rename : ε → ε'} {post : Except ε' α → σ → Prop} :
    Ensures machine rely assume guarantee post (program.mapError rename) state ↔
      Ensures machine rely assume guarantee
        (fun outcome final => post (outcome.mapError rename) final) program state := by
  induction program generalizing state with
  | done | fail => exact Iff.rfl
  | perform operation next ih =>
    simp only [Program.mapError, ensures_perform, ih]

end Ensures

end StatusDashboard.Process
