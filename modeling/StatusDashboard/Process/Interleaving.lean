import StatusDashboard.Process.Program

namespace StatusDashboard.Process

/-!
# Interleaved programs

Any number of parties run their programs against one store.  An interleaving
is one list of events, each tagged with the party that caused it: the events
are chained, and the events of each party are a walk of its program.  A party
that never starts and a party that stops halfway are both included, because a
walk may end anywhere.

`schedule` computes the interleaving that a list of turns produces, so a
concrete interleaving can be evaluated.
-/

universe u

variable {F : Type → Type u} {ε α χ σ ι : Type}

section Interleaving

variable [DecidableEq ι]

/-- The events of one party, in order. -/
def ownEvents (party : ι) (trace : List (ι × Event F σ)) : List (Event F σ) :=
  trace.filterMap (fun entry => if entry.1 = party then some entry.2 else none)

/-- A shared store acted on by all parties, one operation at a time. -/
structure Interleaving (machine : Machine F χ σ) (programs : ι → Program F ε α)
    (state : σ) (trace : List (ι × Event F σ)) (final : σ) : Prop where
  chained : Chained state (trace.map Prod.snd) final
  walks : ∀ party, ∃ last, Walk machine (programs party) (ownEvents party trace) last

theorem ownEvents_append (party : ι) (first second : List (ι × Event F σ)) :
    ownEvents party (first ++ second) = ownEvents party first ++ ownEvents party second := by
  simp [ownEvents]

theorem ownEvents_cons_same (party : ι) (event : Event F σ) (trace : List (ι × Event F σ)) :
    ownEvents party ((party, event) :: trace) = event :: ownEvents party trace := by
  simp [ownEvents]

theorem ownEvents_cons_other {party other : ι} (different : other ≠ party)
    (event : Event F σ) (trace : List (ι × Event F σ)) :
    ownEvents party ((other, event) :: trace) = ownEvents party trace := by
  simp [ownEvents, different]

theorem mem_ownEvents {party : ι} {event : Event F σ} {trace : List (ι × Event F σ)} :
    event ∈ ownEvents party trace ↔ (party, event) ∈ trace := by
  simp only [ownEvents, List.mem_filterMap]
  constructor
  · rintro ⟨⟨owner, found⟩, member, selected⟩
    by_cases same : owner = party
    · subst same
      simp only [if_true, Option.some.injEq] at selected
      exact selected ▸ member
    · simp [same] at selected
  · intro member
    exact ⟨(party, event), member, by simp⟩

/-- Where the first event of a party stands in the trace. -/
theorem exists_first_own {party : ι} {event : Event F σ} {later : List (Event F σ)}
    {trace : List (ι × Event F σ)} (own : ownEvents party trace = event :: later) :
    ∃ before after, trace = before ++ (party, event) :: after ∧
      trace.dropWhile (fun entry => entry.1 ≠ party) = (party, event) :: after := by
  induction trace with
  | nil => cases own
  | cons entry trace ih =>
    rcases entry with ⟨owner, first⟩
    by_cases same : owner = party
    · subst same
      rw [ownEvents_cons_same] at own
      cases own
      exact ⟨[], trace, rfl, by simp⟩
    · rw [ownEvents_cons_other same] at own
      rcases ih own with ⟨before, after, split, dropped⟩
      refine ⟨(owner, first) :: before, after, by rw [split]; rfl, ?_⟩
      rw [List.dropWhile_cons_of_pos (by simpa using same)]
      exact dropped

variable {machine : Machine F χ σ} {programs : ι → Program F ε α} {state final : σ}

/-- The first event of an interleaving is the next operation of its party, and
the rest is an interleaving of what the parties then have left to do. -/
theorem Interleaving.uncons {party : ι} {event : Event F σ} {trace : List (ι × Event F σ)}
    (interleaving : Interleaving machine programs state ((party, event) :: trace) final) :
    ∃ (β : Type) (operation : F β) (next : β → Program F ε α) (choice : χ),
      programs party = .perform operation next ∧
        event = machine.event choice operation state ∧
        Interleaving machine
          (Function.update programs party (next (machine.perform choice operation state).1))
          (machine.perform choice operation state).2 trace final := by
  rcases interleaving.chained with ⟨before, rest⟩
  rcases interleaving.walks party with ⟨last, walk⟩
  rw [ownEvents_cons_same] at walk
  generalize shape : programs party = program at walk
  cases walk with
  | step choice start tail =>
    rename_i β operation next
    change start = state at before
    subst before
    refine ⟨β, operation, next, choice, rfl, rfl, rest, ?_⟩
    intro other
    by_cases same : other = party
    · subst same
      rw [Function.update_self]
      exact ⟨last, tail⟩
    · rw [Function.update_of_ne same]
      rcases interleaving.walks other with ⟨otherLast, otherWalk⟩
      rw [ownEvents_cons_other (Ne.symm same)] at otherWalk
      exact ⟨otherLast, otherWalk⟩

/-- Cutting an interleaving short leaves an interleaving. -/
theorem Interleaving.prefix_of_append {first second : List (ι × Event F σ)}
    (interleaving : Interleaving machine programs state (first ++ second) final) :
    ∃ middle, Interleaving machine programs state first middle ∧
      Chained middle (second.map Prod.snd) final := by
  have chained := interleaving.chained
  rw [List.map_append, chained_append] at chained
  rcases chained with ⟨middle, before, after⟩
  refine ⟨middle, ⟨before, ?_⟩, after⟩
  intro party
  rcases interleaving.walks party with ⟨last, walk⟩
  rw [ownEvents_append, walk_append] at walk
  rcases walk with ⟨point, walked, _⟩
  exact ⟨point, walked⟩

/-! ## Entries and what came before them -/

/-- A property of each entry of a list and the entries before it, `seen` first. -/
def AlongFrom {κ : Type*} (holds : List κ → κ → Prop) : List κ → List κ → Prop
  | _, [] => True
  | seen, entry :: later => holds seen entry ∧ AlongFrom holds (seen ++ [entry]) later

/-- A property of each entry of a list and the entries before it. -/
def Along {κ : Type*} (holds : List κ → κ → Prop) (entries : List κ) : Prop :=
  AlongFrom holds [] entries

instance AlongFrom.decidable {κ : Type*} {holds : List κ → κ → Prop}
    [∀ seen entry, Decidable (holds seen entry)] :
    (seen entries : List κ) → Decidable (AlongFrom holds seen entries)
  | _, [] => .isTrue trivial
  | seen, entry :: later =>
    have : Decidable (AlongFrom holds (seen ++ [entry]) later) := AlongFrom.decidable _ later
    inferInstanceAs (Decidable (_ ∧ _))

instance {κ : Type*} {holds : List κ → κ → Prop} [∀ seen entry, Decidable (holds seen entry)]
    (entries : List κ) : Decidable (Along holds entries) :=
  AlongFrom.decidable [] entries

theorem alongFrom_iff {κ : Type*} {holds : List κ → κ → Prop} {seen entries : List κ} :
    AlongFrom holds seen entries ↔ ∀ earlier entry later, entries = earlier ++ entry :: later →
      holds (seen ++ earlier) entry := by
  induction entries generalizing seen with
  | nil => simp [AlongFrom]
  | cons first rest ih =>
    rw [AlongFrom, ih]
    constructor
    · rintro ⟨here, others⟩ earlier entry later split
      cases earlier with
      | nil =>
        cases split
        simpa using here
      | cons head earlier =>
        cases split
        simpa using others earlier entry later rfl
    · intro every
      refine ⟨by simpa using every [] first rest rfl, ?_⟩
      intro earlier entry later split
      subst split
      simpa using every (first :: earlier) entry later rfl

theorem along_iff {κ : Type*} {holds : List κ → κ → Prop} {entries : List κ} :
    Along holds entries ↔ ∀ earlier entry later, entries = earlier ++ entry :: later →
      holds earlier entry :=
  alongFrom_iff

omit [DecidableEq ι] in
/-- A value that every event advances in the same way is the starting value
advanced by all events. -/
theorem Chained.tracks {β : Type*} {trace : List (ι × Event F σ)}
    (chained : Chained state (trace.map Prod.snd) final) (value : σ → β)
    (advance : β → ι × Event F σ → β)
    (steps : ∀ entry ∈ trace, value entry.2.after = advance (value entry.2.before) entry) :
    value final = trace.foldl advance (value state) := by
  induction trace generalizing state with
  | nil =>
    cases chained
    rfl
  | cons entry trace ih =>
    rcases chained with ⟨start, rest⟩
    subst start
    rw [List.foldl_cons, ← steps entry List.mem_cons_self]
    exact ih rest (fun other member => steps other (List.mem_cons_of_mem entry member))

/-- Every event of an interleaving is an operation of the machine. -/
theorem Interleaving.event_eq {trace : List (ι × Event F σ)}
    (interleaving : Interleaving machine programs state trace final)
    {party : ι} {event : Event F σ} (member : (party, event) ∈ trace) :
    ∃ choice, event = machine.event choice event.operation event.before := by
  induction trace generalizing programs state with
  | nil => exact absurd member List.not_mem_nil
  | cons entry trace ih =>
    rcases entry with ⟨owner, first⟩
    rcases interleaving.uncons with ⟨β, operation, next, choice, _, shape, rest⟩
    rcases List.mem_cons.mp member with equal | later
    · cases equal
      exact ⟨choice, by rw [shape]; rfl⟩
    · exact ih rest later

/-- The rely and guarantee rule.  Each program ensures its guarantee while the
others move the store along `rely`, and what is guaranteed moves the store
along `rely`.  Then every event of every interleaving is as guaranteed, and it
acts on a store that `rely` reaches from the start. -/
theorem Interleaving.guarantees {rely : σ → σ → Prop} [IsPreorder σ rely]
    {assume guarantee : ι → Event F σ → Prop} {post : ι → Except ε α → σ → Prop}
    {trace : List (ι × Event F σ)}
    (interleaving : Interleaving machine programs state trace final)
    (ensures : ∀ party, Ensures machine rely (assume party) (guarantee party) (post party)
      (programs party) state)
    (respects : ∀ party {β : Type} (choice : χ) (operation : F β) (store : σ),
      rely state store →
      assume party (machine.event choice operation store) →
      guarantee party (machine.event choice operation store) →
      rely store (machine.perform choice operation store).2)
    (assumed : ∀ entry ∈ trace, assume entry.1 entry.2) :
    (∀ entry ∈ trace, guarantee entry.1 entry.2 ∧ rely state entry.2.before) ∧
      rely state final := by
  induction trace generalizing programs state with
  | nil =>
    have equal := interleaving.chained
    cases equal
    exact ⟨nofun, refl_of rely _⟩
  | cons entry trace ih =>
    rcases entry with ⟨party, event⟩
    rcases interleaving.uncons with ⟨β, operation, next, choice, shape, eventShape, rest⟩
    subst eventShape
    have eventAssumed := assumed _ List.mem_cons_self
    have partyEnsures := ensures party
    rw [shape] at partyEnsures
    rcases partyEnsures state (refl_of rely state) choice eventAssumed
      with ⟨guaranteed, continues⟩
    have moved := respects party choice operation state (refl_of rely state)
      eventAssumed guaranteed
    have nextEnsures : ∀ other, Ensures machine rely (assume other) (guarantee other)
        (post other)
        (Function.update programs party
          (next (machine.perform choice operation state).1) other)
        (machine.perform choice operation state).2 := by
      intro other
      by_cases same : other = party
      · subst same
        rw [Function.update_self]
        exact continues
      · rw [Function.update_of_ne same]
        exact (ensures other).stable moved
    rcases ih rest nextEnsures
      (fun other _ laterChoice laterOperation store reached =>
        respects other laterChoice laterOperation store (trans_of rely moved reached))
      (fun other member => assumed other (List.mem_cons_of_mem _ member))
      with ⟨around, ending⟩
    refine ⟨?_, trans_of rely moved ending⟩
    intro other member
    rcases List.mem_cons.mp member with equal | later
    · subst equal
      exact ⟨guaranteed, refl_of rely state⟩
    · rcases around other later with ⟨held, reached⟩
      exact ⟨held, trans_of rely moved reached⟩

/-! ## Computing an interleaving -/

/-- Give the parties turns in the listed order.  A turn of a party with
nothing left to do is skipped. -/
def schedule (machine : Machine F χ σ) (programs : ι → Program F ε α) :
    List (ι × χ) → σ → List (ι × Event F σ) × σ
  | [], store => ([], store)
  | (party, choice) :: turns, store =>
    match programs party with
    | .done _ => schedule machine programs turns store
    | .fail _ => schedule machine programs turns store
    | .perform operation next =>
      let outcome := machine.perform choice operation store
      let later := schedule machine (Function.update programs party (next outcome.1))
        turns outcome.2
      ((party, machine.event choice operation store) :: later.1, later.2)

theorem schedule_interleaving (machine : Machine F χ σ) (programs : ι → Program F ε α)
    (turns : List (ι × χ)) (store : σ) :
    Interleaving machine programs store (schedule machine programs turns store).1
      (schedule machine programs turns store).2 := by
  induction turns generalizing programs store with
  | nil => exact ⟨rfl, fun party => ⟨programs party, .rest _⟩⟩
  | cons turn turns ih =>
    rcases turn with ⟨party, choice⟩
    cases shape : programs party with
    | done | fail =>
      simp only [schedule, shape]
      exact ih programs store
    | perform operation next =>
      simp only [schedule, shape]
      have later := ih (Function.update programs party
        (next (machine.perform choice operation store).1))
        (machine.perform choice operation store).2
      refine ⟨⟨rfl, later.chained⟩, ?_⟩
      intro other
      rcases later.walks other with ⟨last, walk⟩
      by_cases same : other = party
      · subst same
        rw [Function.update_self] at walk
        rw [ownEvents_cons_same, shape]
        exact ⟨last, .step choice store walk⟩
      · rw [Function.update_of_ne same] at walk
        rw [ownEvents_cons_other (Ne.symm same)]
        exact ⟨last, walk⟩

end Interleaving

/-! ## Computing a sequential run -/

/-- Run a program alone; the environment makes the same choice at every
operation. -/
def Program.evaluate (machine : Machine F χ σ) (choice : χ) :
    Program F ε α → σ → Except ε α × σ
  | .done value, store => (.ok value, store)
  | .fail error, store => (.error error, store)
  | .perform operation next, store =>
    (next (machine.perform choice operation store).1).evaluate machine choice
      (machine.perform choice operation store).2

/-- The events of an evaluated program. -/
def Program.trail (machine : Machine F χ σ) (choice : χ) :
    Program F ε α → σ → List (Event F σ)
  | .done _, _ => []
  | .fail _, _ => []
  | .perform operation next, store =>
    machine.event choice operation store ::
      (next (machine.perform choice operation store).1).trail machine choice
        (machine.perform choice operation store).2

/-- An evaluated program has a run with the evaluated outcome, so every
program run alone comes to an end. -/
theorem Program.evaluate_run (machine : Machine F χ σ) (choice : χ)
    (program : Program F ε α) (store : σ) :
    Run machine program store (program.trail machine choice store)
      (program.evaluate machine choice store).1 (program.evaluate machine choice store).2 := by
  induction program generalizing store with
  | done | fail => exact ⟨.rest _, rfl⟩
  | perform operation next ih =>
    rcases ih (machine.perform choice operation store).1
      (machine.perform choice operation store).2 with ⟨walk, chained⟩
    exact ⟨.step choice store walk, rfl, chained⟩

theorem Program.evaluate_bind {γ : Type} (machine : Machine F χ σ) (choice : χ)
    (program : Program F ε α) (rest : α → Program F ε γ) (store : σ) :
    (program >>= rest).evaluate machine choice store =
      match program.evaluate machine choice store with
      | (.ok value, later) => (rest value).evaluate machine choice later
      | (.error error, later) => (.error error, later) := by
  induction program generalizing store with
  | done | fail => rfl
  | perform operation next ih =>
    exact ih (machine.perform choice operation store).1 (machine.perform choice operation store).2

theorem Program.evaluate_attempt {ε' : Type} (machine : Machine F χ σ) (choice : χ)
    (program : Program F ε α) (store : σ) :
    (program.attempt : Program F ε' (Except ε α)).evaluate machine choice store =
      (.ok (program.evaluate machine choice store).1,
        (program.evaluate machine choice store).2) := by
  induction program generalizing store with
  | done | fail => rfl
  | perform operation next ih =>
    exact ih (machine.perform choice operation store).1 (machine.perform choice operation store).2

theorem Program.evaluate_mapError {ε' : Type} (machine : Machine F χ σ) (choice : χ)
    (program : Program F ε α) (rename : ε → ε') (store : σ) :
    (program.mapError rename).evaluate machine choice store =
      ((program.evaluate machine choice store).1.mapError rename,
        (program.evaluate machine choice store).2) := by
  induction program generalizing store with
  | done | fail => rfl
  | perform operation next ih =>
    exact ih (machine.perform choice operation store).1 (machine.perform choice operation store).2

end StatusDashboard.Process
